import Mathlib.Data.List.TakeWhile
import LintBridge.Json.Decode
/-!
Where an integer with too many digits can come from. The reader only ever goes on behind
what it has read, so that everything it looks at is an end of the text, and an integer that
it refuses is a run of digits in the text (`run_of_digitLimit`).
-/
namespace LintBridge.Json

/-- A run of so many digits in a text, more than an integer may have. -/
def LongRun (digits : Nat) (s : List Char) : Prop :=
  ∃ run, run <:+: s ∧ run.length = digits ∧ (∀ c ∈ run, c.isDigit = true) ∧ digitLimit < digits

/-- A reading that keeps to a text: it leaves an end of it, and an integer that it refuses
stands in it. -/
def Tracks {α : Type} (s : List Char) : Reading α → Prop
  | .ok (_, rest) => rest <:+ s
  | .error (.digitLimit digits) => LongRun digits s
  | .error (.complaint _ _) => True

theorem LongRun.of_suffix {digits : Nat} {s s' : List Char} (h : LongRun digits s')
    (hs : s' <:+ s) : LongRun digits s := by
  obtain ⟨run, inside, rest⟩ := h
  exact ⟨run, inside.trans hs.isInfix, rest⟩

theorem Tracks.of_suffix {α : Type} {s s' : List Char} {r : Reading α} (h : Tracks s' r)
    (hs : s' <:+ s) : Tracks s r := by
  match r, h with
  | .ok (_, rest), h => exact List.IsSuffix.trans h hs
  | .error (.digitLimit digits), h => exact LongRun.of_suffix h hs
  | .error (.complaint _ _), _ => trivial

theorem Tracks.map {α β : Type} {s : List Char} {r : Reading α} (h : Tracks s r) (f : α → β) :
    Tracks s (r.map fun (x, after) => (f x, after)) := by
  match r, h with
  | .ok (_, rest), h => exact h
  | .error (.digitLimit digits), h => exact h
  | .error (.complaint _ _), _ => trivial

theorem tracks_error {α β : Type} {s : List Char} {stop : Stop}
    (h : Tracks s (.error stop : Reading α)) : Tracks s (.error stop : Reading β) := by
  cases stop with
  | digitLimit digits => exact h
  | complaint what left => trivial

theorem skipSpace_suffix (s : List Char) : skipSpace s <:+ s := List.dropWhile_suffix _

theorem codeUnit?_suffix {s rest : List Char} {n : Nat} (h : codeUnit? s = some (n, rest)) :
    rest <:+ s := by
  unfold codeUnit? at h
  split at h
  · next a b c d tail =>
    simp only [bind, Option.bind_eq_some_iff, Option.some.injEq, Prod.mk.injEq] at h
    obtain ⟨-, -, -, -, -, -, -, -, -, rfl⟩ := h
    exact ⟨[a, b, c, d], rfl⟩
  · cases h

theorem tracks_unicodeEscape (s : List Char) : Tracks s (unicodeEscape s) := by
  unfold unicodeEscape
  split
  · trivial
  · split
    · trivial
    · next high rest hs =>
      have first := codeUnit?_suffix hs
      split
      · split
        · next digits _ =>
          split
          · trivial
          · next low after hd =>
            have second : after <:+ '\\' :: 'u' :: digits :=
              (codeUnit?_suffix hd).trans ⟨['\\', 'u'], rfl⟩
            split
            · exact second.trans first
            · exact first
        · exact first
      · exact first

theorem tracks_stringTail (start fuel : Nat) (s acc : List Char) :
    Tracks s (stringTail start fuel s acc) := by
  induction fuel generalizing s acc with
  | zero => trivial
  | succ fuel ih =>
    cases s with
    | nil => trivial
    | cons c rest =>
      have tail : rest <:+ c :: rest := List.suffix_cons c rest
      unfold stringTail
      split
      · exact tail
      · split
        · split
          · trivial
          · next digits =>
            have escape := tracks_unicodeEscape digits
            have digits_suffix : digits <:+ c :: 'u' :: digits := ⟨[c, 'u'], rfl⟩
            split
            · next stop he =>
              rw [he] at escape
              exact tracks_error (escape.of_suffix digits_suffix)
            · next d after he =>
              rw [he] at escape
              exact (ih after _).of_suffix (List.IsSuffix.trans escape digits_suffix)
          · next e after he =>
            split
            · exact (ih after _).of_suffix ⟨[c, e], rfl⟩
            · trivial
        · split
          · trivial
          · exact (ih rest _).of_suffix tail

theorem tracks_string (s : List Char) : Tracks s (string s) := tracks_stringTail _ _ s []

theorem fraction?_suffix {s places rest : List Char} (h : fraction? s = some (places, rest)) :
    rest <:+ s := by
  unfold fraction? at h
  split at h
  · next body =>
    dsimp only at h
    split at h
    · cases h
    · simp only [Option.some.injEq, Prod.mk.injEq] at h
      obtain ⟨-, rfl⟩ := h
      exact (List.dropWhile_suffix _).trans (List.suffix_cons _ _)
  · cases h

theorem sign_suffix (s : List Char) : (Numeral.sign s).2 <:+ s := by
  unfold Numeral.sign
  split
  · exact List.suffix_cons _ _
  · exact List.suffix_cons _ _
  · exact List.suffix_refl _

theorem exponent?_suffix {s rest : List Char} {n : Int} (h : exponent? s = some (n, rest)) :
    rest <:+ s := by
  unfold exponent? at h
  split at h
  · next c body =>
    dsimp only at h
    split at h
    · split at h
      · cases h
      · simp only [Option.some.injEq, Prod.mk.injEq] at h
        obtain ⟨-, rfl⟩ := h
        exact (List.dropWhile_suffix _).trans
          ((sign_suffix body).trans (List.suffix_cons c body))
    · cases h
  · cases h

theorem wholeDigits_append (s : List Char) : (wholeDigits s).1 ++ (wholeDigits s).2 = s := by
  unfold wholeDigits
  split
  · rfl
  · exact List.takeWhile_append_dropWhile

theorem isDigit_of_mem_wholeDigits {s : List Char} {c : Char} (h : c ∈ (wholeDigits s).1) :
    c.isDigit = true := by
  unfold wholeDigits at h
  split at h
  · obtain rfl := List.mem_singleton.mp h
    rfl
  · exact List.mem_takeWhile_imp h

/-- What follows a number, with its fraction and its exponent if it has them. -/
theorem rest_of_parts_suffix (rest : List Char) :
    ((exponent? ((fraction? rest).elim rest Prod.snd)).map Prod.snd).getD
      (((fraction? rest).map Prod.snd).getD rest) <:+ rest := by
  cases hf : fraction? rest with
  | none =>
    cases he : exponent? rest with
    | none => simp [he]
    | some e =>
      have h : e.2 <:+ rest := exponent?_suffix he
      simpa [he] using h
  | some f =>
    have fraction : f.2 <:+ rest := fraction?_suffix hf
    cases he : exponent? f.2 with
    | none => simpa [he] using fraction
    | some e =>
      have h : e.2 <:+ f.2 := exponent?_suffix he
      simpa [he] using h.trans fraction

theorem tracks_number (left : Nat) (negative : Bool) (s : List Char) :
    Tracks s (number left negative s) := by
  have parts := wholeDigits_append s
  have digits : ∀ c ∈ (wholeDigits s).1, c.isDigit = true := fun c => isDigit_of_mem_wholeDigits
  unfold number
  generalize wholeDigits s = w at parts digits ⊢
  obtain ⟨whole, rest⟩ := w
  have behind : rest <:+ s := ⟨whole, parts⟩
  cases whole with
  | nil => trivial
  | cons d ds =>
    dsimp only
    split
    · split
      · next long => exact ⟨d :: ds, ⟨[], rest, parts⟩, rfl, digits, long⟩
      · exact behind
    · exact (rest_of_parts_suffix rest).trans behind

theorem word?_suffix {s rest : List Char} {v : Value} (h : word? s = some (v, rest)) :
    rest <:+ s := by
  obtain ⟨⟨name, value⟩, -, hw⟩ := List.exists_of_findSome?_eq_some h
  simp only at hw
  split at hw
  · simp only [Option.some.injEq, Prod.mk.injEq] at hw
    obtain ⟨-, rfl⟩ := hw
    exact List.drop_suffix _ s
  · cases hw

/-- What stands behind a mark that follows blanks. -/
theorem behind_mark {s rest more : List Char} {c : Char} (h : skipSpace rest = c :: more)
    (hs : rest <:+ s) : more <:+ s := by
  have blanks := skipSpace_suffix rest
  rw [h] at blanks
  exact (List.suffix_cons c more).trans (blanks.trans hs)

theorem tracks_value {fuel : Nat} (inItems : ∀ s acc, Tracks s (items fuel s acc))
    (inMembers : ∀ s acc, Tracks s (members fuel s acc)) (s : List Char) :
    Tracks s (value (fuel + 1) s) := by
  cases s with
  | nil => trivial
  | cons c rest =>
    have tail : rest <:+ c :: rest := List.suffix_cons c rest
    have inner : skipSpace rest <:+ c :: rest := (skipSpace_suffix rest).trans tail
    rw [value]
    split
    · exact ((tracks_string rest).of_suffix tail).map _
    · split
      · split
        · next after hs => exact behind_mark hs tail
        · exact ((inItems _ []).of_suffix inner).map _
      · split
        · split
          · next after hs => exact behind_mark hs tail
          · exact ((inMembers _ []).of_suffix inner).map fun es =>
              Value.map (Value.Entries.ofPairs es)
        · split
          · next result hw => exact word?_suffix hw
          · split
            · exact (tracks_number _ true rest).of_suffix tail
            · exact tracks_number _ false (c :: rest)

theorem tracks_items {fuel : Nat} (inValue : ∀ s, Tracks s (value fuel s))
    (inItems : ∀ s acc, Tracks s (items fuel s acc)) (s : List Char) (acc : List Value) :
    Tracks s (items (fuel + 1) s acc) := by
  rw [items]
  have first := inValue s
  split
  · next stop hv =>
    rw [hv] at first
    exact tracks_error first
  · next v rest hv =>
    rw [hv] at first
    split
    · next more hs =>
      exact (inItems _ _).of_suffix ((skipSpace_suffix more).trans (behind_mark hs first))
    · next after hs => exact behind_mark hs first
    · trivial

theorem tracks_members {fuel : Nat} (inValue : ∀ s, Tracks s (value fuel s))
    (inMembers : ∀ s acc, Tracks s (members fuel s acc)) (s : List Char)
    (acc : List (Value × Value)) : Tracks s (members (fuel + 1) s acc) := by
  unfold members
  split
  · next rest =>
    have key := (tracks_string rest).of_suffix (List.suffix_cons '"' rest)
    split
    · next stop hk =>
      rw [hk] at key
      exact tracks_error key
    · next name afterKey hk =>
      rw [hk] at key
      split
      · next body hs =>
        have inside := (inValue (skipSpace body)).of_suffix
          ((skipSpace_suffix body).trans (behind_mark hs key))
        split
        · next stop hv =>
          rw [hv] at inside
          exact tracks_error inside
        · next v afterValue hv =>
          rw [hv] at inside
          split
          · next more hs =>
            exact (inMembers _ _).of_suffix
              ((skipSpace_suffix more).trans (behind_mark hs inside))
          · next after hs => exact behind_mark hs inside
          · trivial
      · trivial
  · trivial

/-- The readers of nested data call each other with one step of fuel less. -/
theorem tracks_nested (fuel : Nat) :
    (∀ s, Tracks s (value fuel s)) ∧ (∀ s acc, Tracks s (items fuel s acc)) ∧
      ∀ s acc, Tracks s (members fuel s acc) := by
  induction fuel with
  | zero => exact ⟨fun s => trivial, fun s acc => trivial, fun s acc => trivial⟩
  | succ fuel ih =>
    obtain ⟨inValue, inItems, inMembers⟩ := ih
    exact ⟨tracks_value inItems inMembers, tracks_items inValue inItems,
      tracks_members inValue inMembers⟩

theorem tracks_document_value (s : List Char) (fuel : Nat) :
    Tracks s (value fuel (skipSpace s)) :=
  ((tracks_nested fuel).1 (skipSpace s)).of_suffix (skipSpace_suffix s)

/-- An integer that is refused for its length is a run of digits in the text. -/
theorem run_of_digitLimit {s : String} {digits : Nat}
    (h : decode s = .error (.digitLimit digits)) : LongRun digits s.toList := by
  unfold decode at h
  cases hd : document s.toList with
  | ok v => simp [hd, Except.mapError] at h
  | error stop =>
    cases stop with
    | complaint what left => simp [hd, Except.mapError, Stop.refusal] at h
    | digitLimit n =>
      obtain rfl : n = digits := by simpa [hd, Except.mapError, Stop.refusal] using h
      have tracked := tracks_document_value s.toList ((skipSpace s.toList).length + 1)
      unfold document at hd
      split at hd
      · cases hd
      · dsimp only at hd
        split at hd
        · next stop hv =>
          obtain rfl : stop = .digitLimit n := by simpa using hd
          rw [hv] at tracked
          exact tracked
        · split at hd <;> cases hd

theorem number_nines {n : Nat} (h : digitLimit < n) (left : Nat) (negative : Bool) :
    number left negative (List.replicate n '9') = .error (.digitLimit n) := by
  obtain ⟨m, rfl⟩ := Nat.exists_eq_succ_of_ne_zero (Nat.ne_of_gt (Nat.zero_lt_of_lt h))
  have whole : wholeDigits (List.replicate (m + 1) '9') = (List.replicate (m + 1) '9', []) := by
    simp [wholeDigits, List.replicate_succ]
  unfold number
  rw [Nat.succ_eq_add_one, whole]
  simp only [List.replicate_succ]
  simp [fraction?, exponent?, h]

theorem value_nines {n : Nat} (h : digitLimit < n) (fuel : Nat) :
    value (fuel + 1) (List.replicate n '9') = .error (.digitLimit n) := by
  have number := number_nines h n false
  obtain ⟨m, rfl⟩ := Nat.exists_eq_succ_of_ne_zero (Nat.ne_of_gt (Nat.zero_lt_of_lt h))
  simp only [Nat.succ_eq_add_one, List.replicate_succ] at number ⊢
  simpa [value, word?, words] using number

/-- A text of more digits than an integer may have is refused. -/
theorem document_nines {n : Nat} (h : digitLimit < n) :
    document (List.replicate n '9') = .error (.digitLimit n) := by
  have body : skipSpace (List.replicate n '9') = List.replicate n '9' := by
    simp [skipSpace, isSpace]
  have value := value_nines h (List.replicate n '9').length
  obtain ⟨m, rfl⟩ := Nat.exists_eq_succ_of_ne_zero (Nat.ne_of_gt (Nat.zero_lt_of_lt h))
  unfold document
  split
  next tail heq => simp [List.replicate_succ] at heq
  next => simp only [body, value]

end LintBridge.Json
