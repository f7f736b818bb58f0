import LintBridge.Proofs.JsonTexts
import Mathlib.Data.List.Induction
import Mathlib.Tactic.IntervalCases
/-!
Whole documents that are written are read back. The text of a value, on one line or over several,
is read as that value wherever it stands, as long as what follows it is no part of a number
(`Json.ReadBack`). Arrays and objects are read part by part, so that whatever is put together from
values that are read back is read back itself (`Json.readBack_of_written`).
-/
namespace LintBridge.Json

/-- The characters of a value at a nesting depth. -/
def chars (indent : Option Nat) (depth : Nat) (v : Value) : List Char :=
  (render indent depth v).toList

/-- A text that a number before it does not run into. -/
def Parted (s : List Char) : Prop :=
  ∀ c rest, s = c :: rest → c.isDigit = false ∧ c ≠ '.' ∧ c ≠ 'e' ∧ c ≠ 'E'

/-- A character with which a value may begin, also as the first one of an array or of a document. -/
abbrev Opens (c : Char) : Prop := isSpace c = false ∧ c ≠ ']' ∧ c ≠ '\uFEFF'

/-- A value is read from its text. -/
structure ReadBack (indent : Option Nat) (v : Value) : Prop where
  begins : ∀ depth, ∃ c s, chars indent depth v = c :: s ∧ Opens c
  reads : ∀ depth fuel rest, (chars indent depth v).length < fuel → Parted rest →
    value fuel (chars indent depth v ++ rest) = .ok (v, rest)

/-- Nothing but blanks. -/
def Blank (s : List Char) : Prop := ∀ c ∈ s, isSpace c = true

theorem skipSpace_blank {s : List Char} (blank : Blank s) (rest : List Char) :
    skipSpace (s ++ rest) = skipSpace rest := by
  unfold skipSpace
  exact List.dropWhile_append_of_pos blank

theorem skipSpace_of_not_space {c : Char} (h : isSpace c = false) (rest : List Char) :
    skipSpace (c :: rest) = c :: rest := by
  simp [skipSpace, h]

theorem parted_cons {c : Char} (apart : c.isDigit = false ∧ c ≠ '.' ∧ c ≠ 'e' ∧ c ≠ 'E')
    (rest : List Char) : Parted (c :: rest) := by
  rintro c' rest' ⟨⟩
  exact apart

theorem parted_blank {s : List Char} (blank : Blank s) {rest : List Char} (parted : Parted rest) :
    Parted (s ++ rest) := by
  cases s with
  | nil => exact parted
  | cons c s =>
    refine parted_cons ?_ _
    have space := blank c List.mem_cons_self
    simp only [isSpace, Bool.or_eq_true, decide_eq_true_eq] at space
    rcases space with ((rfl | rfl) | rfl) | rfl <;> decide

/-- Between the parts of a container are blanks, and a comma. -/
theorem layout_blank (indent : Option Nat) (depth : Nat) :
    Blank (layout indent depth).opening.toList ∧ Blank (layout indent depth).closing.toList ∧
      ∃ s, (layout indent depth).comma.toList = ',' :: s ∧ Blank s := by
  have line (n : Nat) : Blank ('\n' :: List.replicate n ' ') := by
    intro c mem
    rcases List.mem_cons.mp mem with rfl | mem
    · rfl
    · rw [List.eq_of_mem_replicate mem]
      rfl
  cases indent with
  | none => exact ⟨by simp [layout, Blank], by simp [layout, Blank], [' '], by simp [layout],
      by simp [Blank, isSpace]⟩
  | some n =>
    refine ⟨?_, ?_, '\n' :: List.replicate (n * (depth + 1)) ' ', ?_, line _⟩
    · simpa [layout] using line (n * (depth + 1))
    · simpa [layout] using line (n * depth)
    · simp [layout]

variable {indent : Option Nat}

theorem chars_leaf (v : Value) (h : leaf? v ≠ none) (depth : Nat) :
    chars indent depth v = ((leaf? v).getD "").toList := by
  cases v <;> simp_all [chars, render, leaf?]

theorem readBack_null : ReadBack indent .null where
  begins depth := ⟨'n', ['u', 'l', 'l'], chars_leaf .null (by simp [leaf?]) depth, by decide⟩
  reads depth fuel rest enough parted := by
    obtain ⟨fuel, rfl⟩ := Nat.exists_eq_add_one_of_ne_zero (Nat.ne_zero_of_lt enough)
    rw [chars_leaf .null (by simp [leaf?])]
    rfl

theorem readBack_bool (b : Bool) : ReadBack indent (.bool b) where
  begins depth := by
    rw [chars_leaf (.bool b) (by simp [leaf?])]
    cases b
    · exact ⟨'f', ['a', 'l', 's', 'e'], rfl, by decide⟩
    · exact ⟨'t', ['r', 'u', 'e'], rfl, by decide⟩
  reads depth fuel rest enough parted := by
    obtain ⟨fuel, rfl⟩ := Nat.exists_eq_add_one_of_ne_zero (Nat.ne_zero_of_lt enough)
    rw [chars_leaf (.bool b) (by simp [leaf?])]
    cases b <;> rfl

theorem chars_text (s : String) (depth : Nat) :
    chars indent depth (.text s) = '"' :: (s.toList.flatMap charText ++ ['"']) :=
  (chars_leaf (.text s) (by simp [leaf?]) depth).trans (stringText_toList s)

theorem readBack_text (s : String) : ReadBack indent (.text s) where
  begins depth := ⟨'"', _, chars_text s depth, by decide⟩
  reads depth fuel rest enough parted := by
    obtain ⟨fuel, rfl⟩ := Nat.exists_eq_add_one_of_ne_zero (Nat.ne_zero_of_lt enough)
    rw [chars_text, List.cons_append, List.append_assoc, value, if_pos rfl, List.cons_append,
      List.nil_append, string_text]
    rfl

/-- An integer with no more digits than are read. -/
def Short (n : Int) : Prop := (Nat.toDigits 10 n.natAbs).length ≤ digitLimit

theorem short_of_lt {n : Int} {k : Nat} (h : n.natAbs < 10 ^ k) (filled : 0 < k)
    (few : k ≤ digitLimit) : Short n :=
  Nat.le_trans ((Nat.length_toDigits_le_iff (by decide) filled).mpr h) few

theorem digitsValue_toDigits (n : Nat) : Numeral.digitsValue (Nat.toDigits 10 n) = n :=
  Nat.ofDigitChars_ten_toDigits

theorem isDigit_of_mem_toDigits {n : Nat} {c : Char} (mem : c ∈ Nat.toDigits 10 n) :
    c.isDigit = true :=
  Nat.isDigit_of_mem_toDigits (by decide) (by decide) mem

/-- Only zero begins with a zero. -/
theorem eq_zero_of_toDigits {n : Nat} {rest : List Char} (h : Nat.toDigits 10 n = '0' :: rest) :
    n = 0 := by
  induction n using Nat.strongRecOn generalizing rest with
  | ind n ih =>
    by_cases small : n < 10
    · rw [Nat.toDigits_of_lt_base small, List.cons.injEq, Nat.digitChar_eq_zero] at h
      exact h.1
    · rw [Nat.toDigits_of_base_le (by decide) (by omega)] at h
      have filled : Nat.toDigits 10 (n / 10) ≠ [] := Nat.toDigits_ne_nil
      obtain ⟨c, front, digits⟩ := List.exists_cons_of_ne_nil filled
      rw [digits, List.cons_append, List.cons.injEq] at h
      rw [h.1] at digits
      have := ih (n / 10) (by omega) digits
      omega

theorem takeWhile_digits {digits rest : List Char} (all : ∀ c ∈ digits, c.isDigit = true)
    (parted : Parted rest) : (digits ++ rest).takeWhile Char.isDigit = digits ∧
      (digits ++ rest).dropWhile Char.isDigit = rest := by
  rw [List.takeWhile_append_of_pos all, List.dropWhile_append_of_pos all]
  cases rest with
  | nil => simp
  | cons c rest => simp [(parted c rest rfl).1]

theorem wholeDigits_toDigits (n : Nat) {rest : List Char} (parted : Parted rest) :
    wholeDigits (Nat.toDigits 10 n ++ rest) = (Nat.toDigits 10 n, rest) := by
  obtain ⟨taken, dropped⟩ := takeWhile_digits (fun c => isDigit_of_mem_toDigits) parted
  obtain ⟨c, more, digits⟩ := List.exists_cons_of_ne_nil (Nat.toDigits_ne_nil (n := n) (b := 10))
  by_cases zero : c = '0'
  · subst zero
    have := eq_zero_of_toDigits digits
    subst this
    rfl
  · rw [digits, List.cons_append] at taken dropped ⊢
    unfold wholeDigits
    split
    next same => exact absurd (List.cons.inj same).1 zero
    next => rw [taken, dropped]

theorem number_toDigits {n : Nat} (short : (Nat.toDigits 10 n).length ≤ digitLimit) (left : Nat)
    (negative : Bool) {rest : List Char} (parted : Parted rest) :
    number left negative (Nat.toDigits 10 n ++ rest) =
      .ok (.int (if negative then -n else n), rest) := by
  have noFraction : fraction? rest = none := by
    unfold fraction?
    split
    next rest => exact absurd rfl (parted _ _ rfl).2.1
    next => rfl
  have noExponent : exponent? rest = none := by
    unfold exponent?
    split
    next c rest =>
      obtain ⟨-, -, small, large⟩ := parted _ _ rfl
      rw [if_neg (by simp [small, large])]
    next => rfl
  have filled : Nat.toDigits 10 n ≠ [] := Nat.toDigits_ne_nil
  unfold number
  rw [wholeDigits_toDigits n parted]
  split
  next same => exact absurd (Prod.mk.inj same).1 filled
  next whole rest' _ pair =>
    obtain ⟨rfl, rfl⟩ := Prod.mk.inj pair
    simp only [noFraction, noExponent, Option.elim_none]
    rw [if_neg (Nat.not_lt.mpr short), digitsValue_toDigits]

/-- A digit begins nothing but a number. -/
theorem value_digit {c : Char} (digit : c.isDigit = true) (fuel : Nat) (rest : List Char) :
    Opens c ∧
      value (fuel + 1) (c :: rest) = number (rest.length + 1) false (c :: rest) ∧
      value (fuel + 1) ('-' :: c :: rest) = number (rest.length + 2) true (c :: rest) := by
  obtain ⟨low, high⟩ : 48 ≤ c.toNat ∧ c.toNat ≤ 57 := by
    simp only [Char.isDigit, Bool.and_eq_true, decide_eq_true_eq] at digit
    exact digit
  rw [← Char.ofNat_toNat c]
  generalize c.toNat = n at low high
  interval_cases n <;> exact ⟨by decide, rfl, rfl⟩

theorem chars_int (n : Int) (depth : Nat) : chars indent depth (.int n) =
    if n < 0 then '-' :: Nat.toDigits 10 n.natAbs else Nat.toDigits 10 n.natAbs := by
  rw [chars_leaf (.int n) (by simp [leaf?])]
  cases n with
  | ofNat m =>
    rw [if_neg (by simp)]
    exact Nat.toList_repr
  | negSucc m =>
    rw [if_pos (Int.negSucc_lt_zero m)]
    change ("-" ++ Nat.repr (m + 1)).toList = '-' :: Nat.toDigits 10 (m + 1)
    rw [String.toList_append, Nat.toList_repr]
    rfl

theorem readBack_int {n : Int} (short : Short n) : ReadBack indent (.int n) := by
  obtain ⟨c, more, digits⟩ :=
    List.exists_cons_of_ne_nil (Nat.toDigits_ne_nil (n := n.natAbs) (b := 10))
  have digit : c.isDigit = true :=
    isDigit_of_mem_toDigits (n := n.natAbs) (digits ▸ List.mem_cons_self)
  refine ⟨fun depth => ?_, fun depth fuel rest enough parted => ?_⟩
  · rw [chars_int, digits]
    obtain ⟨opens, -⟩ := value_digit digit 0 []
    split
    · exact ⟨'-', _, rfl, by decide⟩
    · exact ⟨c, more, rfl, opens⟩
  · obtain ⟨fuel, rfl⟩ := Nat.exists_eq_add_one_of_ne_zero (Nat.ne_zero_of_lt enough)
    obtain ⟨-, positive, negative⟩ := value_digit digit fuel (more ++ rest)
    rw [← List.cons_append, ← digits] at positive negative
    rw [chars_int]
    split
    next below =>
      rw [List.cons_append, negative, number_toDigits short _ _ parted, if_pos rfl,
        Int.ofNat_natAbs_of_nonpos (Int.le_of_lt below), Int.neg_neg]
    next above =>
      rw [positive, number_toDigits short _ _ parted, if_neg (by decide),
        Int.natAbs_of_nonneg (Int.not_lt.mp above)]

theorem bracketed_toList (l : Layout) (left right : String) {parts : List String}
    (filled : parts ≠ []) : (bracketed l left right parts).toList =
      left.toList ++ (l.opening.toList ++ (l.comma.toList.intercalate (parts.map String.toList) ++
        (l.closing.toList ++ right.toList))) := by
  have nonempty : parts.isEmpty = false := by simpa using filled
  simp [bracketed, nonempty]

theorem renderAll_eq_map (depth : Nat) (vs : List Value) :
    renderAll indent depth vs = vs.map (render indent depth) := by
  induction vs with
  | nil => rfl
  | cons v vs ih => rw [renderAll, ih, List.map_cons]

/-- Parts between commas begin as the first of them does, and that is found behind blanks. -/
theorem intercalate_begins (sep : List Char) {blanks part : List Char} (blank : Blank blanks)
    (parts : List (List Char)) {c : Char} {s : List Char} (begins : part = c :: s)
    (visible : isSpace c = false) (rest : List Char) :
    ∃ t, sep.intercalate (part :: parts) ++ rest = c :: t ∧
      skipSpace (blanks ++ (c :: t)) = c :: t := by
  rw [begins, List.intercalate_cons_cons_left]
  refine ⟨_, rfl, ?_⟩
  rw [skipSpace_blank blank, skipSpace_of_not_space visible]

/-- The items of an array are read up to its closing bracket. -/
theorem items_chars {vs : List Value} (each : ∀ v ∈ vs, ReadBack indent v) (filled : vs ≠ [])
    {blanks closing : List Char} (blank : Blank blanks) (blank' : Blank closing) (depth : Nat)
    (fuel : Nat)
    (enough : ((',' :: blanks).intercalate (vs.map (chars indent depth))).length + 1 < fuel)
    (after : List Char) (acc : List Value) :
    items fuel ((',' :: blanks).intercalate (vs.map (chars indent depth)) ++
      (closing ++ ']' :: after)) acc = .ok (acc.reverse ++ vs, after) := by
  induction vs generalizing fuel acc with
  | nil => exact absurd rfl filled
  | cons v vs ih =>
    obtain ⟨first, others⟩ := List.forall_mem_cons.mp each
    obtain ⟨fuel, rfl⟩ := Nat.exists_eq_add_one_of_ne_zero (Nat.ne_zero_of_lt enough)
    cases vs with
    | nil =>
      have parted : Parted (closing ++ ']' :: after) :=
        parted_blank blank' (parted_cons (by decide) _)
      have bracket : skipSpace (closing ++ ']' :: after) = ']' :: after := skipSpace_blank blank' _
      rw [List.map_cons, List.map_nil, List.intercalate_singleton] at enough ⊢
      rw [items, first.reads depth fuel _ (by omega) parted]
      simp only [bracket]
      simp
    | cons next vs =>
      obtain ⟨c, s, begins, visible, -⟩ := (others next List.mem_cons_self).begins depth
      obtain ⟨t, ht, start⟩ := intercalate_begins (',' :: blanks) blank
        (vs.map (chars indent depth)) begins visible (closing ++ ']' :: after)
      rw [← ht] at start
      rw [List.map_cons, List.map_cons, List.intercalate_cons_cons] at enough ⊢
      rw [← List.map_cons] at enough start ⊢
      generalize hr : (',' :: blanks).intercalate ((next :: vs).map (chars indent depth)) = r
        at enough start ⊢
      have comma := skipSpace_of_not_space (show isSpace ',' = false by rfl)
        (blanks ++ (r ++ (closing ++ ']' :: after)))
      simp only [List.length_append, List.length_cons] at enough
      simp only [List.append_assoc, List.cons_append]
      rw [items, first.reads depth fuel _ (by omega) (parted_cons (by decide) _)]
      simp only [comma, start]
      rw [← hr, ih others (by simp) fuel (by rw [hr]; omega)]
      simp

theorem chars_list {vs : List Value} (filled : vs ≠ []) (depth : Nat) :
    chars indent depth (.list vs) =
      '[' :: ((layout indent depth).opening.toList ++
        ((layout indent depth).comma.toList.intercalate (vs.map (chars indent (depth + 1))) ++
          ((layout indent depth).closing.toList ++ [']']))) := by
  have parts : renderAll indent (depth + 1) vs ≠ [] := by
    simpa [renderAll_eq_map] using filled
  have brackets := bracketed_toList (layout indent depth) "[" "]" parts
  rw [renderAll_eq_map, List.map_map] at brackets
  rw [chars, render, renderAll_eq_map]
  exact brackets

theorem value_array {s t : List Char} {c : Char} (start : skipSpace s = c :: t) (filled : c ≠ ']')
    (fuel : Nat) : value (fuel + 1) ('[' :: s) =
      (items fuel (c :: t) []).map fun (xs, after) => (.list xs, after) := by
  rw [value, if_neg (by decide), if_pos rfl, start]
  split
  next closed => exact absurd (List.cons.inj closed).1 filled
  next => rfl

/-- An array of values that are read back is read back. -/
theorem readBack_list {vs : List Value} (each : ∀ v ∈ vs, ReadBack indent v) :
    ReadBack indent (.list vs) := by
  by_cases filled : vs = []
  · subst filled
    have empty (depth : Nat) : chars indent depth (.list []) = ['[', ']'] := by
      simp [chars, render, renderAll, bracketed]
    refine ⟨fun depth => ⟨'[', [']'], empty depth, by decide⟩, ?_⟩
    intro depth fuel rest enough parted
    obtain ⟨fuel, rfl⟩ := Nat.exists_eq_add_one_of_ne_zero (Nat.ne_zero_of_lt enough)
    rw [empty]
    rfl
  refine ⟨fun depth => ⟨'[', _, chars_list filled depth, by decide⟩, ?_⟩
  intro depth fuel rest enough parted
  obtain ⟨fuel, rfl⟩ := Nat.exists_eq_add_one_of_ne_zero (Nat.ne_zero_of_lt enough)
  obtain ⟨opening, closing, blanks, comma, blank⟩ := layout_blank indent depth
  rw [chars_list filled, comma] at enough ⊢
  simp only [List.length_cons, List.length_append, List.length_nil] at enough
  have read := items_chars each filled blank closing (depth + 1) fuel (by omega) rest []
  -- The first item stands behind the blanks after the bracket.
  obtain ⟨v, vs, rfl⟩ := List.exists_cons_of_ne_nil filled
  obtain ⟨c, s, begins, visible, bracket, -⟩ := (each v List.mem_cons_self).begins (depth + 1)
  obtain ⟨t, ht, start⟩ := intercalate_begins (',' :: blanks) opening
    (vs.map (chars indent (depth + 1))) begins visible
    ((layout indent depth).closing.toList ++ ']' :: rest)
  simp only [List.map_cons, List.cons_append, List.append_assoc, List.nil_append] at read ht ⊢
  rw [ht] at read ⊢
  rw [value_array start bracket, read]
  rfl

/-- An entry of an object at a nesting depth. -/
def fieldChars (indent : Option Nat) (depth : Nat) (e : String × Value) : List Char :=
  (stringText e.1).toList ++ ':' :: ' ' :: chars indent depth e.2

theorem fieldChars_begins (depth : Nat) (e : String × Value) : ∃ s,
    fieldChars indent depth e = '"' :: s :=
  ⟨_, by rw [fieldChars, stringText_toList]; rfl⟩

/-- An entry is read, and what follows it decides whether there are more. -/
theorem members_field {v : Value} (back : ReadBack indent v) (name : String) (depth : Nat)
    {fuel : Nat} (enough : (chars indent depth v).length < fuel) {rest : List Char}
    (parted : Parted rest) (acc : List (Value × Value)) :
    (∀ more, skipSpace rest = ',' :: more →
      members (fuel + 1) (fieldChars indent depth (name, v) ++ rest) acc =
        members fuel (skipSpace more) ((.text name, v) :: acc)) ∧
    (∀ after, skipSpace rest = '\x7d' :: after →
      members (fuel + 1) (fieldChars indent depth (name, v) ++ rest) acc =
        .ok (((.text name, v) :: acc).reverse, after)) := by
  have spelled : fieldChars indent depth (name, v) ++ rest = '"' :: (name.toList.flatMap charText ++
      '"' :: ':' :: ' ' :: (chars indent depth v ++ rest)) := by
    simp [fieldChars, stringText_toList]
  obtain ⟨c, s, begins, visible, -⟩ := back.begins depth
  have colon : skipSpace (':' :: ' ' :: (chars indent depth v ++ rest)) =
      ':' :: ' ' :: (chars indent depth v ++ rest) := rfl
  have blank : skipSpace (' ' :: (chars indent depth v ++ rest)) =
      chars indent depth v ++ rest := by
    rw [begins]
    exact skipSpace_of_not_space visible _
  rw [spelled, members]
  simp only [string_text, colon, blank, back.reads depth fuel rest enough parted]
  exact ⟨fun more h => by simp only [h], fun after h => by simp only [h]⟩

/-- The entries of an object are read up to its closing brace. -/
theorem members_chars {fields : List (String × Value)}
    (each : ∀ e ∈ fields, ReadBack indent e.2) (filled : fields ≠ []) {blanks closing : List Char}
    (blank : Blank blanks) (blank' : Blank closing) (depth : Nat) (fuel : Nat)
    (enough : ((',' :: blanks).intercalate (fields.map (fieldChars indent depth))).length < fuel)
    (after : List Char) (acc : List (Value × Value)) :
    members fuel ((',' :: blanks).intercalate (fields.map (fieldChars indent depth)) ++
      (closing ++ '\x7d' :: after)) acc =
        .ok (acc.reverse ++ fields.map fun e => (.text e.1, e.2), after) := by
  induction fields generalizing fuel acc with
  | nil => exact absurd rfl filled
  | cons e fields ih =>
    obtain ⟨name, v⟩ := e
    obtain ⟨first, others⟩ := List.forall_mem_cons.mp each
    replace first : ReadBack indent v := first
    obtain ⟨fuel, rfl⟩ := Nat.exists_eq_add_one_of_ne_zero (Nat.ne_zero_of_lt enough)
    have shorter : (chars indent depth v).length + 2 ≤
        (fieldChars indent depth (name, v)).length := by
      simp only [fieldChars, List.length_append, List.length_cons]
      omega
    cases fields with
    | nil =>
      have parted : Parted (closing ++ '\x7d' :: after) :=
        parted_blank blank' (parted_cons (by decide) _)
      have brace : skipSpace (closing ++ '\x7d' :: after) = '\x7d' :: after :=
        skipSpace_blank blank' _
      rw [List.map_cons, List.map_nil, List.intercalate_singleton] at enough ⊢
      rw [(members_field first name depth (by omega) parted acc).2 after brace]
      simp
    | cons next fields =>
      obtain ⟨s, begins⟩ : ∃ s, fieldChars indent depth next = '"' :: s :=
        fieldChars_begins depth next
      obtain ⟨t, ht, start⟩ := intercalate_begins (',' :: blanks) blank
        (fields.map (fieldChars indent depth)) begins rfl (closing ++ '\x7d' :: after)
      rw [← ht] at start
      rw [List.map_cons, List.map_cons, List.intercalate_cons_cons] at enough ⊢
      rw [← List.map_cons] at enough start ⊢
      generalize hr : (',' :: blanks).intercalate
        ((next :: fields).map (fieldChars indent depth)) = r at enough start ⊢
      have comma := skipSpace_of_not_space (show isSpace ',' = false by rfl)
        (blanks ++ (r ++ (closing ++ '\x7d' :: after)))
      simp only [List.length_append, List.length_cons] at enough
      simp only [List.append_assoc, List.cons_append]
      rw [(members_field first name depth (by omega) (parted_cons (by decide) _) acc).1 _ comma,
        start, ← hr, ih others (by simp) fuel (by rw [hr]; omega)]
      simp

theorem renderEntries_eq_map (depth : Nat) (fields : List (String × Value)) :
    renderEntries indent depth (fields.map fun e => (.text e.1, e.2)) =
      fields.map fun e => stringText e.1 ++ ": " ++ render indent depth e.2 := by
  induction fields with
  | nil => rfl
  | cons e fields ih =>
    rw [List.map_cons, renderEntries, ih, List.map_cons]
    rfl

theorem chars_record {fields : List (String × Value)} (filled : fields ≠ []) (depth : Nat) :
    chars indent depth (.record fields) =
      '\x7b' :: ((layout indent depth).opening.toList ++
        ((layout indent depth).comma.toList.intercalate
            (fields.map (fieldChars indent (depth + 1))) ++
          ((layout indent depth).closing.toList ++ ['\x7d']))) := by
  have parts : renderEntries indent (depth + 1) (fields.map fun e => (.text e.1, e.2)) ≠ [] := by
    simpa [renderEntries_eq_map] using filled
  have braces := bracketed_toList (layout indent depth) "\x7b" "\x7d" parts
  have spelled : fields.map (String.toList ∘ fun e =>
      stringText e.1 ++ ": " ++ render indent (depth + 1) e.2) =
      fields.map (fieldChars indent (depth + 1)) := by
    simp [fieldChars, chars]
  rw [renderEntries_eq_map, List.map_map, spelled] at braces
  rw [chars, Value.record, render, renderEntries_eq_map]
  exact braces

/-- An object whose values are read back is read as its entries. -/
theorem value_record {fields : List (String × Value)} (each : ∀ e ∈ fields, ReadBack indent e.2)
    (depth : Nat) {fuel : Nat} (enough : (chars indent depth (.record fields)).length < fuel)
    (rest : List Char) : value fuel (chars indent depth (.record fields) ++ rest) =
      .ok (.map (Value.Entries.ofPairs (fields.map fun e => (.text e.1, e.2))), rest) := by
  obtain ⟨fuel, rfl⟩ := Nat.exists_eq_add_one_of_ne_zero (Nat.ne_zero_of_lt enough)
  by_cases filled : fields = []
  · subst filled
    have empty : chars indent depth (.record []) = ['\x7b', '\x7d'] := by
      simp [chars, Value.record, render, renderEntries, bracketed]
    rw [empty]
    rfl
  obtain ⟨opening, closing, blanks, comma, blank⟩ := layout_blank indent depth
  rw [chars_record filled, comma] at enough ⊢
  simp only [List.length_cons, List.length_append, List.length_nil] at enough
  have read := members_chars each filled blank closing (depth + 1) fuel (by omega) rest []
  -- The first name stands behind the blanks after the brace.
  obtain ⟨e, fields, rfl⟩ := List.exists_cons_of_ne_nil filled
  obtain ⟨s, begins⟩ : ∃ s, fieldChars indent (depth + 1) e = '"' :: s :=
    fieldChars_begins (depth + 1) e
  obtain ⟨t, ht, start⟩ := intercalate_begins (',' :: blanks) opening
    (fields.map (fieldChars indent (depth + 1))) begins rfl
    ((layout indent depth).closing.toList ++ '\x7d' :: rest)
  simp only [List.map_cons, List.cons_append, List.append_assoc, List.nil_append] at read ht ⊢
  rw [ht] at read ⊢
  rw [value, if_neg (by decide), if_neg (by decide), if_pos rfl, start]
  exact congrArg (Except.map _) read

theorem put_fresh {es : Value.Entries} {key : Value} (fresh : ∀ e ∈ es, e.1.sameKey key = false)
    (v : Value) : es.put key v = es ++ [(key, v)] := by
  induction es with
  | nil => rfl
  | cons e es ih =>
    obtain ⟨first, others⟩ := List.forall_mem_cons.mp fresh
    rw [Value.Entries.put, first, if_neg (by decide), ih others, List.cons_append]

/-- Entries with names of their own stay as they are. -/
theorem ofPairs_fields {fields : List (String × Value)} (apart : (fields.map Prod.fst).Nodup) :
    Value.Entries.ofPairs (fields.map fun e => (.text e.1, e.2)) =
      fields.map fun e => (.text e.1, e.2) := by
  induction fields using List.reverseRecOn with
  | nil => rfl
  | append_singleton fields e ih =>
    rw [List.map_append, List.nodup_append] at apart
    obtain ⟨before, -, other⟩ := apart
    have fresh : ∀ x ∈ fields.map (fun e => (Value.text e.1, e.2)),
        x.1.sameKey (.text e.1) = false := by
      rw [List.forall_mem_map]
      intro x mem
      simpa [Value.sameKey] using other x.1 (List.mem_map_of_mem mem) e.1 (by simp)
    have front := ih before
    unfold Value.Entries.ofPairs at front ⊢
    rw [List.map_append, List.foldl_append, front]
    exact put_fresh fresh e.2

/-- An object of values that are read back, under names of their own, is read back. -/
theorem readBack_record {fields : List (String × Value)}
    (each : ∀ e ∈ fields, ReadBack indent e.2) (apart : (fields.map Prod.fst).Nodup) :
    ReadBack indent (.record fields) where
  begins depth := by
    by_cases filled : fields = []
    · subst filled
      exact ⟨'\x7b', ['\x7d'], by simp [chars, Value.record, render, renderEntries, bracketed], rfl,
        by decide⟩
    · exact ⟨'\x7b', _, chars_record filled depth, by decide⟩
  reads depth fuel rest enough _ := by
    rw [value_record each depth enough rest, ofPairs_fields apart]
    rfl

/-- A value that is put together from null, truth values, texts and integers that are not too long,
by arrays and by objects with names of their own. -/
inductive Written : Value → Prop where
  | null : Written .null
  | bool (b : Bool) : Written (.bool b)
  | int {n : Int} (short : Short n) : Written (.int n)
  | text (s : String) : Written (.text s)
  | list {vs : List Value} (each : ∀ v ∈ vs, Written v) : Written (.list vs)
  | record {fields : List (String × Value)} (each : ∀ e ∈ fields, Written e.2)
    (apart : (fields.map Prod.fst).Nodup) : Written (.record fields)

theorem readBack_of_written {v : Value} (h : Written v) : ReadBack indent v := by
  induction h with
  | null => exact readBack_null
  | bool b => exact readBack_bool b
  | int short => exact readBack_int short
  | text s => exact readBack_text s
  | list _ each => exact readBack_list each
  | record _ apart each => exact readBack_record each apart

/-- A document on lines of its own is read as the value that was written. -/
theorem decode_written {v : Value} (h : Written v) :
    decode (render indent 0 v ++ "\n") = .ok v := by
  have back : ReadBack indent v := readBack_of_written h
  obtain ⟨c, s, spelled, visible, -, mark⟩ := back.begins 0
  have text : (render indent 0 v ++ "\n").toList = chars indent 0 v ++ ['\n'] :=
    String.toList_append
  have body : skipSpace (chars indent 0 v ++ ['\n']) = chars indent 0 v ++ ['\n'] := by
    rw [spelled, List.cons_append, skipSpace_of_not_space visible]
  have enough : (chars indent 0 v).length < (chars indent 0 v ++ ['\n']).length + 1 := by
    rw [List.length_append, List.length_singleton]
    omega
  have read := back.reads 0 _ ['\n'] enough (parted_cons (by decide) [])
  have whole : document (chars indent 0 v ++ ['\n']) = .ok v := by
    unfold document
    split
    next t first =>
      rw [spelled, List.cons_append] at first
      exact absurd (List.cons.inj first).1 mark
    next =>
      simp only [body, read]
      rfl
  rw [decode, text, whole]
  rfl

end LintBridge.Json
