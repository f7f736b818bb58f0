import LintBridge.Yaml.Scan
import LintBridge.Proofs.Layout
/-!
Scalars read back. Whatever places a layout folds, the readers of plain and of quoted scalars
give the text that was laid out, and end behind it.
-/
namespace LintBridge.Yaml

namespace Cursor

@[simp] theorem next_rest (c : Cursor) : c.next.rest = c.rest.tail := by
  obtain ⟨rest, index, line, column⟩ := c
  cases rest with
  | nil => rfl
  | cons ch rest =>
    unfold next
    dsimp only
    split <;> rfl

@[simp] theorem skip_rest (c : Cursor) (n : Nat) : (c.skip n).rest = c.rest.drop n := by
  induction n generalizing c with
  | zero => rfl
  | succ n ih => rw [skip, ih, next_rest, List.drop_tail]

theorem skip_rest_append {c : Cursor} {a b : List Char} {n : Nat} (hr : c.rest = a ++ b)
    (length : a.length = n) : (c.skip n).rest = b := by
  rw [skip_rest, hr, List.drop_left' length]

/-- Fuel that is enough for a text is enough, one unit less, for what stands behind its front. -/
theorem fuel_behind {c c' : Cursor} {a b : List Char} {fuel : Nat}
    (hf : c.rest.length < fuel + 1) (hr : c.rest = a ++ b) (filled : a ≠ [])
    (behind : c'.rest = b) : c'.rest.length < fuel := by
  have positive := List.length_pos_iff.mpr filled
  rw [hr, List.length_append] at hf
  rw [behind]
  omega

theorem span_eq {c : Cursor} {p : Char → Bool} {a b : List Char} (h : c.rest = a ++ b)
    (ha : ∀ ch ∈ a, p ch = true) (hb : ∀ ch ∈ b.head?, p ch = false) :
    c.span p = (a, c.skip a.length) := by
  have none_taken : b.takeWhile p = [] := by
    cases b with
    | nil => rfl
    | cons ch b => simp [hb ch rfl]
  unfold span
  rw [h, List.takeWhile_append_of_pos ha, none_taken, List.append_nil]

theorem skipWhile_eq {c : Cursor} {p : Char → Bool} {a b : List Char} (h : c.rest = a ++ b)
    (ha : ∀ ch ∈ a, p ch = true) (hb : ∀ ch ∈ b.head?, p ch = false) :
    c.skipWhile p = c.skip a.length := by
  rw [skipWhile, span_eq h ha hb]

theorem lineBreak?_feed {c : Cursor} {s : List Char} (h : c.rest = '\n' :: s) :
    c.lineBreak? = some ('\n', c.next) := by
  unfold lineBreak?
  rw [h]
  simp

theorem lineBreak?_eq_none {c : Cursor} (h : ∀ ch ∈ c.rest.head?, isBreak ch = false) :
    c.lineBreak? = none := by
  unfold lineBreak?
  split
  next hr => exact absurd (h '\r' (by rw [hr]; rfl)) (by decide)
  next ch _ _ hr =>
    have plain := h ch (by rw [hr]; rfl)
    have parts := plain
    simp only [isBreak, Bool.or_eq_false_iff, decide_eq_false_iff_not] at parts
    simp [plain, parts]
  next => rfl

theorem atSeparator_eq_false {c : Cursor} (h : ∀ ch ∈ c.rest.head?, ch ≠ '-' ∧ ch ≠ '.') :
    c.atSeparator = false := by
  have other (mark : Char) (hm : mark = '-' ∨ mark = '.') : c.atMark mark = false := by
    unfold atMark
    cases hr : c.rest with
    | nil => rfl
    | cons ch rest =>
      have apart := h ch (by rw [hr]; rfl)
      have : ch ≠ mark := by
        rcases hm with rfl | rfl
        · exact apart.1
        · exact apart.2
      simp [this]
  simp [atSeparator, other]

end Cursor

/-- An ASCII character that leaves a mark. -/
def Visible (c : Char) : Prop := ' ' < c ∧ c ≤ '~'

instance : DecidablePred Visible := fun c => inferInstanceAs (Decidable (' ' < c ∧ c ≤ '~'))

/-- Nothing that belongs to a stretch of blanks and line ends begins here. -/
def Stops (s : List Char) : Prop :=
  ∀ ch ∈ s.head?, ch ≠ ' ' ∧ ch ≠ '\t' ∧ isBreak ch = false

theorem Stops.noBreak {s : List Char} (h : Stops s) : ∀ ch ∈ s.head?, isBreak ch = false :=
  fun ch hc => (h ch hc).2.2

theorem Stops.noBlank {s : List Char} (h : Stops s) :
    ∀ ch ∈ s.head?, (decide (ch = ' ') || decide (ch = '\t')) = false := by
  intro ch hc
  simp [(h ch hc).1, (h ch hc).2.1]

theorem Visible.stops {c : Char} (h : Visible c) (s : List Char) : Stops (c :: s) := by
  have apart (d : Char) (hd : ¬Visible d) : c ≠ d := fun same => hd (same ▸ h)
  intro ch hc
  obtain rfl : c = ch := by simpa using hc
  refine ⟨apart ' ' (by decide), apart '\t' (by decide), ?_⟩
  simp only [isBreak, Bool.or_eq_false_iff, decide_eq_false_iff_not]
  exact ⟨⟨⟨⟨apart '\n' (by decide), apart '\r' (by decide)⟩, apart '\x85' (by decide)⟩,
    apart '\u2028' (by decide)⟩, apart '\u2029' (by decide)⟩

/-- Runs of visible characters, of blanks and of line feeds, the last two never next to each
other. -/
inductive Legible : List (RunKind × List Char) → Prop
  | nil : Legible []
  | other {run : List Char} {more : List (RunKind × List Char)} (filled : run ≠ [])
      (visible : ∀ c ∈ run, Visible c) (rest : Legible more) : Legible ((.other, run) :: more)
  | blanks {n : Nat} {more : List (RunKind × List Char)} (next : ∀ r ∈ more.head?, r.1 = .other)
      (rest : Legible more) : Legible ((.blanks, List.replicate (n + 1) ' ') :: more)
  | breaks {n : Nat} {more : List (RunKind × List Char)} (next : ∀ r ∈ more.head?, r.1 = .other)
      (rest : Legible more) : Legible ((.breaks, List.replicate (n + 1) '\n') :: more)

theorem Legible.of_space {kind : RunKind} {run : List Char} {more : List (RunKind × List Char)}
    (h : Legible ((kind, run) :: more)) (space : kind ≠ .other) :
    (∀ r ∈ more.head?, r.1 = .other) ∧ Legible more := by
  cases h with
  | other _ _ _ => exact absurd rfl space
  | blanks next rest => exact ⟨next, rest⟩
  | breaks next rest => exact ⟨next, rest⟩

/-- What begins with a visible character, or ends at a place that stops, stops. -/
theorem Legible.stops {spell : Char → List Char} (spelled : ∀ c, ∃ s, spell c = c :: s)
    {rs : List (RunKind × List Char)} {w tail : List Char} (legible : Legible rs)
    (next : ∀ r ∈ rs.head?, r.1 = .other) (layout : Layout spell rs w) (ht : Stops tail) :
    Stops (w ++ tail) := by
  cases layout with
  | nil => exact ht
  | @other run more w rest =>
    cases legible with
    | other filled visible _ =>
      obtain ⟨c, run, rfl⟩ := List.exists_cons_of_ne_nil filled
      obtain ⟨s, hs⟩ := spelled c
      simp only [List.flatMap_cons, hs, List.cons_append]
      exact (visible c List.mem_cons_self).stops _
  | blanks rest => exact absurd (next _ rfl) (by simp)
  | fold inside rest => exact absurd (next _ rfl) (by simp)
  | breaks rest => exact absurd (next _ rfl) (by simp)

theorem anyPlace_append {test : Option Char → Char → Option Char → Bool} {before : Option Char}
    {xs ys : List Char} (h : anyPlace test before (xs ++ ys) = false) :
    anyPlace test (xs.getLast?.or before) ys = false := by
  induction xs generalizing before with
  | nil => simpa using h
  | cons x xs ih =>
    rw [List.cons_append, anyPlace, Bool.or_eq_false_iff] at h
    have later := ih h.2
    rw [List.getLast?_cons]
    cases hx : xs.getLast? <;> simpa [hx] using later

/-- A blank next to the end of a line. -/
def besideBreak (before : Option Char) (c : Char) (_ : Option Char) : Bool :=
  (before.any isBreakMark && c = ' ') || (before = some ' ' && isBreakMark c)

theorem runKind_eq_breaks {c : Char} (h : runKind c = .breaks) : isBreakMark c = true := by
  unfold runKind at h
  split at h
  · cases h
  · split at h
    next mark => exact mark
    next => cases h

/-- The first run of a text without line ends is made of blanks or of other characters. -/
theorem Running.head_ne_breaks {kind : RunKind} {run : List Char}
    {more : List (RunKind × List Char)} (running : Running ((kind, run) :: more))
    (unbroken : ∀ c ∈ run, isBreakMark c = false) : kind ≠ .breaks := by
  rintro rfl
  cases running with
  | cons filled alike apart rest =>
    obtain ⟨c, run, rfl⟩ := List.exists_cons_of_ne_nil filled
    have mark := runKind_eq_breaks (alike c List.mem_cons_self)
    rw [unbroken c List.mem_cons_self] at mark
    cases mark

theorem exists_eq_replicate {run : List Char} {d : Char} (filled : run ≠ [])
    (all : ∀ c ∈ run, c = d) : ∃ n, run = List.replicate (n + 1) d := by
  obtain ⟨n, length⟩ := Nat.exists_eq_add_one_of_ne_zero (mt List.length_eq_zero_iff.mp filled)
  exact ⟨n, List.eq_replicate_iff.mpr ⟨length, all⟩⟩

/-- In a text without special characters a line feed is the one character that ends a line. -/
theorem eq_feed_of_isBreakMark {c : Char} (plainly : isSpecial c = false)
    (mark : isBreakMark c = true) : c = '\n' := by
  have marks : ((c = '\n' ∨ c = '\x85') ∨ c = '\u2028') ∨ c = '\u2029' := by
    simpa [isBreakMark, endsWordChar.isBreakMark] using mark
  obtain ((feed | rfl) | rfl) | rfl := marks
  · exact feed
  all_goals exact absurd plainly (by decide)

/-- In a text without special characters everything but blanks and line ends is visible. -/
theorem visible_of_other {c : Char} (plainly : isSpecial c = false) (other : runKind c = .other) :
    Visible c := by
  have blank : c ≠ ' ' := fun same => absurd (same ▸ other) (by decide)
  have feed : c ≠ '\n' := fun same => absurd (same ▸ other) (by decide)
  have range : ' ' ≤ c ∧ c ≤ '~' := by simpa [isSpecial, feed] using plainly
  exact ⟨Std.lt_of_le_of_ne range.1 (Ne.symm blank), range.2⟩

/-- The run behind blanks and line ends is made of other characters if those two do not meet. -/
theorem next_other {kind : RunKind} {run : List Char} {more : List (RunKind × List Char)}
    (space : kind ≠ .other) (filled : run ≠ []) (alike : ∀ c ∈ run, runKind c = kind)
    (apart : ∀ r ∈ more.head?, r.1 ≠ kind) (rest : Running more) {before : Option Char}
    (pairs : anyPlace besideBreak before (run ++ flat more) = false) :
    ∀ r ∈ more.head?, r.1 = .other := by
  intro r hr
  cases rest with
  | nil => cases hr
  | @cons kind' run' more filled' alike' _ _ =>
    obtain rfl := Option.some.inj hr
    have differ := apart _ hr
    obtain ⟨d, run', rfl⟩ := List.exists_cons_of_ne_nil filled'
    have meet := anyPlace_append pairs
    rw [List.getLast?_eq_some_getLast filled, flat_cons, List.cons_append, anyPlace,
      Bool.or_eq_false_iff] at meet
    have last := alike _ (List.getLast_mem filled)
    have first := alike' d List.mem_cons_self
    cases kind with
    | other => exact absurd rfl space
    | blanks =>
      cases kind' with
      | other => rfl
      | blanks => exact absurd rfl differ
      | breaks =>
        have := meet.1
        simp [besideBreak, runKind_eq_blanks last, runKind_eq_breaks first] at this
    | breaks =>
      cases kind' with
      | other => rfl
      | breaks => exact absurd rfl differ
      | blanks =>
        have := meet.1
        simp [besideBreak, runKind_eq_blanks first, runKind_eq_breaks last] at this

/-- A text without special characters in which no blank stands next to the end of a line is
legible. -/
theorem Running.legible {rs : List (RunKind × List Char)} (running : Running rs)
    (plainly : ∀ c ∈ flat rs, isSpecial c = false) {before : Option Char}
    (pairs : anyPlace besideBreak before (flat rs) = false) : Legible rs := by
  induction running generalizing before with
  | nil => exact .nil
  | @cons kind run more filled alike apart rest ih =>
    rw [flat_cons] at pairs plainly
    have plainly' := fun c hc => plainly c (List.mem_append_right _ hc)
    have later := anyPlace_append pairs
    have legible := ih plainly' later
    cases kind with
    | other =>
      refine .other filled (fun c hc => ?_) legible
      exact visible_of_other (plainly c (List.mem_append_left _ hc)) (alike c hc)
    | blanks =>
      obtain ⟨n, rfl⟩ := exists_eq_replicate filled fun c hc => runKind_eq_blanks (alike c hc)
      exact .blanks (next_other (by simp) filled alike apart rest pairs) legible
    | breaks =>
      obtain ⟨n, rfl⟩ := exists_eq_replicate filled fun c hc => eq_feed_of_isBreakMark
        (plainly c (List.mem_append_left _ hc)) (runKind_eq_breaks (alike c hc))
      exact .breaks (next_other (by simp) filled alike apart rest pairs) legible

/-- The empty lines of a quoted scalar, and the indentation of the next one. -/
theorem quotedBreaks_feeds {k fuel : Nat} {w : List Char} {c : Cursor} (acc : List Char)
    (hr : c.rest = List.replicate k '\n' ++ ' ' :: ' ' :: w) (hw : Stops w) (hf : k < fuel) :
    ∃ c', c'.rest = w ∧ quotedBreaks fuel c acc = .ok (acc ++ List.replicate k '\n', c') := by
  induction k generalizing fuel c acc with
  | zero =>
    obtain ⟨fuel, rfl⟩ := Nat.exists_eq_add_one_of_ne_zero (Nat.ne_zero_of_lt hf)
    have blanks : c.rest = [' ', ' '] ++ w := hr
    have skipped := Cursor.skipWhile_eq (p := fun ch => ch = ' ' || ch = '\t') blanks (by simp)
      hw.noBlank
    have behind : (c.skip 2).rest = w := by rw [Cursor.skip_rest, hr]; rfl
    refine ⟨c.skip 2, behind, ?_⟩
    rw [quotedBreaks, Cursor.atSeparator_eq_false (by rw [hr]; simp)]
    simp only [Bool.false_eq_true, if_false, skipped, List.length_cons, List.length_nil]
    rw [Cursor.lineBreak?_eq_none (by rw [behind]; exact hw.noBreak)]
    simp
  | succ k ih =>
    obtain ⟨fuel, rfl⟩ := Nat.exists_eq_add_one_of_ne_zero (Nat.ne_zero_of_lt hf)
    have line : c.rest = [] ++ '\n' :: (List.replicate k '\n' ++ ' ' :: ' ' :: w) := by
      rw [hr]
      simp [List.replicate_succ]
    have skipped := Cursor.skipWhile_eq (p := fun ch => ch = ' ' || ch = '\t') line (by simp)
      (by simp)
    have next : c.next.rest = List.replicate k '\n' ++ ' ' :: ' ' :: w := by
      rw [Cursor.next_rest, line]
      rfl
    have enough : k < fuel := by omega
    obtain ⟨c', behind, read⟩ := ih (acc ++ ['\n']) next enough
    refine ⟨c', behind, ?_⟩
    rw [quotedBreaks, Cursor.atSeparator_eq_false (by rw [line]; simp)]
    simp only [Bool.false_eq_true, if_false, skipped, List.length_nil, Cursor.skip]
    rw [Cursor.lineBreak?_feed line]
    simpa [List.replicate_succ] using read

/-- The indentation, or the blanks, inside a quoted scalar. -/
theorem quotedSpaces_blanks {n : Nat} {w : List Char} {c : Cursor}
    (hr : c.rest = List.replicate n ' ' ++ w) (hw : Stops w) (filled : w ≠ []) :
    quotedSpaces c = .ok (List.replicate n ' ', c.skip n) := by
  have taken := Cursor.span_eq (p := fun ch => ch = ' ' || ch = '\t') hr (by simp) hw.noBlank
  have behind : (c.skip n).rest = w := Cursor.skip_rest_append hr (by simp)
  unfold quotedSpaces
  rw [taken]
  simp only [List.length_replicate]
  rw [Cursor.lineBreak?_eq_none (by rw [behind]; exact hw.noBreak), behind]
  simp [filled]

/-- Line ends inside a quoted scalar: a single one is a blank. -/
theorem quotedSpaces_feeds {k : Nat} {w : List Char} {c : Cursor}
    (hr : c.rest = List.replicate (k + 1) '\n' ++ ' ' :: ' ' :: w) (hw : Stops w) :
    ∃ c', c'.rest = w ∧
      quotedSpaces c = .ok (if k = 0 then [' '] else List.replicate k '\n', c') := by
  have line : c.rest = [] ++ '\n' :: (List.replicate k '\n' ++ ' ' :: ' ' :: w) := by
    rw [hr]
    simp [List.replicate_succ]
  have taken := Cursor.span_eq (p := fun ch => ch = ' ' || ch = '\t') line (by simp) (by simp)
  have next : c.next.rest = List.replicate k '\n' ++ ' ' :: ' ' :: w := by
    rw [Cursor.next_rest, line]
    rfl
  have enough : k < c.rest.length + 1 := by
    rw [hr]
    simp
    omega
  obtain ⟨c', behind, read⟩ := quotedBreaks_feeds [] next hw enough
  refine ⟨c', behind, ?_⟩
  unfold quotedSpaces
  rw [taken]
  simp only [List.length_nil, Cursor.skip]
  rw [Cursor.lineBreak?_feed line]
  simp only [read, List.nil_append]
  cases k with
  | zero => rfl
  | succ k => simp [folded, bind, Except.bind, pure, Except.pure, List.replicate_succ]

section Steps

variable {quote ch : Char} {rest : List Char} {fuel : Nat} {c : Cursor} (acc : List Char)

theorem quotedTail_visible (hr : c.rest = ch :: rest) (hv : Visible ch) (hq : ch ≠ quote)
    (hb : ch ≠ '\\' ∨ quote ≠ '"') :
    quotedTail quote (fuel + 1) c acc = quotedTail quote fuel c.next (ch :: acc) := by
  have stops := (hv.stops rest) ch rfl
  rw [quotedTail, hr]
  have noEscape : (decide (ch = '\\') && decide (quote = '"')) = false := by
    rcases hb with h | h <;> simp [h]
  simp [hq, noEscape, stops]

theorem quotedTail_doubled (hr : c.rest = '\'' :: '\'' :: rest) :
    quotedTail '\'' (fuel + 1) c acc = quotedTail '\'' fuel (c.skip 2) ('\'' :: acc) := by
  rw [quotedTail, hr]
  simp

theorem quotedTail_end (hr : c.rest = quote :: rest)
    (single : quote = '\'' → rest.head? ≠ some '\'') :
    quotedTail quote (fuel + 1) c acc = .ok (String.ofList acc.reverse, c.next) := by
  rw [quotedTail, hr]
  have done : ¬(decide (quote = '\'') && decide (rest.head? = some '\'')) = true := by
    simpa using single
  simp [done]

/-- A stretch of blanks and line ends is read in one step. -/
theorem quotedTail_stretch {s a w : List Char} {c' : Cursor} (hr : c.rest = ch :: a ++ w)
    (hch : ch = ' ' ∨ ch = '\n') (hq : Visible quote) (read : quotedSpaces c = .ok (s, c'))
    (behind : c'.rest = w) (hf : c.rest.length < fuel) :
    ∃ fuel', c'.rest.length < fuel' ∧
      quotedTail quote fuel c acc = quotedTail quote fuel' c' (s.reverse ++ acc) := by
  obtain ⟨fuel, rfl⟩ := Nat.exists_eq_add_one_of_ne_zero (Nat.ne_zero_of_lt hf)
  have apart : ch ≠ quote := by
    rintro rfl
    rcases hch with rfl | rfl <;> exact absurd hq (by decide)
  refine ⟨fuel, Cursor.fuel_behind hf hr (by simp) behind, ?_⟩
  rw [quotedTail, hr, List.cons_append]
  rcases hch with rfl | rfl <;> simp [apart, read, bind, Except.bind, isBreak]

end Steps

theorem doubled_spelled (c : Char) : ∃ s, doubled c = c :: s := by
  unfold doubled
  split
  next h => exact ⟨['\''], by rw [h]⟩
  next => exact ⟨[], rfl⟩

/-- A run of visible characters between single quotes. -/
theorem quotedTail_run {run w : List Char} (visible : ∀ c ∈ run, Visible c) {fuel : Nat}
    {c : Cursor} (acc : List Char) (hr : c.rest = run.flatMap doubled ++ w)
    (hf : c.rest.length < fuel) :
    ∃ c' fuel', c'.rest = w ∧ c'.rest.length < fuel' ∧
      quotedTail '\'' fuel c acc = quotedTail '\'' fuel' c' (run.reverse ++ acc) := by
  induction run generalizing fuel c acc with
  | nil => exact ⟨c, fuel, hr, hf, rfl⟩
  | cons ch run ih =>
    obtain ⟨fuel, rfl⟩ := Nat.exists_eq_add_one_of_ne_zero (Nat.ne_zero_of_lt hf)
    have visible' := fun c hc => visible c (List.mem_cons_of_mem _ hc)
    simp only [List.flatMap_cons, List.append_assoc] at hr
    by_cases quote : ch = '\''
    · subst quote
      have hr : c.rest = '\'' :: '\'' :: (run.flatMap doubled ++ w) := hr
      have behind : (c.skip 2).rest = run.flatMap doubled ++ w := by rw [Cursor.skip_rest, hr]; rfl
      have enough := Cursor.fuel_behind (a := ['\'', '\'']) hf hr (by simp) behind
      obtain ⟨c', fuel', hw, hf', read⟩ := ih visible' ('\'' :: acc) behind enough
      exact ⟨c', fuel', hw, hf', by rw [quotedTail_doubled acc hr, read]; simp⟩
    · have hr : c.rest = ch :: (run.flatMap doubled ++ w) := by simpa [doubled, quote] using hr
      have behind : c.next.rest = run.flatMap doubled ++ w := by rw [Cursor.next_rest, hr]; rfl
      have enough := Cursor.fuel_behind (a := [ch]) hf hr (by simp) behind
      obtain ⟨c', fuel', hw, hf', read⟩ := ih visible' (ch :: acc) behind enough
      refine ⟨c', fuel', hw, hf', ?_⟩
      rw [quotedTail_visible acc hr (visible ch List.mem_cons_self) quote (.inr (by decide)), read]
      simp

/-- A layout between single quotes reads back as the text that was laid out. -/
theorem quotedTail_layout {rs : List (RunKind × List Char)} {w : List Char}
    (layout : Layout doubled rs w) (legible : Legible rs) {tail : List Char}
    (ht : tail.head? ≠ some '\'') {fuel : Nat} {c : Cursor} (acc : List Char)
    (hr : c.rest = w ++ '\'' :: tail) (hf : c.rest.length < fuel) :
    ∃ c', c'.rest = tail ∧
      quotedTail '\'' fuel c acc = .ok (String.ofList (acc.reverse ++ flat rs), c') := by
  have quote : Visible '\'' := by decide
  induction layout generalizing fuel c acc with
  | nil =>
    obtain ⟨fuel, rfl⟩ := Nat.exists_eq_add_one_of_ne_zero (Nat.ne_zero_of_lt hf)
    exact ⟨c.next, by rw [Cursor.next_rest, hr]; rfl,
      by rw [quotedTail_end acc hr fun _ => ht]; simp⟩
  | @other run more w rest ih =>
    cases legible with
    | other filled visible legible =>
      rw [List.append_assoc] at hr
      obtain ⟨c', fuel', hw, hf', read⟩ := quotedTail_run visible acc hr hf
      obtain ⟨c'', behind, read'⟩ := ih legible _ hw hf'
      exact ⟨c'', behind, by rw [read, read']; simp⟩
  | @blanks run more w rest ih =>
    cases legible with
    | @blanks n _ next legible =>
      have stops := legible.stops doubled_spelled next rest (quote.stops tail)
      rw [List.append_assoc] at hr
      have behind : (c.skip (n + 1)).rest = w ++ '\'' :: tail :=
        Cursor.skip_rest_append hr (by simp)
      obtain ⟨fuel', hf', stretch⟩ := quotedTail_stretch acc hr (.inl rfl) quote
        (quotedSpaces_blanks hr stops (by simp)) behind hf
      obtain ⟨c'', behind', read⟩ := ih legible _ behind hf'
      exact ⟨c'', behind', by rw [stretch, read]; simp⟩
  | @fold more w inside rest ih =>
    obtain ⟨next, legible⟩ := legible.of_space (by simp)
    have stops := legible.stops doubled_spelled next rest (quote.stops tail)
    obtain ⟨c', behind, spaces⟩ := quotedSpaces_feeds (k := 0) hr stops
    obtain ⟨fuel', hf', stretch⟩ := quotedTail_stretch (a := [' ', ' ']) acc hr (.inr rfl) quote
      spaces behind hf
    obtain ⟨c'', behind', read⟩ := ih legible _ behind hf'
    exact ⟨c'', behind', by rw [stretch, if_pos rfl, read]; simp⟩
  | @breaks run more w rest ih =>
    cases legible with
    | @breaks n _ next legible =>
      have stops := legible.stops doubled_spelled next rest (quote.stops tail)
      have feeds : c.rest = List.replicate (n + 1 + 1) '\n' ++ ' ' :: ' ' ::
          (w ++ '\'' :: tail) := by
        simpa using hr
      obtain ⟨c', behind, spaces⟩ := quotedSpaces_feeds feeds stops
      obtain ⟨fuel', hf', stretch⟩ := quotedTail_stretch
        (a := List.replicate (n + 1) '\n' ++ [' ', ' ']) acc
        (by rw [feeds, List.replicate_succ]; simp) (.inr rfl) quote spaces behind hf
      obtain ⟨c'', behind', read⟩ := ih legible _ behind hf'
      exact ⟨c'', behind', by rw [stretch, if_neg (by omega), read]; simp⟩

theorem endsToken_visible {c : Char} (h : Visible c) : endsToken (some c) = false := by
  have stops := (h.stops []) c rfl
  simp [endsToken, stops]

/-- A run of visible characters is one stretch of a plain scalar, if no colon ends it. -/
theorem plainStretch_run {run w : List Char} (visible : ∀ c ∈ run, Visible c)
    (last : run.getLast? ≠ some ':') (hw : endsPlain false w = true) :
    plainStretch false (run ++ w) = run.length := by
  induction run with
  | nil =>
    cases w with
    | nil => rfl
    | cons ch w => simp [plainStretch, hw]
  | cons ch run ih =>
    have hv := visible ch List.mem_cons_self
    have visible' := fun c hc => visible c (List.mem_cons_of_mem _ hc)
    have going : endsPlain false (ch :: (run ++ w)) = false := by
      cases run with
      | nil =>
        have colon : ch ≠ ':' := by simpa using last
        simp [endsPlain, endsToken_visible hv, colon]
      | cons d run => simp [endsPlain, endsToken_visible hv,
          endsToken_visible (visible' d (by simp))]
    have last' : run.getLast? ≠ some ':' := by
      cases run with
      | nil => simp
      | cons d run => simpa [List.getLast?_cons_cons] using last
    simp [plainStretch, going, ih visible' last']

/-- Blanks inside a plain scalar. -/
theorem plainSpaces_blanks {n : Nat} {w : List Char} {c : Cursor}
    (hr : c.rest = List.replicate n ' ' ++ w) (hw : Stops w) :
    plainSpaces c = (List.replicate n ' ', c.skip n, false) := by
  have taken := Cursor.span_eq (p := fun ch => decide (ch = ' ')) hr (by simp)
    fun ch hc => by simp [(hw ch hc).1]
  have behind : (c.skip n).rest = w := Cursor.skip_rest_append hr (by simp)
  unfold plainSpaces
  rw [taken]
  simp only [List.length_replicate]
  rw [Cursor.lineBreak?_eq_none (by rw [behind]; exact hw.noBreak)]

/-- The indentation of a folded line. -/
theorem plainBreaks_indent {w : List Char} {c : Cursor} {fuel : Nat} {acc : List Char} {k : Nat}
    (hr : c.rest = List.replicate k ' ' ++ w) (hw : Stops w) (hf : k < fuel) :
    plainBreaks fuel c acc = some (acc, c.skip k) := by
  induction k generalizing c fuel with
  | zero =>
    obtain ⟨fuel, rfl⟩ := Nat.exists_eq_add_one_of_ne_zero (Nat.ne_zero_of_lt hf)
    have hr : c.rest = w := hr
    have noBlank : c.peek ≠ some ' ' := by
      intro h
      rw [Cursor.peek, hr] at h
      exact (hw ' ' h).1 rfl
    rw [plainBreaks, if_neg noBlank, Cursor.lineBreak?_eq_none (by rw [hr]; exact hw.noBreak)]
    rfl
  | succ k ih =>
    obtain ⟨fuel, rfl⟩ := Nat.exists_eq_add_one_of_ne_zero (Nat.ne_zero_of_lt hf)
    have blank : c.peek = some ' ' := by rw [Cursor.peek, hr, List.replicate_succ]; rfl
    rw [plainBreaks, if_pos blank, ih (c := c.next)
      (by rw [Cursor.next_rest, hr, List.replicate_succ]; rfl) (by omega)]
    rfl

/-- A line end inside or behind a plain scalar, before an indented line or the margin. -/
theorem plainSpaces_feed {k : Nat} {w : List Char} {c : Cursor}
    (hr : c.rest = '\n' :: (List.replicate k ' ' ++ w)) (hw : Stops w)
    (apart : k = 0 → ∀ ch ∈ w.head?, ch ≠ '-' ∧ ch ≠ '.') :
    plainSpaces c = ([' '], c.next.skip k, true) := by
  have taken := Cursor.span_eq (p := fun ch => decide (ch = ' ')) (a := []) hr (by simp) (by simp)
  have next : c.next.rest = List.replicate k ' ' ++ w := by rw [Cursor.next_rest, hr]; rfl
  have unmarked : c.next.atSeparator = false := by
    refine Cursor.atSeparator_eq_false fun ch hc => ?_
    rw [next] at hc
    cases k with
    | zero => exact apart rfl ch hc
    | succ k =>
      obtain rfl : ' ' = ch := by simpa [List.replicate_succ] using hc
      decide
  unfold plainSpaces
  rw [taken]
  simp only [List.length_nil, Cursor.skip]
  rw [Cursor.lineBreak?_feed hr]
  simp only [unmarked, Bool.false_eq_true, if_false]
  rw [plainBreaks_indent next hw (by rw [hr]; simp; omega)]
  rfl

theorem next_column {c : Cursor} {ch : Char} {rest : List Char} (hr : c.rest = ch :: rest)
    (h : isBreak ch = false) (mark : ch ≠ '\uFEFF') : c.next.column = c.column + 1 := by
  unfold Cursor.next
  rw [hr]
  have noReturn : ch ≠ '\r' := by
    rintro rfl
    exact absurd h (by decide)
  simp [h, noReturn, mark]

theorem next_column_feed {c : Cursor} {rest : List Char} (hr : c.rest = '\n' :: rest) :
    c.next.column = 0 := by
  unfold Cursor.next
  rw [hr]
  simp [isBreak]

theorem skip_column_blanks {k : Nat} {w : List Char} {c : Cursor}
    (hr : c.rest = List.replicate k ' ' ++ w) : (c.skip k).column = c.column + k := by
  induction k generalizing c with
  | zero => rfl
  | succ k ih =>
    have blank : c.rest = ' ' :: (List.replicate k ' ' ++ w) := hr
    rw [Cursor.skip, ih (by rw [Cursor.next_rest, blank]; rfl),
      next_column blank (by decide) (by decide)]
    omega

/-- The reader of a plain scalar behind one of its stretches. -/
def behindStretch (fuel : Nat) (c : Cursor) (acc : List Char) : Plain :=
  let (spaces, after, ended) := plainSpaces c
  if spaces.isEmpty || after.peek = some '#' || (!false && (after.column : Int) < 1) then
    ⟨acc, after, ended⟩
  else plainTail false 1 fuel after acc spaces ended

/-- A word of a plain text: it does not begin with a hash or end with a colon. -/
structure Word (run : List Char) : Prop where
  filled : run ≠ []
  visible : ∀ c ∈ run, Visible c
  first : run.head? ≠ some '#'
  last : run.getLast? ≠ some ':'

theorem plainTail_stretch {run w : List Char} {c : Cursor} {fuel : Nat} {acc spaces : List Char}
    {ended : Bool} (word : Word run) (hr : c.rest = run ++ w) (hw : endsPlain false w = true) :
    plainTail false 1 (fuel + 1) c acc spaces ended =
      behindStretch fuel (c.skip run.length) (acc ++ spaces ++ run) := by
  have noMark : c.peek ≠ some '#' := by
    obtain ⟨ch, run, rfl⟩ := List.exists_cons_of_ne_nil word.filled
    rw [Cursor.peek, hr]
    exact word.first
  have size : plainStretch false c.rest = run.length := by
    rw [hr, plainStretch_run word.visible word.last hw]
  have positive : run.length ≠ 0 := mt List.length_eq_zero_iff.mp word.filled
  rw [plainTail]
  simp only [if_neg noMark, size, if_neg positive]
  rw [hr, List.take_left' rfl]
  rfl

section BehindStretch

variable {fuel : Nat} {c : Cursor} {acc rest : List Char} {ch : Char}

/-- Behind blanks the scalar goes on with the next word. -/
theorem behindStretch_blanks {n : Nat} (hr : c.rest = List.replicate (n + 1) ' ' ++ ch :: rest)
    (visible : Visible ch) (hash : ch ≠ '#') :
    behindStretch fuel c acc =
      plainTail false 1 fuel (c.skip (n + 1)) acc (List.replicate (n + 1) ' ') false := by
  have behind : (c.skip (n + 1)).rest = ch :: rest := Cursor.skip_rest_append hr (by simp)
  unfold behindStretch
  rw [plainSpaces_blanks hr (visible.stops _)]
  dsimp only
  rw [if_neg]
  rw [skip_column_blanks hr, Cursor.peek, behind]
  simp [List.replicate_succ, hash]
  omega

/-- Behind a folded line the scalar goes on with the next word, and a blank stands for the fold. -/
theorem behindStretch_fold (hr : c.rest = '\n' :: (List.replicate 2 ' ' ++ ch :: rest))
    (visible : Visible ch) (hash : ch ≠ '#') :
    behindStretch fuel c acc = plainTail false 1 fuel (c.next.skip 2) acc [' '] true := by
  have line : c.next.rest = List.replicate 2 ' ' ++ ch :: rest := by rw [Cursor.next_rest, hr]; rfl
  have behind : (c.next.skip 2).rest = ch :: rest := Cursor.skip_rest_append line rfl
  unfold behindStretch
  rw [plainSpaces_feed hr (visible.stops _) (by simp)]
  dsimp only
  rw [if_neg]
  rw [skip_column_blanks line, next_column_feed hr, Cursor.peek, behind]
  simp [hash]

/-- A line at the margin ends the scalar. -/
theorem behindStretch_end (hr : c.rest = '\n' :: rest) (stops : Stops rest)
    (apart : ∀ ch ∈ rest.head?, ch ≠ '-' ∧ ch ≠ '.') :
    behindStretch fuel c acc = ⟨acc, c.next, true⟩ := by
  unfold behindStretch
  rw [plainSpaces_feed (k := 0) hr stops fun _ => apart]
  simp [Cursor.skip, next_column_feed hr]

end BehindStretch

/-- Words with blanks between them. -/
inductive Words : List (RunKind × List Char) → Prop
  | one {run : List Char} (word : Word run) : Words [(.other, run)]
  | cons {run : List Char} {n : Nat} {more : List (RunKind × List Char)} (word : Word run)
      (rest : Words more) :
      Words ((.other, run) :: (.blanks, List.replicate (n + 1) ' ') :: more)

/-- A layout of words begins with the first character of the first word. -/
theorem Words.layout_cons {rs : List (RunKind × List Char)} {w : List Char} (words : Words rs)
    (layout : Layout (fun c => [c]) rs w) : ∃ ch w', w = ch :: w' ∧ Visible ch ∧ ch ≠ '#' := by
  have begins {run v : List Char} (word : Word run) :
      ∃ ch w', run.flatMap (fun c => [c]) ++ v = ch :: w' ∧ Visible ch ∧ ch ≠ '#' := by
    obtain ⟨ch, run, rfl⟩ := List.exists_cons_of_ne_nil word.filled
    exact ⟨ch, run.flatMap (fun c => [c]) ++ v, rfl, word.visible ch List.mem_cons_self,
      fun same => word.first (congrArg some same)⟩
  cases layout with
  | nil => cases words
  | other rest =>
    cases words with
    | one word => exact begins word
    | cons word _ => exact begins word
  | blanks rest => cases words
  | fold inside rest => cases words
  | breaks rest => cases words

/-- A layout of words reads back as the words, up to the line behind it. -/
theorem plainTail_layout {rs : List (RunKind × List Char)} {w tail : List Char}
    (words : Words rs) (layout : Layout (fun c => [c]) rs w) (ht : Stops tail)
    (apart : ∀ ch ∈ tail.head?, ch ≠ '-' ∧ ch ≠ '.') {fuel : Nat} {c : Cursor}
    (acc spaces : List Char) (ended : Bool) (hr : c.rest = w ++ '\n' :: tail)
    (hf : c.rest.length < fuel) :
    ∃ c', c'.rest = tail ∧ c'.column = 0 ∧
      plainTail false 1 fuel c acc spaces ended = ⟨acc ++ spaces ++ flat rs, c', true⟩ := by
  induction words generalizing w fuel c acc spaces ended with
  | @one run word =>
    cases layout with
    | other rest =>
      cases rest with
      | nil =>
        obtain ⟨fuel, rfl⟩ := Nat.exists_eq_add_one_of_ne_zero (Nat.ne_zero_of_lt hf)
        have hr : c.rest = run ++ '\n' :: tail := by simpa using hr
        have behind : (c.skip run.length).rest = '\n' :: tail := Cursor.skip_rest_append hr rfl
        refine ⟨(c.skip run.length).next, by rw [Cursor.next_rest, behind]; rfl,
          next_column_feed behind, ?_⟩
        rw [plainTail_stretch word hr (by simp [endsPlain, endsToken, isBreak]),
          behindStretch_end behind ht apart]
        simp
  | @cons run n more word words ih =>
    cases layout with
    | @other _ _ v behindRun =>
      obtain ⟨fuel, rfl⟩ := Nat.exists_eq_add_one_of_ne_zero (Nat.ne_zero_of_lt hf)
      have hr : c.rest = run ++ (v ++ '\n' :: tail) := by simpa using hr
      have behind : (c.skip run.length).rest = v ++ '\n' :: tail := Cursor.skip_rest_append hr rfl
      obtain ⟨v', rfl, laid⟩ | ⟨one, v', rfl, laid⟩ := behindRun.of_blanks
      · obtain ⟨ch, v'', rfl, visible, hash⟩ := words.layout_cons laid
        have blanks : (c.skip run.length).rest =
            List.replicate (n + 1) ' ' ++ (ch :: (v'' ++ '\n' :: tail)) := by
          rw [behind]
          simp
        have after : ((c.skip run.length).skip (n + 1)).rest = ch :: (v'' ++ '\n' :: tail) :=
          Cursor.skip_rest_append blanks (by simp)
        have enough : ((c.skip run.length).skip (n + 1)).rest.length < fuel :=
          Cursor.fuel_behind (a := run ++ List.replicate (n + 1) ' ') hf (by rw [hr]; simp)
            (by simp) after
        obtain ⟨c', rest', column', read⟩ := ih laid (acc ++ spaces ++ run)
          (List.replicate (n + 1) ' ') false after enough
        refine ⟨c', rest', column', ?_⟩
        rw [plainTail_stretch word hr (by simp [endsPlain, endsToken, List.replicate_succ]),
          behindStretch_blanks blanks visible hash, read]
        simp
      · obtain rfl : n = 0 := by simpa using congrArg List.length one
        obtain ⟨ch, v'', rfl, visible, hash⟩ := words.layout_cons laid
        have feed : (c.skip run.length).rest =
            '\n' :: (List.replicate 2 ' ' ++ (ch :: (v'' ++ '\n' :: tail))) := behind
        have after : ((c.skip run.length).next.skip 2).rest = ch :: (v'' ++ '\n' :: tail) := by
          rw [Cursor.skip_rest, Cursor.next_rest, feed]
          rfl
        have enough : ((c.skip run.length).next.skip 2).rest.length < fuel :=
          Cursor.fuel_behind (a := run ++ ['\n', ' ', ' ']) hf (by rw [hr]; simp) (by simp) after
        obtain ⟨c', rest', column', read⟩ := ih laid (acc ++ spaces ++ run) [' '] true after enough
        refine ⟨c', rest', column', ?_⟩
        rw [plainTail_stretch word hr (by simp [endsPlain, endsToken, isBreak]),
          behindStretch_fold feed visible hash, read]
        simp

/-- A run between blanks or the ends of a text without indicators is a word. -/
theorem word_of_marks {run ys : List Char} {before : Option Char} (filled : run ≠ [])
    (visible : ∀ c ∈ run, Visible c) (hb : before.all endsWordChar = true)
    (hy : ys.head?.all endsWordChar = true)
    (marks : anyPlace isIndicator before (run ++ ys) = false) : Word run where
  filled := filled
  visible := visible
  first := by
    intro hash
    obtain ⟨run, rfl⟩ : ∃ more, run = '#' :: more := by
      obtain ⟨ch, more, rfl⟩ := List.exists_cons_of_ne_nil filled
      exact ⟨more, by rw [Option.some.inj hash]⟩
    rw [List.cons_append, anyPlace, Bool.or_eq_false_iff] at marks
    cases before with
    | none => simp [isIndicator] at marks
    | some b =>
      have ends : endsWordChar b = true := hb
      simp [isIndicator, ends] at marks
  last := by
    intro colon
    obtain ⟨more, rfl⟩ := List.getLast?_eq_some_iff.mp colon
    rw [List.append_assoc] at marks
    have place := anyPlace_append marks
    rw [List.singleton_append, anyPlace, Bool.or_eq_false_iff] at place
    cases hm : more.getLast?.or before <;> simp [isIndicator, hm, hy] at place

/-- A text without indicators, special characters and line ends that begins and ends with a
visible character is made of words. -/
theorem Running.words : ∀ {rs : List (RunKind × List Char)}, Running rs →
    (∀ c ∈ flat rs, isSpecial c = false ∧ isBreakMark c = false) → ∀ {before : Option Char},
    before.all endsWordChar = true → anyPlace isIndicator before (flat rs) = false →
    (∃ r ∈ rs.head?, r.1 = .other) → (∀ r ∈ rs.getLast?, r.1 ≠ .blanks) → Words rs
  | [], _, _, _, _, _, ⟨_, hr, _⟩, _ => nomatch hr
  | [(kind, run)], running, plainly, _, hb, marks, ⟨_, hr, other⟩, _ => by
    obtain rfl := Option.some.inj hr
    obtain rfl : kind = .other := other
    cases running with
    | cons filled alike _ _ =>
      refine .one (word_of_marks filled (fun c hc => ?_) hb rfl marks)
      exact visible_of_other (plainly c (by simpa using hc)).1 (alike c hc)
  | (kind, run) :: (kind', run') :: more, running, plainly, before, hb, marks, ⟨_, hr, other⟩,
      last => by
    obtain rfl := Option.some.inj hr
    obtain rfl : kind = .other := other
    cases running with
    | cons filled alike apart rest =>
      have plainly' := fun c hc => plainly c (List.mem_append_right run hc)
      have blanks : kind' = .blanks := by
        have unbroken := rest.head_ne_breaks fun c hc => (plainly' c (List.mem_append_left _ hc)).2
        have differ := apart _ rfl
        cases kind' <;> trivial
      subst blanks
      cases rest with
      | cons filled' alike' apart' rest =>
        obtain ⟨n, rfl⟩ := exists_eq_replicate filled' fun c hc => runKind_eq_blanks (alike' c hc)
        have word : Word run := by
          refine word_of_marks filled (fun c hc => ?_) hb ?_ marks
          · exact visible_of_other (plainly c (List.mem_append_left _ hc)).1 (alike c hc)
          · simp [List.replicate_succ, endsWordChar]
        have plainly'' := fun c hc => plainly' c (List.mem_append_right
            (List.replicate (n + 1) ' ') hc)
        have blank : (some ' ').all endsWordChar = true := by decide
        have later := anyPlace_append (anyPlace_append marks)
        rw [List.getLast?_replicate, if_neg (by omega)] at later
        cases more with
        | nil => exact absurd rfl (last _ rfl)
        | cons r more =>
          have next : r.1 = .other := by
            obtain ⟨kind'', run''⟩ := r
            have unbroken := rest.head_ne_breaks fun c hc =>
              (plainly'' c (List.mem_append_left _ hc)).2
            have differ := apart' _ rfl
            cases kind'' <;> trivial
          exact .cons word (rest.words plainly'' blank later ⟨r, rfl, next⟩ fun r' hr' =>
            last r' (by simpa [List.getLast?_cons_cons] using hr'))

end LintBridge.Yaml
