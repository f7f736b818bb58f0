import Mathlib
import LintBridge.Proofs.Acceptance
import LintBridge.Proofs.Checked
import LintBridge.Proofs.DigitRuns
/-!
Batches as a whole. An array of violations is read record by record, each from its own element
alone; the first element that is no violation refuses the array, whatever stands behind it; and what
is no array is refused without a look at records. Only an integer with too many digits ends the
reading in another way (`parse_whole`).
-/
namespace LintBridge.Batch

/-- Is a value a violation? -/
def Valid (item : Value) : Prop := ∃ v, Violation.check item = .ok v

theorem not_valid_iff {item : Value} : ¬ Valid item ↔ ∃ m, Violation.check item = .error m := by
  unfold Valid
  cases Violation.check item <;> simp

/-- There are as many violations as elements, and each is read from the element at its own place. -/
def ReadInPlace (items : List Value) (vs : List Violation) : Prop :=
  items.length = vs.length ∧ ∀ (i : Nat) (item : Value) (v : Violation),
    items[i]? = some item → vs[i]? = some v → Violation.check item = .ok v

/-- The places of the elements that are no violations. -/
def invalidAt (items : List Value) : Set Nat := {i | ∃ item, items[i]? = some item ∧ ¬ Valid item}

theorem reads_iff_in_place {items : List Value} {vs : List Violation} :
    Reads items vs ↔ ReadInPlace items vs := by
  unfold Reads ReadInPlace
  rw [List.forall₂_iff_get]
  refine and_congr_right fun same => ⟨?_, ?_⟩
  · intro each i item v hi hv
    obtain ⟨inside, rfl⟩ := List.getElem?_eq_some_iff.mp hi
    obtain ⟨inside', rfl⟩ := List.getElem?_eq_some_iff.mp hv
    exact each i inside inside'
  · intro each i inside inside'
    exact each i _ _ (List.getElem?_eq_getElem inside) (List.getElem?_eq_getElem inside')

theorem exists_reads_iff {items : List Value} :
    (∃ vs, Reads items vs) ↔ ∀ item ∈ items, Valid item :=
  exists_forall₂_iff

theorem reads_append_iff {xs ys : List Value} {vs : List Violation} :
    Reads (xs ++ ys) vs ↔ ∃ us ws, Reads xs us ∧ Reads ys ws ∧ vs = us ++ ws := by
  constructor
  · intro h
    induction xs generalizing vs with
    | nil => exact ⟨[], vs, .nil, h, rfl⟩
    | cons x xs ih =>
      cases h with
      | cons hv rest =>
        obtain ⟨us, ws, first, second, rfl⟩ := ih rest
        exact ⟨_ :: us, ws, .cons hv first, second, rfl⟩
  · rintro ⟨us, ws, first, second, rfl⟩
    exact List.rel_append first second

/-- The first mismatch stands at the least place of an element that is no violation. -/
theorem firstMismatch_iff {items : List Value} {index : Nat} {m : Schema.Mismatch} :
    FirstMismatch items index m ↔ IsLeast (invalidAt items) index ∧
      ∃ item, items[index]? = some item ∧ Violation.check item = .error m := by
  constructor
  · rintro ⟨before, item, after, rfl, rfl, good, bad⟩
    have there : (before ++ item :: after)[before.length]? = some item := by simp
    refine ⟨⟨⟨item, there, not_valid_iff.mpr ⟨m, bad⟩⟩, ?_⟩, item, there, bad⟩
    rintro i ⟨other, hi, invalid⟩
    by_contra smaller
    have inside : i < before.length := Nat.lt_of_not_le smaller
    rw [List.getElem?_append_left inside] at hi
    exact invalid (exists_reads_iff.mp good other (List.mem_of_getElem? hi))
  · rintro ⟨⟨-, least⟩, item, there, bad⟩
    obtain ⟨inside, rfl⟩ := List.getElem?_eq_some_iff.mp there
    refine ⟨items.take index, items[index], items.drop (index + 1), ?_, ?_, ?_, bad⟩
    · rw [← List.drop_eq_getElem_cons inside, List.take_append_drop]
    · rw [List.length_take]
      omega
    · refine exists_reads_iff.mpr fun other mem => ?_
      obtain ⟨i, hi⟩ := List.getElem?_of_mem mem
      rw [List.getElem?_take] at hi
      by_contra invalid
      split at hi
      next before =>
        have := least ⟨other, hi, invalid⟩
        omega
      next => cases hi

/-- A text is refused for a cause with a number. -/
def RefusedFor (text : String) (cause : Cause) (code : Nat) : Prop :=
  parse text = .error (.fault cause.toFault) ∧ cause.code = code

theorem parse_eq_ok_iff_reads {text : String} {items : List Value} {vs : List Violation}
    (decoded : Json.decode text = .ok (.list items)) : parse text = .ok vs ↔ Reads items vs := by
  rw [parse_eq_ok_iff]
  constructor
  · rintro ⟨items', decoded', reads⟩
    cases decoded.symm.trans decoded'
    exact reads
  · exact fun reads => ⟨items, decoded, reads⟩

/-- An array is blamed for its first element that is no violation. -/
theorem refused_of_invalid {text : String} {items : List Value}
    (decoded : Json.decode text = .ok (.list items)) (invalid : ¬ ∀ item ∈ items, Valid item) :
    ∃ index m, FirstMismatch items index m ∧
      RefusedFor text (.malformedViolation (some index) m.describe) 2101 := by
  obtain ⟨vs, ⟨items', decoded', reads⟩, -⟩ | ⟨cause, refuses, refused⟩ | ⟨digits, overlong, -⟩ :=
    parse_cases text
  · cases decoded.symm.trans decoded'
    exact absurd (exists_reads_iff.mp ⟨vs, reads⟩) invalid
  · cases refuses with
    | malformed refused' => cases decoded.symm.trans refused'
    | kind decoded' other =>
      cases decoded.symm.trans decoded'
      exact absurd rfl (other items)
    | record decoded' first =>
      cases decoded.symm.trans decoded'
      exact ⟨_, _, first, refused, rfl⟩
  · cases decoded.symm.trans overlong

/-- What is no array is refused as bad output, unless the reader stops at an integer. -/
theorem badOutput_iff {text : String} :
    (∃ reason, RefusedFor text (.badOutput reason) 2002) ↔
      (∀ items, Json.decode text ≠ .ok (.list items)) ∧ ∀ digits, ¬ Overlong text digits := by
  obtain ⟨vs, ⟨items, decoded, reads⟩, parsed⟩ | ⟨cause, refuses, refused⟩ |
    ⟨digits, overlong, parsed⟩ := parse_cases text
  · constructor
    · rintro ⟨reason, refused, -⟩
      cases parsed.symm.trans refused
    · rintro ⟨noArray, -⟩
      exact absurd decoded (noArray items)
  · cases refuses with
    | malformed malformed =>
      refine iff_of_true ⟨_, refused, rfl⟩ ⟨fun items decoded => ?_, fun digits overlong => ?_⟩
      · cases malformed.symm.trans decoded
      · cases malformed.symm.trans overlong
    | kind decoded other =>
      refine iff_of_true ⟨_, refused, rfl⟩ ⟨fun items decoded' => ?_, fun digits overlong => ?_⟩
      · cases decoded.symm.trans decoded'
        exact other items rfl
      · cases decoded.symm.trans overlong
    | record decoded first =>
      constructor
      · rintro ⟨reason, refused', -⟩
        cases refused.symm.trans refused'
      · rintro ⟨noArray, -⟩
        exact absurd decoded (noArray _)
  · constructor
    · rintro ⟨reason, refused, -⟩
      cases parsed.symm.trans refused
    · rintro ⟨-, short⟩
      exact absurd overlong (short digits)

theorem digitLimit_iff {text : String} {digits : Nat} :
    parse text = .error (.digitLimit digits) ↔ Overlong text digits := by
  obtain ⟨vs, ⟨items, decoded, -⟩, parsed⟩ | ⟨cause, refuses, parsed⟩ | ⟨most, overlong, parsed⟩ :=
    parse_cases text
  · refine iff_of_false (fun stopped => ?_) fun stopped => ?_
    · cases parsed.symm.trans stopped
    · cases decoded.symm.trans stopped
  · refine iff_of_false (fun stopped => ?_) fun stopped => ?_
    · cases parsed.symm.trans stopped
    · cases refuses with
      | malformed refused => cases refused.symm.trans stopped
      | kind decoded other => cases decoded.symm.trans stopped
      | record decoded first => cases decoded.symm.trans stopped
  · constructor
    · intro stopped
      cases parsed.symm.trans stopped
      exact overlong
    · intro stopped
      cases overlong.symm.trans stopped
      exact parsed

/-- A batch is decoded as a whole. An array gives as many violations as it has elements if all of
them are violations, and is refused for the first one that is none otherwise; an array that is two
others one after the other gives what the two give. A text that is no array is refused as such,
unless the reader comes to an integer with too many digits, and that alone ends it otherwise. -/
theorem parse_whole (text : String) :
    (∀ items, Json.decode text = .ok (.list items) →
      ((∀ item ∈ items, Valid item) → ∃ vs, parse text = .ok vs ∧ ReadInPlace items vs) ∧
      ((¬ ∀ item ∈ items, Valid item) → ∃ index item m, IsLeast (invalidAt items) index ∧
        items[index]? = some item ∧ Violation.check item = .error m ∧
        RefusedFor text (.malformedViolation (some index) m.describe) 2101) ∧
      ∀ first second xs ys, items = xs ++ ys → Json.decode first = .ok (.list xs) →
        Json.decode second = .ok (.list ys) → ∀ vs, parse text = .ok vs ↔
          ∃ us ws, parse first = .ok us ∧ parse second = .ok ws ∧ vs = us ++ ws) ∧
    ((∃ reason, RefusedFor text (.badOutput reason) 2002) ↔
      (∀ items, Json.decode text ≠ .ok (.list items)) ∧ ∀ digits, ¬ Overlong text digits) ∧
    ∀ digits, (parse text = .error (.digitLimit digits) ↔ Overlong text digits) ∧
      (Overlong text digits → Json.LongRun digits text.toList) := by
  refine ⟨fun items decoded => ⟨?_, ?_, ?_⟩, badOutput_iff,
    fun digits => ⟨digitLimit_iff, Json.run_of_digitLimit⟩⟩
  · intro valid
    obtain ⟨vs, reads⟩ := exists_reads_iff.mpr valid
    exact ⟨vs, (parse_eq_ok_iff_reads decoded).mpr reads, reads_iff_in_place.mp reads⟩
  · intro invalid
    obtain ⟨index, m, first, refused⟩ := refused_of_invalid decoded invalid
    obtain ⟨least, item, there, bad⟩ := firstMismatch_iff.mp first
    exact ⟨index, item, m, least, there, bad, refused⟩
  · rintro first second xs ys rfl decoded₁ decoded₂ vs
    simp only [parse_eq_ok_iff_reads decoded, parse_eq_ok_iff_reads decoded₁,
      parse_eq_ok_iff_reads decoded₂, reads_append_iff]

/-- The text of an integer with one digit too many is refused for that, and not as a text that is no
array. -/
theorem long_integer_unrefused :
    let text := String.ofList (List.replicate 4301 '9')
    parse text = .error (.digitLimit 4301) ∧ ∀ cause code, ¬ RefusedFor text cause code := by
  intro text
  have overlong : Overlong text 4301 := by
    unfold Overlong Json.decode
    rw [String.toList_ofList, Json.document_nines (by decide)]
    rfl
  have stopped : parse text = .error (.digitLimit 4301) := digitLimit_iff.mpr overlong
  refine ⟨stopped, ?_⟩
  rintro cause code ⟨refused, -⟩
  cases stopped.symm.trans refused

end LintBridge.Batch
