import Mathlib.Data.List.Forall2
import LintBridge.Lint.Batch
/-!
Which outputs of the linter are batches. An output is accepted as a whole, refused for a
cause, or not decided at all because it holds an integer with too many digits
(`parse_cases`). Only the first record that is no violation is blamed.
-/
namespace LintBridge.Batch

/-- Records are read as violations, one by one and in their order. -/
def Reads (items : List Value) (vs : List Violation) : Prop :=
  List.Forall₂ (fun item v => Violation.check item = .ok v) items vs

theorem records_of_reads {items : List Value} {vs : List Violation} (h : Reads items vs)
    (index : Nat) : records index items = .ok vs := by
  induction h generalizing index with
  | nil => rfl
  | cons hv rest ih => simp [records, hv, ih, Except.map]

theorem reads_of_records {index : Nat} {items : List Value} {vs : List Violation}
    (h : records index items = .ok vs) : Reads items vs := by
  induction items generalizing index vs with
  | nil =>
    cases h
    exact .nil
  | cons item rest ih =>
    cases hv : Violation.check item with
    | error m => simp [records, hv] at h
    | ok v =>
      cases hr : records (index + 1) rest with
      | error f => simp [records, hv, hr, Except.map] at h
      | ok us =>
        simp only [records, hv, hr, Except.map, Except.ok.injEq] at h
        rw [← h]
        exact .cons hv (ih hr)

/-- The first record that is no violation, and what is wrong with it. -/
def FirstMismatch (items : List Value) (index : Nat) (m : Schema.Mismatch) : Prop :=
  ∃ before item after, items = before ++ item :: after ∧ before.length = index ∧
    (∃ vs, Reads before vs) ∧ Violation.check item = .error m

theorem records_eq_error {index : Nat} {items : List Value} {f : Fault}
    (h : records index items = .error f) :
    ∃ place m, FirstMismatch items place m ∧
      f = (Cause.malformedViolation (some ↑(index + place)) m.describe).toFault := by
  induction items generalizing index f with
  | nil => cases h
  | cons item rest ih =>
    cases hv : Violation.check item with
    | error m =>
      simp only [records, hv, Except.error.injEq] at h
      exact ⟨0, m, ⟨[], item, rest, rfl, rfl, ⟨[], .nil⟩, hv⟩, h.symm⟩
    | ok v =>
      cases hr : records (index + 1) rest with
      | ok vs => simp [records, hv, hr, Except.map] at h
      | error f' =>
        simp only [records, hv, hr, Except.map, Except.error.injEq] at h
        obtain ⟨place, m, ⟨before, item', after, rfl, hl, ⟨vs, reads⟩, bad⟩, hf⟩ := ih hr
        refine ⟨place + 1, m, ⟨item :: before, item', after, rfl, by simp [hl],
          ⟨v :: vs, .cons hv reads⟩, bad⟩, ?_⟩
        rw [← h, hf, Nat.add_assoc, Nat.add_comm 1 place]

/-- An output is the text of an array of violations. -/
def Accepts (text : String) (vs : List Violation) : Prop :=
  ∃ items, Json.decode text = .ok (.list items) ∧ Reads items vs

/-- Why an output is no batch. -/
inductive Refuses (text : String) : Cause → Prop where
  | malformed {what : Json.Complaint} {line column offset : Nat}
    (refused : Json.decode text = .error (.malformed what line column offset)) :
    Refuses text (.badOutput (Json.Refusal.malformed what line column offset).message)
  | kind {v : Value} (decoded : Json.decode text = .ok v) (other : ∀ items, v ≠ .list items) :
    Refuses text (.badOutput s!"expected array, got {v.kindName}")
  | record {items : List Value} {index : Nat} {m : Schema.Mismatch}
    (decoded : Json.decode text = .ok (.list items)) (first : FirstMismatch items index m) :
    Refuses text (.malformedViolation (some index) m.describe)

/-- An output holds an integer with too many digits where a value is read. -/
def Overlong (text : String) (digits : Nat) : Prop :=
  Json.decode text = .error (.digitLimit digits)

/-- Every output is accepted, refused, or stops the reader at an integer. -/
theorem parse_cases (text : String) :
    (∃ vs, Accepts text vs ∧ parse text = .ok vs) ∨
    (∃ cause, Refuses text cause ∧ parse text = .error (.fault cause.toFault)) ∨
    ∃ digits, Overlong text digits ∧ parse text = .error (.digitLimit digits) := by
  cases hd : Json.decode text with
  | error refusal =>
    cases refusal with
    | malformed what line column offset =>
      exact .inr (.inl ⟨_, .malformed hd, by simp [parse, hd]⟩)
    | digitLimit digits => exact .inr (.inr ⟨digits, hd, by simp [parse, hd]⟩)
  | ok v =>
    by_cases array : ∃ items, v = .list items
    · obtain ⟨items, rfl⟩ := array
      cases hr : records 0 items with
      | ok vs =>
        exact .inl ⟨vs, ⟨items, hd, reads_of_records hr⟩,
          by simp [parse, hd, hr, Except.mapError]⟩
      | error f =>
        obtain ⟨index, m, first, rfl⟩ := records_eq_error hr
        refine .inr (.inl ⟨_, .record hd first, ?_⟩)
        simp [parse, hd, hr, Except.mapError]
    · have other : ∀ items, v ≠ .list items := fun items h => array ⟨items, h⟩
      refine .inr (.inl ⟨_, .kind hd other, ?_⟩)
      unfold parse
      rw [hd]
      cases v with
      | list items => exact absurd rfl (other items)
      | _ => rfl

theorem parse_eq_ok_iff {text : String} {vs : List Violation} :
    parse text = .ok vs ↔ Accepts text vs := by
  constructor
  · intro h
    obtain ⟨us, accepts, hp⟩ | ⟨cause, -, hp⟩ | ⟨digits, -, hp⟩ := parse_cases text
    · rw [hp, Except.ok.injEq] at h
      exact h ▸ accepts
    · rw [hp] at h
      cases h
    · rw [hp] at h
      cases h
  · rintro ⟨items, hd, reads⟩
    simp [parse, hd, records_of_reads reads, Except.mapError]

end LintBridge.Batch
