import Mathlib.Data.List.Forall2
import LintBridge.Proofs.Delivery
/-!
From violations to what the editor gets. A batch is translated exactly when the editor
protocol carries all its coordinates (`findings_isOk_iff`), and then the stored quick fixes
are, in the same order, those of the violations that suggest a fix
(`forall₂_offers_actions`): anchored at the violation, wherever the fix itself edits.
-/
namespace LintBridge

namespace EditorRange

/-- A position that is carried has the integers as its coordinates. -/
theorem position_eq_ok {line character : Int} {p : { p : Position // p.Fits }}
    (h : position line character = .ok p) :
    (p.val.line : Int) = line ∧ (p.val.character : Int) = character := by
  unfold position at h
  split at h
  next hl =>
    split at h
    next hc =>
      cases h
      exact ⟨Int.toNat_of_nonneg hl.1, Int.toNat_of_nonneg hc.1⟩
    next => cases h
  next => cases h

/-- A place is carried as itself. -/
theorem eq_of_position {p : Position} {q : { p : Position // p.Fits }}
    (h : position p.line p.character = .ok q) : q.val = p := by
  obtain ⟨hl, hc⟩ := position_eq_ok h
  rw [Position.mk.injEq]
  exact ⟨Int.ofNat.inj hl, Int.ofNat.inj hc⟩

/-- An interval is carried as itself. -/
theorem ofInterval_eq_ok_iff {a : Interval} {r : EditorRange} :
    ofInterval a = .ok r ↔ r.toInterval = a := by
  constructor
  · intro h
    unfold ofInterval ofCoordinates at h
    cases hs : position a.start.line a.start.character with
    | error fault => simp [hs] at h
    | ok start =>
      cases hp : position a.stop.line a.stop.character with
      | error fault => simp [hs, hp] at h
      | ok stop =>
        obtain rfl : (⟨⟨start, stop⟩, start.property, stop.property⟩ : EditorRange) = r := by
          simpa [hs, hp] using h
        rw [Interval.mk.injEq]
        exact ⟨eq_of_position hs, eq_of_position hp⟩
  · rintro rfl
    exact ofInterval_of_fits r.start_fits r.stop_fits

end EditorRange

/-- Does the editor protocol carry both ends of an interval? -/
def Interval.Fits (a : Interval) : Prop := a.start.Fits ∧ a.stop.Fits

theorem EditorRange.ofInterval_isOk_iff {a : Interval} :
    (∃ r, ofInterval a = .ok r) ↔ a.Fits := by
  constructor
  · rintro ⟨r, h⟩
    rw [ofInterval_eq_ok_iff] at h
    subst h
    exact ⟨r.start_fits, r.stop_fits⟩
  · rintro ⟨hs, hp⟩
    exact ⟨_, ofInterval_of_fits hs hp⟩

namespace Violation

/-- Does the editor protocol carry a violation, and its suggested fix if there is one? -/
def Fits (v : Violation) : Prop :=
  v.range.toInterval.Fits ∧ ∀ fix, v.suggestedFix = some fix → fix.range.toInterval.Fits

theorem diagnostic_eq_ok {v : Violation} {d : Diagnostic} (h : v.diagnostic = .ok d) :
    d.range.toInterval = v.range.toInterval ∧ d.message = v.message := by
  unfold diagnostic at h
  cases hr : EditorRange.ofInterval v.range.toInterval with
  | error fault => simp [hr, Except.map] at h
  | ok r =>
    simp only [hr, Except.map, Except.ok.injEq] at h
    subst h
    exact ⟨EditorRange.ofInterval_eq_ok_iff.mp hr, rfl⟩

theorem diagnostic_isOk_iff {v : Violation} :
    (∃ d, v.diagnostic = .ok d) ↔ v.range.toInterval.Fits := by
  rw [← EditorRange.ofInterval_isOk_iff, diagnostic]
  cases EditorRange.ofInterval v.range.toInterval with
  | error fault => simp [Except.map]
  | ok r => simp [Except.map]

/-- The quick fix of a violation: it names the violation's diagnostic and makes its suggested
fix, wherever that is, in the violation's document. -/
structure Repairs (v : Violation) (uri : String) (q : QuickFix) : Prop where
  titled : q.title = "Fix: " ++ v.message
  names : ∃ d, v.diagnostic = .ok d ∧ q.diagnostics = [d]
  edits : ∃ fix edit, v.suggestedFix = some fix ∧ q.changes = [(uri, [edit])] ∧
    edit.range.toInterval = fix.range.toInterval ∧ edit.newText = fix.replacement

/-- The quick fix of a violation, stored where the violation is. -/
structure Offers (uri : String) (v : Violation) (a : StoredAction) : Prop where
  anchored : a.anchor.toInterval = v.range.toInterval
  repairs : v.Repairs uri a.action

theorem offers_of_action {uri : String} {v : Violation} {d : Diagnostic} {fix : SuggestedFix}
    {a : StoredAction} (made : v.diagnostic = .ok d) (fixed : v.suggestedFix = some fix)
    (ha : SuggestedFix.action uri d fix = .ok a) : Offers uri v a := by
  obtain ⟨range, message⟩ := diagnostic_eq_ok made
  obtain ⟨anchored, titled, names, r, hr, changes⟩ := SuggestedFix.action_eq_ok ha
  refine ⟨by rw [anchored, range], by rw [titled, message], ⟨d, made, names⟩, ?_⟩
  exact ⟨fix, _, fixed, changes, EditorRange.ofInterval_eq_ok_iff.mp hr, rfl⟩

theorem finding_isOk_iff {uri : String} {v : Violation} :
    (∃ f, v.finding uri = .ok f) ↔ v.Fits := by
  unfold Fits
  rw [← diagnostic_isOk_iff]
  unfold finding
  cases hd : v.diagnostic with
  | error fault => simp [bind, Except.bind]
  | ok d =>
    cases hf : v.suggestedFix with
    | none => simp [bind, Except.bind, pure, Except.pure]
    | some fix =>
      simp only [Option.some.injEq, forall_eq', ← EditorRange.ofInterval_isOk_iff,
        SuggestedFix.action]
      cases EditorRange.ofInterval fix.range.toInterval with
      | error fault => simp [bind, Except.bind, Except.map]
      | ok r => simp [bind, Except.bind, pure, Except.pure, Except.map]

/-- A batch is translated exactly if the editor protocol carries each of its violations. -/
theorem findings_isOk_iff {uri : String} {vs : List Violation} :
    (∃ fs, findings uri vs = .ok fs) ↔ ∀ v ∈ vs, v.Fits := by
  induction vs with
  | nil => simp [findings]
  | cons v vs ih =>
    rw [List.forall_mem_cons, ← ih, ← @finding_isOk_iff uri v]
    constructor
    · rintro ⟨fs, h⟩
      obtain ⟨f, rest, hf, hr, -⟩ := findings_cons_eq_ok h
      exact ⟨⟨f, hf⟩, rest, hr⟩
    · rintro ⟨⟨f, hf⟩, rest, hr⟩
      exact ⟨f :: rest, by simp [findings, hf, hr, bind, Except.bind, pure, Except.pure]⟩

/-- The stored quick fixes are those that the violations with a suggested fix offer. -/
theorem forall₂_offers_actions {uri : String} {vs : List Violation} {fs : List Finding}
    (h : findings uri vs = .ok fs) :
    List.Forall₂ (Offers uri) (vs.filter fun v => v.suggestedFix.isSome)
      (Finding.actions fs) := by
  induction vs generalizing fs with
  | nil =>
    cases h
    exact .nil
  | cons v vs ih =>
    obtain ⟨f, rest, hf, hr, rfl⟩ := findings_cons_eq_ok h
    rw [Finding.actions_cons]
    obtain ⟨made, ⟨unfixed, none⟩ | ⟨fix, a, fixed, some, ha⟩⟩ := finding_eq_ok hf
    · simpa [unfixed, none] using ih hr
    · have offered := List.Forall₂.cons (offers_of_action made fixed ha) (ih hr)
      simpa [fixed, some] using offered

end Violation

end LintBridge
