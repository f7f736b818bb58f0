import Mathlib.Data.List.Forall2
import LintBridge.Proofs.Checked
import LintBridge.Proofs.Translation
/-!
Violations and what the editor is told about them, one beside the other. A batch within the
protocol's bounds has a diagnostic for each violation, at the same index, and a quick fix for each
violation that carries a fix, in the same order, which names the diagnostic of its own violation
even where another violation is equal to it; parts of a batch are translated on their own
(`Violation.findings_correspond`).
-/
namespace LintBridge.Violation

/-- What a diagnostic tells is what its violation says. -/
structure Tells (v : Violation) (d : Diagnostic) : Prop where
  range : d.range.toInterval = v.range.toInterval
  severity : d.severity.number = v.severity.number
  code : d.code = v.code
  source : d.source = v.source
  message : d.message = v.message
  tags : d.tags = v.tags
  link : ∀ url, d.href = some url ↔ v.codeDescription = some url ∧ url ≠ ""

/-- The quick fix of a violation: it is found at the violation, names one diagnostic, and makes the
violation's own fix in one document with one edit. -/
structure Mends (uri : String) (v : Violation) (d : Diagnostic) (a : StoredAction) : Prop where
  anchored : a.anchor.toInterval = v.range.toInterval
  names : a.action.diagnostics = [d]
  edits : ∃ fix edit, v.suggestedFix = some fix ∧ a.action.changes = [(uri, [edit])] ∧
    edit.range.toInterval = fix.range.toInterval ∧ edit.newText = fix.replacement

theorem link_eq_some_iff {v : Violation} {url : String} :
    v.link = some url ↔ v.codeDescription = some url ∧ url ≠ "" := by
  simp [link, Option.filter_eq_some_iff]

theorem tells_of_diagnostic {v : Violation} {d : Diagnostic} (made : v.diagnostic = .ok d) :
    Tells v d := by
  unfold diagnostic at made
  cases hr : EditorRange.ofInterval v.range.toInterval with
  | error fault => simp [hr, Except.map] at made
  | ok r =>
    simp only [hr, Except.map, Except.ok.injEq] at made
    subst made
    exact ⟨EditorRange.ofInterval_eq_ok_iff.mp hr, rfl, rfl, rfl, rfl, rfl,
      fun url => link_eq_some_iff⟩

theorem mends_of_action {uri : String} {v : Violation} {d : Diagnostic} {fix : SuggestedFix}
    {a : StoredAction} (tells : Tells v d) (fixed : v.suggestedFix = some fix)
    (made : SuggestedFix.action uri d fix = .ok a) : Mends uri v d a := by
  obtain ⟨anchored, -, names, r, hr, changes⟩ := SuggestedFix.action_eq_ok made
  exact ⟨by rw [anchored, tells.range], names, fix, _, fixed, changes,
    EditorRange.ofInterval_eq_ok_iff.mp hr, rfl⟩

variable {uri : String} {vs us ws : List Violation} {fs gs hs : List Finding}

/-- Each violation is translated on its own. -/
theorem findings_eq_ok_iff :
    findings uri vs = .ok fs ↔ List.Forall₂ (fun v f => v.finding uri = .ok f) vs fs := by
  rw [← mapM_eq_ok_iff]
  have same : findings uri vs = vs.mapM fun v => v.finding uri := by
    induction vs with
    | nil => rfl
    | cons v vs ih => rw [findings, ih, List.mapM_cons]
  rw [same]

theorem findings_append (first : findings uri us = .ok gs) (second : findings uri ws = .ok hs) :
    findings uri (us ++ ws) = .ok (gs ++ hs) := by
  rw [findings_eq_ok_iff] at first second ⊢
  exact List.rel_append first second

theorem forall₂_tells (h : findings uri vs = .ok fs) :
    List.Forall₂ Tells vs (Finding.diagnostics fs) := by
  rw [Finding.diagnostics, List.forall₂_map_right_iff]
  exact (findings_eq_ok_iff.mp h).imp fun v f hf => tells_of_diagnostic (finding_eq_ok hf).1

/-- The violations with a fix, each beside its diagnostic. -/
def fixed (vs : List Violation) (ds : List Diagnostic) : List (Violation × Diagnostic) :=
  (vs.zip ds).filter fun p => p.1.suggestedFix.isSome

theorem forall₂_mends (h : findings uri vs = .ok fs) :
    List.Forall₂ (fun p a => Mends uri p.1 p.2 a) (fixed vs (Finding.diagnostics fs))
      (Finding.actions fs) := by
  unfold fixed
  induction findings_eq_ok_iff.mp h with
  | nil => exact .nil
  | cons hf rest ih =>
    have mended := ih (findings_eq_ok_iff.mpr rest)
    obtain ⟨made, ⟨unfixed, none⟩ | ⟨fix, a, fixed, some, ha⟩⟩ := finding_eq_ok hf
    · simpa [Finding.actions_cons, unfixed, none] using mended
    · have own := mends_of_action (tells_of_diagnostic made) fixed ha
      simpa [Finding.actions_cons, fixed, some] using And.intro own mended

/-- A batch whose coordinates the protocol carries is translated. Its diagnostics tell of its
violations one by one; its quick fixes are those of its violations with a fix, one by one, each for
its own diagnostic; and wherever the batch is parted, both are those of the first part followed by
those of the second. -/
theorem findings_correspond (uri : String) (vs : List Violation) (fits : ∀ v ∈ vs, v.Fits) :
    ∃ fs, findings uri vs = .ok fs ∧
      List.Forall₂ Tells vs (Finding.diagnostics fs) ∧
      List.Forall₂ (fun p a => Mends uri p.1 p.2 a) (fixed vs (Finding.diagnostics fs))
        (Finding.actions fs) ∧
      ∀ us ws, vs = us ++ ws → ∃ gs hs, findings uri us = .ok gs ∧ findings uri ws = .ok hs ∧
        Finding.diagnostics fs = Finding.diagnostics gs ++ Finding.diagnostics hs ∧
        Finding.actions fs = Finding.actions gs ++ Finding.actions hs := by
  obtain ⟨fs, made⟩ := (@findings_isOk_iff uri vs).mpr fits
  refine ⟨fs, made, forall₂_tells made, forall₂_mends made, ?_⟩
  rintro us ws rfl
  obtain ⟨fits, fits'⟩ := List.forall_mem_append.mp fits
  obtain ⟨gs, first⟩ := (@findings_isOk_iff uri us).mpr fits
  obtain ⟨hs, second⟩ := (@findings_isOk_iff uri ws).mpr fits'
  refine ⟨gs, hs, first, second, ?_⟩
  cases made.symm.trans (findings_append first second)
  exact ⟨List.map_append, List.filterMap_append⟩

/-- A warning at the first place of a document, with an empty link. -/
def firstWarning (fix : Option SuggestedFix) : Violation :=
  ⟨⟨⟨⟨0, 0⟩, ⟨0, 0⟩⟩, by decide⟩, .warning, "c", "l", "m", some "", none, fix⟩

/-- A removal of the first line. -/
def lineRemoval : SuggestedFix := ⟨"", ⟨⟨⟨0, 0⟩, ⟨1, 0⟩⟩, by decide⟩⟩

/-- Of three warnings at one place, which differ in their fix at most, the last two come with a
quick fix each. -/
theorem equal_warnings_correspond :
    let vs := [firstWarning none, firstWarning (some lineRemoval), firstWarning (some lineRemoval)]
    (∀ v ∈ vs, v.Fits) ∧ ∃ fs, findings "file:///a.luau" vs = .ok fs ∧
      List.Forall₂ Tells vs (Finding.diagnostics fs) ∧
      List.Forall₂ (fun p a => Mends "file:///a.luau" p.1 p.2 a)
        (fixed vs (Finding.diagnostics fs)) (Finding.actions fs) ∧
      (Finding.actions fs).length = 2 := by
  intro vs
  have place (fix : Option SuggestedFix) : (firstWarning fix).range.toInterval.Fits :=
    ⟨⟨Nat.zero_le _, Nat.zero_le _⟩, Nat.zero_le _, Nat.zero_le _⟩
  have plain : (firstWarning none).Fits := ⟨place none, by simp [firstWarning]⟩
  have mended : (firstWarning (some lineRemoval)).Fits := by
    refine ⟨place _, fun fix same => ?_⟩
    obtain rfl : lineRemoval = fix := Option.some.inj same
    exact ⟨by decide, by decide⟩
  have fits : ∀ v ∈ vs, v.Fits := by simp [vs, plain, mended]
  obtain ⟨fs, made, tells, mends, -⟩ := findings_correspond "file:///a.luau" vs fits
  refine ⟨fits, fs, made, tells, mends, ?_⟩
  obtain ⟨d₁, d₂, d₃, same⟩ := List.length_eq_three.mp tells.length_eq.symm
  rw [← mends.length_eq, same]
  rfl

end LintBridge.Violation
