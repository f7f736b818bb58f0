import LintBridge.Proofs.Turns
/-!
What is handed over for a document: the violations behind it, the diagnostics, which go to
publish, and the quick fixes, which go to the registry. `Carries` says how the three belong
together without looking at how they are made. A step of a cycle writes the registry and
publishes exactly when it makes a delivery (`Session.Resumed.delivered`).
-/
namespace LintBridge

open Effect (publications commands Quiet)

/-- Diagnostics made from violations, one from each, with the quick fixes of those that
carry one, in the same order: each names its own diagnostic only and is anchored there. -/
inductive Carries : List Violation → List Diagnostic → List StoredAction → Prop where
  | nil : Carries [] [] []
  | plain {v : Violation} {d : Diagnostic} {vs : List Violation} {ds : List Diagnostic}
    {stored : List StoredAction} (made : v.diagnostic = .ok d) (fix : v.suggestedFix = none)
    (rest : Carries vs ds stored) : Carries (v :: vs) (d :: ds) stored
  | fixed {v : Violation} {d : Diagnostic} {a : StoredAction} {vs : List Violation}
    {ds : List Diagnostic} {stored : List StoredAction} (made : v.diagnostic = .ok d)
    (fix : v.suggestedFix ≠ none) (names : a.action.diagnostics = [d])
    (anchored : a.anchor = d.range) (rest : Carries vs ds stored) :
    Carries (v :: vs) (d :: ds) (a :: stored)

/-- There are no quick fixes exactly when no violation has one. -/
theorem Carries.eq_nil_iff {vs : List Violation} {ds : List Diagnostic}
    {stored : List StoredAction} (h : Carries vs ds stored) :
    stored = [] ↔ ∀ v ∈ vs, v.suggestedFix = none := by
  induction h with
  | nil => simp
  | plain made fix rest ih => simp [fix, ih]
  | fixed made fix names anchored rest ih => simp [fix]

namespace Violation

/-- A quick fix names its own diagnostic only, is anchored there, and makes one edit. -/
theorem SuggestedFix.action_eq_ok {uri : String} {d : Diagnostic} {fix : SuggestedFix}
    {a : StoredAction} (h : SuggestedFix.action uri d fix = .ok a) :
    a.anchor = d.range ∧ a.action.title = "Fix: " ++ d.message ∧ a.action.diagnostics = [d] ∧
      ∃ r, EditorRange.ofInterval fix.range.toInterval = .ok r ∧
        a.action.changes = [(uri, [⟨r, fix.replacement⟩])] := by
  unfold action at h
  cases hr : EditorRange.ofInterval fix.range.toInterval with
  | error e => simp [hr, Except.map] at h
  | ok r =>
    simp only [hr, Except.map, Except.ok.injEq] at h
    subst h
    exact ⟨rfl, rfl, rfl, r, rfl, rfl⟩

theorem finding_eq_ok {uri : String} {v : Violation} {f : Finding}
    (h : v.finding uri = .ok f) :
    v.diagnostic = .ok f.diagnostic ∧
      (v.suggestedFix = none ∧ f.fix = none ∨
        ∃ fix a, v.suggestedFix = some fix ∧ f.fix = some a ∧
          SuggestedFix.action uri f.diagnostic fix = .ok a) := by
  unfold finding at h
  cases hd : v.diagnostic with
  | error e => simp [hd, bind, Except.bind] at h
  | ok d =>
    cases hf : v.suggestedFix with
    | none =>
      simp only [hd, hf, bind, Except.bind, pure, Except.pure, Except.ok.injEq] at h
      subst h
      simp
    | some fix =>
      simp only [hd, hf, bind, Except.bind, pure, Except.pure] at h
      cases ha : SuggestedFix.action uri d fix with
      | error e => simp [ha] at h
      | ok a =>
        simp only [ha, Except.ok.injEq] at h
        subst h
        simp [ha]

theorem findings_cons_eq_ok {uri : String} {v : Violation} {vs : List Violation}
    {fs : List Finding} (h : findings uri (v :: vs) = .ok fs) :
    ∃ f rest, v.finding uri = .ok f ∧ findings uri vs = .ok rest ∧ fs = f :: rest := by
  simp only [findings, bind, Except.bind, pure, Except.pure] at h
  cases hf : v.finding uri with
  | error e => simp [hf] at h
  | ok f =>
    cases hr : findings uri vs with
    | error e => simp [hf, hr] at h
    | ok rest =>
      simp only [hf, hr, Except.ok.injEq] at h
      exact ⟨f, rest, rfl, rfl, h.symm⟩

theorem carries_findings {uri : String} {vs : List Violation} {fs : List Finding}
    (h : findings uri vs = .ok fs) :
    Carries vs (Finding.diagnostics fs) (Finding.actions fs) := by
  induction vs generalizing fs with
  | nil =>
    cases h
    exact .nil
  | cons v vs ih =>
    obtain ⟨f, rest, hf, hr, rfl⟩ := findings_cons_eq_ok h
    rw [Finding.diagnostics_cons, Finding.actions_cons]
    obtain ⟨made, ⟨unfixed, none⟩ | ⟨fix, a, fixed, some, ha⟩⟩ := finding_eq_ok hf
    · rw [none]
      exact .plain made unfixed (ih hr)
    · obtain ⟨anchored, -, names, -⟩ := SuggestedFix.action_eq_ok ha
      rw [some]
      exact .fixed made (by simp [fixed]) names anchored (ih hr)

end Violation

/-- What is handed over for a document at once. -/
structure Delivery where
  uri : String
  violations : List Violation
  findings : List Finding
  translated : Violation.findings uri violations = .ok findings

namespace Delivery

def diagnostics (d : Delivery) : List Diagnostic := Finding.diagnostics d.findings
def actions (d : Delivery) : List StoredAction := Finding.actions d.findings

theorem carries (d : Delivery) : Carries d.violations d.diagnostics d.actions :=
  Violation.carries_findings d.translated

/-- What a closed document is left with. -/
def closing (uri : String) : Delivery := ⟨uri, [], [], rfl⟩

/-- The delivery of violations, unless a coordinate is beyond the editor's range. -/
def of? (uri : String) (vs : List Violation) : Option Delivery :=
  match h : Violation.findings uri vs with
  | .ok findings => some ⟨uri, vs, findings, h⟩
  | .error _ => none

theorem of?_ok {uri : String} {vs : List Violation} {fs : List Finding}
    (h : Violation.findings uri vs = .ok fs) : of? uri vs = some ⟨uri, vs, fs, h⟩ := by
  unfold of?
  split
  next fs' h' =>
    obtain rfl : fs' = fs := by
      rw [h'] at h
      cases h
      rfl
    rfl
  next e h' =>
    rw [h'] at h
    cases h

theorem of?_error {uri : String} {vs : List Violation} {f : CoordinateFault}
    (h : Violation.findings uri vs = .error f) : of? uri vs = none := by
  unfold of?
  split
  next fs h' =>
    rw [h'] at h
    cases h
  next => rfl

theorem of?_eq_some {uri : String} {vs : List Violation} {d : Delivery}
    (h : of? uri vs = some d) : d.uri = uri ∧ d.violations = vs := by
  unfold of? at h
  split at h
  next =>
    cases h
    exact ⟨rfl, rfl⟩
  next => cases h

end Delivery

namespace Session

/-- What a suspended cycle hands over with a reply: all it found, if the reply ends its
last pass and nothing was begun for its document after it. -/
def delivery (s : Session) (c : Cycle) (r : Reply) : Option Delivery :=
  if s.isCurrent c.uri c.generation then (s.harvest c r).bind (Delivery.of? c.uri) else none

theorem delivery_of_no_harvest {s : Session} {c : Cycle} {r : Reply}
    (h : s.harvest c r = none) : s.delivery c r = none := by
  simp [delivery, h]

/-- Behind a delivery is a current cycle with all its findings. -/
theorem delivery_eq_some {s : Session} {c : Cycle} {r : Reply} {d : Delivery}
    (h : s.delivery c r = some d) :
    s.isCurrent c.uri c.generation = true ∧ d.uri = c.uri ∧
      s.harvest c r = some d.violations := by
  unfold delivery at h
  split at h
  next current =>
    obtain ⟨vs, harvest, hd⟩ := Option.bind_eq_some_iff.mp h
    obtain ⟨hu, hv⟩ := Delivery.of?_eq_some hd
    exact ⟨current, hu, by rw [hv]; exact harvest⟩
  next => cases h

/-- What a step of a suspended cycle hands to publish and writes to the registry: its
delivery, and nothing without one. -/
theorem Resumed.delivered {s : Session} {fs : FileSystem} {canPublish : Bool} {c : Cycle}
    {r : Reply} {turn : Turn Standing} (h : Resumed s fs canPublish c r turn) :
    publications turn.effects = (s.delivery c r).toList.map (fun d => (d.uri, d.diagnostics)) ∧
      turn.session.registry = (s.delivery c r).elim s.registry
        (fun d => s.registry.publish d.uri d.actions) := by
  cases h with
  | idle none => simp [delivery_of_no_harvest none]
  | search none stage searched =>
    simp [delivery_of_no_harvest none, searched.publications, searched.kept.1]
  | failed none quiet => simp [delivery_of_no_harvest none, quiet.1]
  | rules none quiet stage rules => simp [delivery_of_no_harvest none, quiet.1]
  | @last es vs n harvest quiet =>
    cases hc : s.isCurrent c.uri c.generation with
    | false =>
      have hd : s.delivery c r = none := by simp [delivery, hc]
      rw [finish_stale hc, hd]
      simp [quiet.1, (quiet_reports _ _).1]
    | true =>
      cases hf : Violation.findings c.uri vs with
      | error f =>
        have hd : s.delivery c r = none := by
          simp [delivery, hc, harvest, Delivery.of?_error hf]
        rw [finish_fault hc hf, hd]
        simp [quiet.1]
      | ok findings =>
        have hd : s.delivery c r = some ⟨c.uri, vs, findings, hf⟩ := by
          simp [delivery, hc, harvest, Delivery.of?_ok hf]
        obtain ⟨result, -, -, hs, hp, -⟩ := finish_current hc hf fs canPublish n
        rw [hd]
        simp [quiet.1, hs, hp, Delivery.diagnostics, Delivery.actions]

/-- A cycle that makes a delivery ends with it, and not without an outcome. -/
theorem Resumed.ended_of_delivery {s : Session} {fs : FileSystem} {canPublish : Bool}
    {c : Cycle} {r : Reply} {turn : Turn Standing} (h : Resumed s fs canPublish c r turn)
    {d : Delivery} (hd : s.delivery c r = some d) :
    ∃ result, turn.value = .ended result ∧ ∀ o, result = .ok o → o ≠ none := by
  obtain ⟨current, hu, harvest⟩ := delivery_eq_some hd
  obtain ⟨es, n, -, rfl⟩ := h.of_harvest harvest
  have translated := d.translated
  rw [hu] at translated
  obtain ⟨result, outcome, ended, -⟩ := finish_current current translated fs canPublish n
  exact ⟨result, ended, outcome⟩

end Session
end LintBridge
