import Mathlib
import LintBridge.Proofs.Activity
/-!
The registry and the stream of published diagnostics are two effects of one delivery, so
they never drift apart: for every document the registry holds just the quick fixes of what
was handed to publish last (`registry_mirrors_publications`), whether or not publishing
worked.
-/
namespace LintBridge

open Effect (publications commands Quiet)

/-- The last value that was recorded for a document. -/
def lastFor {α : Type} (uri : String) (records : List (String × α)) : Option α :=
  (records.reverse.find? fun r => r.1 = uri).map Prod.snd

/-- The entry that a delivery leaves in the registry; there is none without a quick fix. -/
def Delivery.stored? (d : Delivery) : Option (List StoredAction) :=
  if d.actions = [] then none else some d.actions

theorem Delivery.stored?_eq_none_iff (d : Delivery) :
    d.stored? = none ↔ ∀ v ∈ d.violations, v.suggestedFix = none := by
  rw [← d.carries.eq_nil_iff]
  by_cases h : d.actions = [] <;> simp [stored?, h]

theorem Registry.get?_publish (r : Registry) (uri other : String) (s : List StoredAction) :
    (r.publish uri s).actions.get? other =
      if uri = other then (if s = [] then none else some s) else r.actions.get? other := by
  by_cases h : s = [] <;> simp [publish, h]

/-- How a cycle ended, if it did. -/
def Standing.result? : Standing → Option (Except Failure (Option Outcome))
  | .paused _ => none
  | .ended result => some result

/-- A suspended cycle that ends without an outcome makes no delivery. -/
theorem Session.Resumed.delivery_of_none {s : Session} {fs : FileSystem} {canPublish : Bool}
    {c : Cycle} {r : Reply} {turn : Turn Standing} (h : Resumed s fs canPublish c r turn)
    (hv : turn.value.result? = some (.ok none)) : s.delivery c r = none := by
  cases hd : s.delivery c r with
  | none => rfl
  | some d =>
    obtain ⟨result, ended, outcome⟩ := h.ended_of_delivery hd
    simp only [ended, Standing.result?, Option.some.injEq] at hv
    exact absurd rfl (outcome none hv)

namespace Activity

/-- How a cycle ends with a move, if one does. -/
def result? (a : Activity) (m : Move) : Option (Except Failure (Option Outcome)) :=
  match m.act with
  | .lint uri source language =>
    (a.session.beginCycle m.files uri source language).value.result?
  | .resume ticket reply =>
    (a.cycles.get? ticket).bind fun c =>
      (a.session.resume m.files m.canPublish c reply).value.result?
  | _ => none

theorem delivery_of_no_outcome {a : Activity} (ha : a.Tidy) {m : Move}
    (h : a.result? m = some (.ok none)) : a.delivery m = none := by
  cases hm : m.act with
  | resume ticket reply =>
    simp only [result?, hm] at h
    obtain ⟨c, hc, hr⟩ := Option.bind_eq_some_iff.mp h
    rw [delivery_resume hm hc]
    exact (ha.resumed hc m.files m.canPublish reply).delivery_of_none hr
  | lint uri source language => simp [delivery, hm]
  | close uri => simp [result?, hm] at h
  | reconfigure config roots => simp [delivery, hm]
  | query uri range => simp [delivery, hm]
  | shutdown => simp [delivery, hm]

/-- The deliveries of a run, in order. -/
def deliveries : Activity → List Move → List Delivery
  | _, [] => []
  | a, m :: ms => (a.delivery m).toList ++ deliveries (a.step m).1 ms

/-- What a run handed over last for a document. -/
def lastDelivery (a : Activity) (uri : String) (ms : List Move) : Option Delivery :=
  (a.deliveries ms).reverse.find? fun d => d.uri = uri

theorem publications_effects {a : Activity} (ha : a.Tidy) (ms : List Move) :
    publications (a.effects ms) = (a.deliveries ms).map fun d => (d.uri, d.diagnostics) := by
  induction ms generalizing a with
  | nil => rfl
  | cons m ms ih => simp [deliveries, publications_step ha, ih (ha.step m)]

theorem lastFor_publications {a : Activity} (ha : a.Tidy) (uri : String) (ms : List Move) :
    lastFor uri (publications (a.effects ms)) =
      (a.lastDelivery uri ms).map Delivery.diagnostics := by
  rw [publications_effects ha, lastFor, lastDelivery, ← List.map_reverse, List.find?_map,
    Option.map_map]
  rfl

/-- One move leaves, for each document, the entry of its delivery or the entry before it. -/
theorem entry_step {a : Activity} (ha : a.Tidy) {m : Move} (hs : m.act ≠ .shutdown)
    (uri : String) :
    (a.step m).1.session.registry.actions.get? uri =
      ((a.delivery m).toList.find? fun d => d.uri = uri).elim
        (a.session.registry.actions.get? uri) Delivery.stored? := by
  rw [registry_step ha hs]
  cases hd : a.delivery m with
  | none => rfl
  | some d =>
    by_cases hu : d.uri = uri <;> simp [Registry.get?_publish, hu, Delivery.stored?]

/-- A run leaves, for each document, the entry of its last delivery. -/
theorem entry_run {a : Activity} (ha : a.Tidy) {ms : List Move}
    (hs : ∀ m ∈ ms, m.act ≠ .shutdown) (uri : String) :
    (a.run ms).session.registry.actions.get? uri =
      (a.lastDelivery uri ms).elim (a.session.registry.actions.get? uri) Delivery.stored? := by
  induction ms generalizing a with
  | nil => rfl
  | cons m ms ih =>
    have first := entry_step ha (hs m (by simp)) uri
    have later := ih (ha.step m) (fun m' hm' => hs m' (by simp [hm']))
    rw [run_cons, later, first]
    simp only [lastDelivery, deliveries, List.reverse_append, List.find?_append]
    cases hl : (deliveries (a.step m).1 ms).reverse.find? fun d => d.uri = uri with
    | some d => rfl
    | none => cases a.delivery m <;> rfl

/-- The registry of a run as a mirror of what it handed to publish for a document. -/
structure Mirrored (a : Activity) (ms : List Move) (uri : String) : Prop where
  /-- Nothing was handed over yet and nothing is stored, or what is stored are the quick
  fixes of the last diagnostics, in their order; the entry is absent if there are none. -/
  entry : (lastFor uri (publications (a.effects ms)) = none ∧ a.lastDelivery uri ms = none ∧
      (a.run ms).session.registry.actions.get? uri = none) ∨
    ∃ d, a.lastDelivery uri ms = some d ∧
      lastFor uri (publications (a.effects ms)) = some d.diagnostics ∧
      Carries d.violations d.diagnostics d.actions ∧
      (a.run ms).session.registry.actions.get? uri =
        if d.actions = [] then none else some d.actions
  /-- A document has no entry exactly when no violation behind its last diagnostics has a fix. -/
  absent : (a.run ms).session.registry.contains uri = false ↔
    ∀ d, a.lastDelivery uri ms = some d → ∀ v ∈ d.violations, v.suggestedFix = none
  /-- A cycle that ends without an outcome, or fails before it publishes, leaves both sides. -/
  idle : ∀ m, (a.run ms).result? m = some (.ok none) ∨
      (∃ f, (a.run ms).result? m = some (.error f)) ∧ publications ((a.run ms).step m).2 = [] →
    ((a.run ms).step m).1.session.registry = (a.run ms).session.registry ∧
      lastFor uri (publications (a.effects (ms ++ [m]))) =
        lastFor uri (publications (a.effects ms))

/-- In every run without a shutdown, whatever cycles, closings and configurations come in
between and whether or not publishing works, the registry mirrors what was published last. -/
theorem registry_mirrors_publications (config : Config.LintConfig) (roots : List FilePath)
    (persists : Bool) (home : FilePath) (packaged : String) {ms : List Move}
    (hs : ∀ m ∈ ms, m.act ≠ .shutdown) (uri : String) :
    (opened config roots persists home packaged).Mirrored ms uri := by
  have start := tidy_opened config roots persists home packaged
  have entry := entry_run start hs uri
  have published := lastFor_publications start uri ms
  have empty : (opened config roots persists home packaged).session.registry.actions.get? uri =
    none := rfl
  rw [empty] at entry
  refine ⟨?_, ?_, ?_⟩
  · cases hd : (opened config roots persists home packaged).lastDelivery uri ms with
    | none =>
      rw [hd] at entry published
      exact .inl ⟨published, rfl, entry⟩
    | some d =>
      rw [hd] at entry published
      exact .inr ⟨d, rfl, published, d.carries, entry⟩
  · rw [Registry.contains, entry]
    cases hd : (opened config roots persists home packaged).lastDelivery uri ms with
    | none => simp
    | some d =>
      have h := d.stored?_eq_none_iff
      simpa using h
  · intro m hm
    have tidy := start.run ms
    have shut : m.act ≠ .shutdown := by
      intro he
      simp [result?, he] at hm
    have nothing : ((opened config roots persists home packaged).run ms).delivery m = none := by
      rcases hm with hn | ⟨-, hp⟩
      · exact delivery_of_no_outcome tidy hn
      · rw [publications_step tidy] at hp
        simpa using hp
    constructor
    · rw [registry_step tidy shut, nothing]
      rfl
    · have hp : publications (((opened config roots persists home packaged).run ms).step m).2 =
          [] := by
        rw [publications_step tidy, nothing]
        rfl
      rw [effects_append, effects_cons, effects_nil, List.append_nil, Effect.publications_append,
        hp, List.append_nil]

/-- A publishing that fails still counts as the last one. -/
theorem mirrored_when_publishing_fails :
    let ms := [.plain (.lint "u" "x" none), { Move.answer 0 with canPublish := false }]
    (∀ m ∈ ms, m.act ≠ .shutdown) ∧ (configured "lute" "").Mirrored ms "u" ∧
      lastFor "u" (publications ((configured "lute" "").effects ms)) = some [] := by
  refine ⟨by simp [Move.plain, Move.answer], ?_, by cbv⟩
  exact registry_mirrors_publications _ _ _ _ _ (by simp [Move.plain, Move.answer]) "u"

end Activity
end LintBridge
