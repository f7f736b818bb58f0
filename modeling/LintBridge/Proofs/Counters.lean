import LintBridge.Proofs.Mirror
import LintBridge.Proofs.Triggers
/-!
Counters and quick fixes. A shutdown goes through the counters of a session and removes the
quick fixes of each document that has one, so it leaves nothing exactly if every document with
quick fixes has a counter (`shutdown_eq_fresh_iff`). Every step of a session keeps that so
(`Activity.counted_step`): a document that is closed has just been counted, and a cycle writes the
registry only while its document stands at the cycle's own number, which is not zero. It does not
matter that a cycle from before an earlier shutdown can be such a cycle.
-/
namespace LintBridge

theorem Registry.eq_empty_iff {r : Registry} : r = .empty ↔ r.actions = [] := by
  cases r
  simp [empty]

/-- Documents that are removed one after the other are gone, and all others are as they were. -/
theorem Registry.actions_foldl_clear (r : Registry) (uris : List String) :
    (uris.foldl clear r).actions = r.actions.filter fun e => e.1 ∉ uris := by
  induction uris generalizing r with
  | nil => simp
  | cons uri uris ih =>
    rw [List.foldl_cons, ih, clear, Assoc.erase, List.filter_filter]
    simp [Bool.and_comm]

namespace Session

variable {s : Session} {uri : String}

/-- A shutdown removes the quick fixes of the documents that have a counter, and no others. -/
theorem get?_shutdown (s : Session) (uri : String) :
    s.shutdown.registry.actions.get? uri =
      if uri ∈ s.generations.keys then none else s.registry.actions.get? uri := by
  rw [shutdown, Registry.actions_foldl_clear,
    Assoc.get?_filter _ fun k => decide (k ∉ s.generations.keys)]
  by_cases counter : uri ∈ s.generations.keys <;> simp [counter]

/-- A shutdown makes a session as new, but for what it is configured with, exactly if every
document with quick fixes has a counter. -/
theorem shutdown_eq_fresh_iff :
    s.shutdown = .fresh s.config s.roots s.persists s.home s.packaged ↔
      ∀ uri, s.registry.contains uri = true → uri ∈ s.generations.keys := by
  have emptied : s.shutdown = .fresh s.config s.roots s.persists s.home s.packaged ↔
      s.generations.keys.foldl Registry.clear s.registry = .empty := by
    simp [shutdown, fresh]
  rw [emptied, Registry.eq_empty_iff, Registry.actions_foldl_clear, List.filter_eq_nil_iff]
  constructor
  · intro covered uri there
    obtain ⟨e, among, rfl⟩ := List.mem_map.mp (Assoc.mem_keys_iff.mpr there)
    simpa using covered e among
  · intro covered e among
    have there : s.registry.contains e.1 = true := Assoc.mem_keys_iff.mp (List.mem_map_of_mem among)
    simpa using covered e.1 there

/-- The counter of every document with quick fixes has been advanced. -/
def Counted (s : Session) : Prop :=
  ∀ uri, s.registry.contains uri = true → 0 < s.generation uri

/-- A counter that stands above zero is there. -/
theorem mem_keys_of_generation_pos (h : 0 < s.generation uri) : uri ∈ s.generations.keys := by
  rw [Assoc.mem_keys_iff]
  cases counter : s.generations.get? uri with
  | some n => rfl
  | none => simp [generation, counter] at h

theorem Counted.covers (h : s.Counted) :
    ∀ uri, s.registry.contains uri = true → uri ∈ s.generations.keys :=
  fun uri there => mem_keys_of_generation_pos (h uri there)

end Session

namespace Activity

/-- What is handed over is handed over for a document that has been counted. -/
theorem generation_pos_of_delivery {a : Activity} (ha : a.Tidy) {m : Move} {d : Delivery}
    (h : a.delivery m = some d) : 0 < a.count m d.uri (a.session.generation d.uri) := by
  cases hm : m.act with
  | close uri =>
    obtain rfl : Delivery.closing uri = d := by simpa [delivery, hm] using h
    simp [count, triggers, hm, Delivery.closing]
  | resume ticket reply =>
    simp only [delivery, hm] at h
    obtain ⟨c, cycle, h⟩ := Option.bind_eq_some_iff.mp h
    obtain ⟨current, same, -⟩ := Session.delivery_eq_some h
    have positive : 0 < c.generation := ha.positive _ c cycle
    have stands := (a.session.isCurrent_iff c.uri positive).mp current
    have active : m.act ≠ .shutdown := by simp [hm]
    rw [same, stands]
    exact Nat.lt_of_lt_of_le positive (le_count a active _ _)
  | lint uri source language => simp [delivery, hm] at h
  | reconfigure config roots => simp [delivery, hm] at h
  | query uri range => simp [delivery, hm] at h
  | shutdown => simp [delivery, hm] at h

/-- No move leaves quick fixes without a counter. -/
theorem counted_step {a : Activity} (ha : a.Tidy) (h : a.session.Counted) (m : Move) :
    (a.step m).1.session.Counted := by
  intro uri there
  by_cases halt : m.act = .shutdown
  · have halted : (a.step m).1.session = a.session.shutdown := by simp [step, halt]
    rw [halted, Session.shutdown_eq_fresh_iff.mpr h.covers] at there
    cases there
  · rw [generation_step ha]
    rw [Registry.contains, registry_step ha halt] at there
    cases hd : a.delivery m with
    | none =>
      rw [hd] at there
      exact Nat.lt_of_lt_of_le (h uri there) (le_count a halt uri _)
    | some d =>
      by_cases own : d.uri = uri
      · rw [← own]
        exact generation_pos_of_delivery ha hd
      · simp only [hd, Option.elim_some, Registry.get?_publish, if_neg own] at there
        exact Nat.lt_of_lt_of_le (h uri there) (le_count a halt uri _)

/-- Whatever has been begun, ended, closed and configured, and however often the session has been
shut down, every document with quick fixes has a counter. A shutdown removes nothing but the quick
fixes of documents with a counter, and yet it leaves no quick fixes, no counter and no linter. -/
theorem shutdown_leaves_nothing (config : Config.LintConfig) (roots : List FilePath)
    (persists : Bool) (home : FilePath) (packaged : String) (ms : List Move) :
    let a := (opened config roots persists home packaged).run ms
    (∀ uri, a.session.registry.contains uri = true → uri ∈ a.session.generations.keys) ∧
      (∀ (s : Session) (uri : String), s.shutdown.registry.actions.get? uri =
        if uri ∈ s.generations.keys then none else s.registry.actions.get? uri) ∧
      ∀ (files : FileSystem) (canPublish : Bool),
        let after := (a.step ⟨.shutdown, files, canPublish⟩).1
        after.session.registry = .empty ∧ after.session.generations = [] ∧
          after.session.toolchain = none := by
  intro a
  have start : (opened config roots persists home packaged).session.Counted := fun _ h => nomatch h
  have counted : a.session.Counted :=
    (tidy_opened config roots persists home packaged).run_keeps counted_step start ms
  refine ⟨counted.covers, Session.get?_shutdown, fun files canPublish => ?_⟩
  have asNew := Session.shutdown_eq_fresh_iff.mpr counted.covers
  have halted : (a.step ⟨.shutdown, files, canPublish⟩).1.session = a.session.shutdown := rfl
  intro after
  rw [halted, asNew]
  exact ⟨rfl, rfl, rfl⟩

end Activity
end LintBridge
