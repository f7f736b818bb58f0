import Mathlib
import LintBridge.Proofs.Triggers
/-!
Cycles that outlive a shutdown. A shutdown forgets the counters of all documents, but the
cycles that are suspended keep theirs, and the counting begins anew. A cycle from before is
therefore silent unless the document has been triggered, since the last shutdown, as often as
it had been when the cycle began (`shutdown_final_iff`).
-/
namespace LintBridge

open Effect (publications commands Quiet)

namespace Activity

/-- A step, in a run, of a cycle that was begun before a shutdown. -/
structure Straggler (start : Activity) (ms : List Move) where
  before : List Move
  mid : List Move
  later : List Move
  after : List Move
  first : Move
  halt : Move
  last : Move
  uri : String
  source : String
  language : Option String
  reply : Reply
  split : ms = before ++ first :: (mid ++ halt :: (later ++ last :: after))
  begins : first.act = .lint uri source language
  halts : halt.act = .shutdown
  resumes : last.act = .resume (start.run before).begun reply

namespace Straggler

variable {start : Activity} {ms : List Move}

/-- The state in which the step is made. -/
def state (s : Straggler start ms) : Activity :=
  start.run (s.before ++ s.first :: (s.mid ++ s.halt :: s.later))

def ticket (s : Straggler start ms) : Nat := (start.run s.before).begun

/-- How often the document had been triggered when the cycle began, itself included. -/
def own (s : Straggler start ms) : Nat := tally s.uri start 0 (s.before ++ [s.first])

/-- How often the document was triggered after the shutdown, or after the last one of several. -/
def since (s : Straggler start ms) : Nat :=
  tally s.uri (start.run (s.before ++ s.first :: (s.mid ++ [s.halt]))) 0 s.later

theorem generation_own (hs : start.Tidy) (fresh : ∀ uri, start.session.generation uri = 0)
    (s : Straggler start ms) :
    ((start.run s.before).step s.first).1.session.generation s.uri = s.own := by
  have h := generation_run hs (s.before ++ [s.first]) s.uri
  rw [fresh, run_append] at h
  exact h

theorem generation_state (hs : start.Tidy) (s : Straggler start ms) :
    s.state.session.generation s.uri = s.since := by
  have halted : (start.run (s.before ++ s.first :: (s.mid ++ [s.halt]))).session.generation
      s.uri = 0 := by
    have h := generation_step (hs.run (s.before ++ s.first :: s.mid)) s.halt s.uri
    simp only [count, s.halts] at h
    rw [← h, ← List.cons_append, ← List.append_assoc, run_append _ (s.before ++ s.first :: s.mid)]
    rfl
  have h := generation_run (hs.run (s.before ++ s.first :: (s.mid ++ [s.halt]))) s.later s.uri
  rw [halted, ← run_append] at h
  simpa [state, since] using h

/-- A step of such a cycle hands everything over if it is the last one and the document has
been triggered as often as when the cycle began. -/
theorem hands (hs : start.Tidy) (fresh : ∀ uri, start.session.generation uri = 0)
    (s : Straggler start ms) {fs : List Finding} (hc : s.state.Completes s.last s.ticket fs)
    (same : s.since = s.own) : s.state.Hands s.last s.uri fs := by
  have stands : s.state.session.generation s.uri =
      ((start.run s.before).step s.first).1.session.generation s.uri := by
    rw [s.generation_state hs, s.generation_own hs fresh, same]
  rw [state, run_append] at hc stands ⊢
  exact (last_step (hs.run s.before) s.begins hc).1 stands

/-- A step of such a cycle that does not hand everything over is silent. -/
theorem silent (hs : start.Tidy) (fresh : ∀ uri, start.session.generation uri = 0)
    (s : Straggler start ms)
    (h : ∀ fs, s.state.Completes s.last s.ticket fs → s.since ≠ s.own) :
    s.state.Silent s.last := by
  by_cases hc : ∃ fs, s.state.Completes s.last s.ticket fs
  · obtain ⟨fs, hc⟩ := hc
    have moved : s.state.session.generation s.uri ≠
        ((start.run s.before).step s.first).1.session.generation s.uri := by
      rw [s.generation_state hs, s.generation_own hs fresh]
      exact h fs hc
    rw [state, run_append] at hc moved ⊢
    exact (last_step (hs.run s.before) s.begins hc).2 moved
  · have incomplete : ∀ fs, ¬ s.state.Completes s.last s.ticket fs := fun fs hf => hc ⟨fs, hf⟩
    exact silent_of_incomplete (hs.run _) s.resumes incomplete

end Straggler

/-- In every run, the cycles from before a shutdown never publish or write anything again
exactly if none of them comes to its last step while its document has been triggered, since
the last shutdown, as often as when the cycle began; one that does hands its findings over. -/
theorem shutdown_final_iff (config : Config.LintConfig) (roots : List FilePath)
    (persists : Bool) (home : FilePath) (packaged : String) (ms : List Move) :
    let start := opened config roots persists home packaged
    ((∀ s : Straggler start ms, s.state.Silent s.last) ↔
      ∀ s : Straggler start ms, ∀ fs, s.state.Completes s.last s.ticket fs → s.since ≠ s.own) ∧
    ∀ s : Straggler start ms, ∀ fs, s.state.Completes s.last s.ticket fs → s.since = s.own →
      s.state.Hands s.last s.uri fs := by
  intro start
  have tidy : start.Tidy := tidy_opened config roots persists home packaged
  have fresh : ∀ uri, start.session.generation uri = 0 := fun uri => rfl
  refine ⟨⟨?_, ?_⟩, fun s fs hc same => s.hands tidy fresh hc same⟩
  · intro silent s fs hc same
    have handed := s.hands tidy fresh hc same
    exact handed.not_silent (silent s)
  · intro h s
    exact s.silent tidy fresh (h s)

/-- A cycle from before a shutdown publishes after it, while the newer cycle of its document,
begun after the shutdown, has not ended. -/
theorem straggler_publishes :
    let ms := [.plain (.lint "u" "x" none), .plain .shutdown, .plain (.lint "u" "y" none),
      .answer 0]
    publications ((configured "lute" "").effects ms) = [("u", [])] ∧
      ((configured "lute" "").run ms).cycles.keys = [1] ∧
      ¬ ∀ s : Straggler (configured "lute" "") ms, s.state.Silent s.last := by
  refine ⟨by cbv, by cbv, ?_⟩
  intro h
  have silent := (h ⟨[], [], [.plain (.lint "u" "y" none)], [], .plain (.lint "u" "x" none),
    .plain .shutdown, .answer 0, "u", "x", none, .ended (.exited (some 0) [91, 93] []),
    rfl, rfl, rfl, rfl⟩).1
  have published : publications (((configured "lute" "").run [.plain (.lint "u" "x" none),
      .plain .shutdown, .plain (.lint "u" "y" none)]).step (.answer 0)).2 = [("u", [])] := by cbv
  have both := silent.symm.trans published
  cases both

end Activity
end LintBridge
