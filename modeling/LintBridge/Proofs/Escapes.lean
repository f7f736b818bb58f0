import LintBridge.Cli.Program
import LintBridge.Server
import LintBridge.Proofs.Layers
import LintBridge.Proofs.Turns
/-!
What passes the handlers of faults of the configuration. Loading a configuration gives one,
fails with a fault of the configuration, or fails with something else; the last happens exactly
if a file cannot be looked at or read or has a scalar without value, a variable is no JSON, a key
is no text, a log file stands in a home that is not known, or the value that a fault would tell
has too many digits to be written (`Escape`).
-/
namespace LintBridge.Config

open Value Server

theorem keysAreText_iff {es : Entries} :
    RuntimeState.keysAreText es = true ↔ ∀ e ∈ es, ∃ s, e.1 = .text s := by
  unfold RuntimeState.keysAreText
  rw [List.all_eq_true]
  refine forall₂_congr fun e _ => ?_
  cases e.1 <;> simp

/-- The keys of a merge are texts if those of its layers are. -/
theorem keysAreText_merge {base upper : Entries} :
    RuntimeState.keysAreText (merge base upper) = true ↔
      RuntimeState.keysAreText base = true ∧ RuntimeState.keysAreText upper = true := by
  simp only [keysAreText_iff]
  refine forall_key_merge (P := fun k => ∃ s, k = .text s) fun {a b} h => ?_
  constructor
  · rintro ⟨s, rfl⟩
    rw [sameKey_comm] at h
    exact ⟨s, eq_text_of_sameKey h⟩
  · rintro ⟨s, rfl⟩
    exact ⟨s, eq_text_of_sameKey h⟩

theorem FileLayers.keysAreText_iff {src : Sources} {workspace : Option FilePath}
    {ls : List Entries} {files : Entries} (hf : FileLayers src workspace ls files) :
    RuntimeState.keysAreText files = true ↔ ∀ l ∈ ls, RuntimeState.keysAreText l = true := by
  cases hf with
  | user hu => simp
  | workspace hu hs ho =>
    rename_i user own state events
    unfold fileLayers
    rw [keysAreText_merge]
    cases state with
    | none => simp [and_comm]
    | some s =>
      dsimp only
      rw [keysAreText_merge]
      have state : RuntimeState.keysAreText (stateLayer s) = true := rfl
      simp only [Option.map_some, Option.toList_some, List.cons_append, List.nil_append,
        List.forall_mem_cons, List.not_mem_nil, false_implies, implies_true, and_true, state]
      exact ⟨fun h => ⟨h.2, trivial, h.1.1⟩, fun h => ⟨⟨h.2.2, state⟩, h.1⟩⟩

end LintBridge.Config

namespace LintBridge.Server

open Config
open Effect (Quiet)

/-- Work with more effects. -/
def Work.did (w : Work) (es : List Effect) : Work := { w with effects := w.effects ++ es }

theorem did_did (w : Work) (es es' : List Effect) : (w.did es).did es' = w.did (es ++ es') := by
  simp [Work.did]

/-- What loading the configuration gives for folders. -/
def Work.loaded (around : Surroundings) (w : Work) (roots : List FilePath) :
    Except Failure Settings :=
  (load ⟨w.files, around.userFile, around.environment⟩ roots.head?
    ((settingsSections w.server.settings).map fun e => (.text e.1, e.2))).result

/-- What the server makes of a load: a fault of the configuration is reported and gives none. -/
def handedOn : Except Failure Settings → Handling (Option LintConfig)
  | .ok s => pure (some s.lint)
  | .error f => match configFault? f with
    | some fault => do
      emit (Session.reports none [.configLoadFailed fault])
      pure none
    | none => throw f

theorem handedOn_run (result : Except Failure Settings) (w : Work) :
    ∃ es, Quiet es ∧ (handedOn result).run w =
      (match result with
        | .ok s => .ok (some s.lint)
        | .error f => if (configFault? f).isSome then .ok none else .error f, w.did es) := by
  have silent : w.did [] = w := by simp [Work.did]
  cases result with
  | ok s => exact ⟨[], .nil, by rw [silent]; rfl⟩
  | error f =>
    cases h : configFault? f with
    | none => exact ⟨[], .nil, by simp only [handedOn, h, silent]; rfl⟩
    | some fault =>
      refine ⟨_, Session.quiet_reports none [.configLoadFailed fault], ?_⟩
      simp only [handedOn, h]
      rfl

/-- What the server does with the outcome of loading the configuration; beside that it reports. -/
theorem loadConfig_run (around : Surroundings) (roots : List FilePath) (w : Work) :
    ∃ es, Quiet es ∧ (loadConfig around roots).run w =
      (match w.loaded around roots with
        | .ok s => .ok (some s.lint)
        | .error f => if (configFault? f).isSome then .ok none else .error f, w.did es) := by
  -- the state is read once, at the beginning: from there on the outcome stands fixed
  let reported := Session.reports none
    (load ⟨w.files, around.userFile, around.environment⟩ roots.head?
      ((settingsSections w.server.settings).map fun e => (.text e.1, e.2))).events
  obtain ⟨es, quiet, handed⟩ := handedOn_run (w.loaded around roots) (w.did reported)
  refine ⟨reported ++ es, (Session.quiet_reports _ _).append quiet, ?_⟩
  rw [← did_did]
  exact handed

end LintBridge.Server

namespace LintBridge.Config

open Value Server

theorem loadConfig_value (around : Surroundings) (roots : List FilePath) (w : Work) :
    ((loadConfig around roots).run w).1 =
      match (load ⟨w.files, around.userFile, around.environment⟩ roots.head?
        ((settingsSections w.server.settings).map fun e => (.text e.1, e.2))).result with
      | .ok s => .ok (some s.lint)
      | .error f => if (configFault? f).isSome then .ok none else .error f := by
  obtain ⟨es, -, run⟩ := loadConfig_run around roots w
  rw [run]
  rfl

end LintBridge.Config
