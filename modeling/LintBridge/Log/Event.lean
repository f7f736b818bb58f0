import LintBridge.Log.Level
import LintBridge.Fault
/-!
What the program reports while it works. Every kind of event has a level, a name and
fields; inside a lint cycle the document and the generation of the cycle are added, but a
field of the event itself stands first.
-/
namespace LintBridge.Log

inductive Event where
  | lintInvoke (executable : String) (ruleArgs : List String) (cwd : Option String)
  | lintStderr (executable stderr : String)
  | invocationFailed (fault : Fault) (ruleArgs : List String)
  | lintParsed (violations : Nat) (ruleArgs : List String)
  | explicitPathUnset
  | noWorkspaceRoots
  | manifestSearch (manifest : String) (roots : Nat)
  | manifestNotFound (manifest : String)
  | manifestFound (manifest binary : String)
  | binaryMissing (binary : String)
  | binaryFound (executable : String)
  | toolchainNotFound (fault : Fault)
  | bundledFallback (executable : String)
  | stateIgnored (path : String)
  | stateWritten (path : String)
  | stateWriteFailed (path : String) (error : String)
  | skippedLanguage (uri : String) (language : Option String)
  | skippedNoToolchain
  | customRules (rulesPath : String)
  | resultStale (latest : Option Nat)
  | published (diagnostics fixes : Nat)
  | configLoadFailed (fault : Fault)
  | sessionStarted (roots : List String)
  | sessionStopped
  deriving Repr

/-- One log record. -/
structure Record where
  level : Level
  event : String
  fields : List (String × Value)
  deriving Repr

def texts (xs : List String) : Value := .list (xs.map .text)

def optionalText (s : Option String) : Value := s.elim .null .text

namespace Event

def record : Event → Record
  | lintInvoke executable ruleArgs cwd =>
    ⟨.debug, "lint_invoke", [("executable", .text executable), ("rule_args", texts ruleArgs),
      ("cwd", optionalText cwd)]⟩
  | lintStderr executable stderr =>
    ⟨.warning, "lint_stderr", [("executable", .text executable), ("stderr", .text stderr)]⟩
  | invocationFailed fault ruleArgs =>
    ⟨.error, "lint_invocation_failed", fault.fields ++ [("rule_args", texts ruleArgs)]⟩
  | lintParsed violations ruleArgs =>
    ⟨.info, "lint_parsed", [("violations", .int violations), ("rule_args", texts ruleArgs)]⟩
  | explicitPathUnset =>
    ⟨.info, "toolchain_explicit_path_unset", [("next_step", .text "foreman")]⟩
  | noWorkspaceRoots => ⟨.info, "toolchain_no_workspace_roots", []⟩
  | manifestSearch manifest roots =>
    ⟨.info, "toolchain_manifest_search", [("manifest", .text manifest), ("roots", .int roots)]⟩
  | manifestNotFound manifest =>
    ⟨.info, "toolchain_manifest_not_found", [("manifest", .text manifest)]⟩
  | manifestFound manifest binary =>
    ⟨.info, "toolchain_manifest_found",
      [("manifest", .text manifest), ("expected_binary", .text binary)]⟩
  | binaryMissing binary =>
    ⟨.info, "toolchain_binary_missing", [("expected_binary", .text binary)]⟩
  | binaryFound executable =>
    ⟨.info, "toolchain_binary_found", [("executable", .text executable)]⟩
  | toolchainNotFound fault => ⟨.error, "toolchain_not_found", fault.fields⟩
  | bundledFallback executable =>
    ⟨.info, "toolchain_bundled_fallback", [("executable", .text executable)]⟩
  | stateIgnored path => ⟨.warning, "runtime_state_ignored", [("path", .text path)]⟩
  | stateWritten path => ⟨.info, "runtime_state_written", [("path", .text path)]⟩
  | stateWriteFailed path error =>
    ⟨.warning, "runtime_state_write_failed", [("path", .text path), ("error", .text error)]⟩
  | skippedLanguage uri language =>
    ⟨.debug, "lint_skipped_language",
      [("uri", .text uri), ("language_id", optionalText language)]⟩
  | skippedNoToolchain => ⟨.warning, "lint_skipped_no_toolchain", []⟩
  | customRules rulesPath => ⟨.info, "lint_custom_rules", [("rules_path", .text rulesPath)]⟩
  | resultStale latest =>
    ⟨.info, "lint_result_stale", [("latest", latest.elim .null fun n => .int n)]⟩
  | published diagnostics fixes =>
    ⟨.info, "lint_published", [("diagnostics", .int diagnostics), ("fixes", .int fixes)]⟩
  | configLoadFailed fault => ⟨.error, "config_load_failed", fault.fields⟩
  | sessionStarted roots => ⟨.info, "session_started", [("roots", texts roots)]⟩
  | sessionStopped => ⟨.info, "session_stopped", []⟩

end Event

/-- The lint cycle in which something is reported. -/
structure CycleContext where
  uri : String
  generation : Nat
  deriving DecidableEq, Repr

/-- An event and the cycle in which it was reported. -/
structure Entry where
  cycle : Option CycleContext
  event : Event
  deriving Repr

/-- The record of an event inside a cycle. A field that the event has already is kept. -/
def Entry.record (e : Entry) : Record :=
  let r := e.event.record
  match e.cycle with
  | none => r
  | some c =>
    let more := [("uri", Value.text c.uri), ("generation", Value.int c.generation)]
    { r with fields := r.fields ++ more.filter fun f => (r.fields.lookup f.1).isNone }

end LintBridge.Log
