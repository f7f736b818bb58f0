import LintBridge.Value.Display
/-!
The faults that the program knows by name. Each cause has a numbered code, a message for
people and details for log records; the family says which part of the program the fault
belongs to.
-/
namespace LintBridge

/-- A length of time in seconds, as it was configured. -/
inductive Seconds where
  | whole (n : Int)
  | real (x : Binary64)
  deriving DecidableEq, Repr

namespace Seconds

def toValue : Seconds → Value
  | whole n => .int n
  | real x => .float x

def text : Seconds → String
  | whole n => toString n
  | real x => x.text

def isZero : Seconds → Bool
  | whole n => n = 0
  | real x => match x with | .finite _ m _ => m = 0 | _ => false

end Seconds

/-- What went wrong. -/
inductive Cause where
  | bundledMissing (path : String)
  | exitStatus (status : Int) (stderr : String)
  | badOutput (reason : String)
  | spawnFailed (executable reason : String)
  | timedOut (executable : String) (limit : Seconds)
  | malformedViolation (index : Option Int) (reason : String)
  | unreadableConfig (path reason : String)
  | invalidSetting (field value reason : String)
  deriving DecidableEq, Repr

/-- The part of the program that a fault belongs to. -/
inductive Family where
  | toolchain | invocation | malformedViolation | config
  deriving DecidableEq, Repr

/-- A family that includes this one: malformed violations are failed invocations. -/
def Family.parent? : Family → Option Family
  | malformedViolation => some invocation
  | _ => none

structure Fault where
  family : Family
  cause : Cause
  deriving DecidableEq, Repr

namespace Cause

/-- The number of a cause: 1xxx for the toolchain, 2xxx for invocations, 3xxx for
configuration. -/
def code : Cause → Nat
  | bundledMissing .. => 1001
  | exitStatus .. => 2001
  | badOutput .. => 2002
  | spawnFailed .. => 2003
  | timedOut .. => 2004
  | malformedViolation .. => 2101
  | unreadableConfig .. => 3001
  | invalidSetting .. => 3002

def name : Cause → String
  | bundledMissing .. => "TOOLCHAIN_NOT_FOUND"
  | exitStatus .. => "INVOCATION_EXIT_STATUS"
  | badOutput .. => "INVOCATION_BAD_OUTPUT"
  | spawnFailed .. => "INVOCATION_SPAWN_FAILED"
  | timedOut .. => "INVOCATION_TIMEOUT"
  | malformedViolation .. => "MALFORMED_VIOLATION"
  | unreadableConfig .. => "CONFIG_PARSE_ERROR"
  | invalidSetting .. => "CONFIG_INVALID_VALUE"

def message : Cause → String
  | bundledMissing path => s!"No linter executable found; bundled fallback missing at {path}"
  | exitStatus status _ => s!"Linter exited with status {status}"
  | badOutput reason => s!"Linter output is not a JSON array: {reason}"
  | spawnFailed executable reason => s!"Could not start {executable}: {reason}"
  | timedOut executable limit => s!"{executable} did not finish within {limit.text}s"
  | malformedViolation (some index) reason =>
    s!"Malformed violation in record {index}: {reason}"
  | malformedViolation none reason => s!"Malformed violation in batch: {reason}"
  | unreadableConfig path reason => s!"Failed to parse config at {path}: {reason}"
  | invalidSetting field _ reason => s!"Invalid value for '{field}': {reason}"

/-- The particulars of a cause by name. -/
def details : Cause → List (String × Value)
  | bundledMissing path => [("bundled_path", .text path)]
  | exitStatus status stderr => [("returncode", .int status), ("stderr", .text stderr)]
  | badOutput reason => [("reason", .text reason)]
  | spawnFailed executable reason => [("executable", .text executable), ("reason", .text reason)]
  | timedOut executable limit =>
    [("executable", .text executable), ("timeout_sec", limit.toValue)]
  | malformedViolation index reason =>
    [("index", index.elim .null .int), ("reason", .text reason)]
  | unreadableConfig path reason => [("path", .text path), ("reason", .text reason)]
  | invalidSetting field value reason =>
    [("field", .text field), ("value", .text value), ("reason", .text reason)]

/-- The family to which a cause belongs unless it is said otherwise. -/
def family : Cause → Family
  | bundledMissing .. => .toolchain
  | exitStatus .. | badOutput .. | spawnFailed .. | timedOut .. => .invocation
  | malformedViolation .. => .malformedViolation
  | unreadableConfig .. | invalidSetting .. => .config

def toFault (c : Cause) : Fault := ⟨c.family, c⟩

/-- A setting with a value that is not as it is asked for. The cause tells the value, so there
is none for a value that cannot be written. -/
def ofSetting? (field : String) (value : Value) (reason : String) : Option Cause :=
  value.display?.map fun shown => .invalidSetting field shown reason

end Cause

/-- A mapping with text keys. -/
def Value.record (fields : List (String × Value)) : Value :=
  .map (fields.map fun f => (.text f.1, f.2))

namespace Fault

/-- The fields of a fault in log records. -/
def fields (f : Fault) : List (String × Value) :=
  [("code", .int f.cause.code), ("error", .text f.cause.name),
   ("message", .text f.cause.message), ("details", .record f.cause.details)]

/-- The fault on one line: code, name and message. -/
def summary (f : Fault) : String := s!"[{f.cause.code}] {f.cause.name}: {f.cause.message}"

end Fault
end LintBridge
