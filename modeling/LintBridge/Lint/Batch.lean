import LintBridge.Lint.Violation
import LintBridge.Json.Decode
import LintBridge.Failure
/-!
The linter's output as a whole: a JSON array of findings, accepted or refused in one
piece. One bad record refuses every record.
-/
namespace LintBridge.Batch

/-- Read the records from a given index on. -/
def records : Nat → List Value → Except Fault (List Violation)
  | _, [] => .ok []
  | index, v :: rest =>
    match Violation.check v with
    | .error m => .error (Cause.malformedViolation (some index) m.describe).toFault
    | .ok violation => (records (index + 1) rest).map (violation :: ·)

/-- Read the linter's output. -/
def parse (stdout : String) : Except Failure (List Violation) :=
  match Json.decode stdout with
  | .error (.digitLimit digits) => .error (.digitLimit digits)
  | .error refusal => .error (.fault (Cause.badOutput refusal.message).toFault)
  | .ok (.list vs) => (records 0 vs).mapError .fault
  | .ok v => .error (.fault (Cause.badOutput s!"expected array, got {v.kindName}").toFault)

end LintBridge.Batch
