import LintBridge.Lint.Batch
import LintBridge.Lint.Command
import LintBridge.Log.Event
import LintBridge.Text.Blank
/-!
One run of the linter, from what became of its process to the findings. Every fault of
the run itself is reported and leaves no findings; only what is no fault of the run, such
as a number beyond the limit of digits, passes through.
-/
namespace LintBridge

/-- What becomes of a process that was to be started. -/
inductive ProcessEnd where
  | refused (e : SystemError)
  | refusedArgument
  | exited (status : Option Int) (stdout stderr : List UInt8)
  | outlasted (gone : Bool)
  deriving DecidableEq, Repr

/-- What is done to a process that does not end in time: it is killed, and then waited for
unless it was gone already. -/
inductive Fate where
  | left | killed | killedAndAwaited
  deriving DecidableEq, Repr

/-- One run of the linter: the executable, the arguments of the pass, and the time limit. -/
structure Invocation where
  executable : String
  ruleArgs : List String
  limit : Option Seconds
  deriving DecidableEq, Repr

/-- What a run gives: the findings or a failure, the reports, and the fate of the process. -/
structure Concluded where
  result : Except Failure (List Violation)
  events : List Log.Event
  fate : Fate

namespace Invocation

/-- The report at the beginning of a run. -/
def announce (i : Invocation) (cwd : Option String) : Log.Event :=
  .lintInvoke i.executable i.ruleArgs cwd

/-- A run that fails by a fault of its own has no findings. -/
def failing (i : Invocation) (events : List Log.Event) (c : Fault) (fate : Fate) : Concluded :=
  ⟨.ok [], events ++ [.invocationFailed c i.ruleArgs], fate⟩

/-- A run that exits. -/
def exited (i : Invocation) (status : Option Int) (stdout stderr : List UInt8) : Concluded :=
  let complaint := Text.Utf8.decodeLenient stderr
  let reported := if complaint.isEmpty then []
    else [Log.Event.lintStderr i.executable (Text.stripped complaint)]
  if status ≠ some 0 then
    i.failing reported (Cause.exitStatus (status.getD (-1)) (Text.stripped complaint)).toFault .left
  else match Batch.parse (Text.Utf8.decodeLenient stdout) with
    | .ok vs => ⟨.ok vs, reported ++ [.lintParsed vs.length i.ruleArgs], .left⟩
    | .error (.fault f) => i.failing reported f .left
    | .error f => ⟨.error f, reported, .left⟩

/-- A run whose time is over. A limit of zero is reported as a decimal number. -/
def timedOut (i : Invocation) (limit : Seconds) (gone : Bool) : Concluded :=
  let limit := if limit.isZero then .real (.finite false 0 (-1074)) else limit
  i.failing [] (Cause.timedOut i.executable limit).toFault
    (if gone then .killed else .killedAndAwaited)

/-- Is there no time at all? -/
def hasNoTime (i : Invocation) : Bool := i.limit.any fun limit =>
  match limit with
  | .whole n => n ≤ 0
  | .real x => x.isNonPositive

/-- What a run gives when its process has come to an end or its time is over. -/
def conclude (i : Invocation) (e : ProcessEnd) : Concluded :=
  match e with
  | .refused err =>
    i.failing [] (Cause.spawnFailed i.executable err.message).toFault .left
  | .refusedArgument => ⟨.error .nulCharacter, [], .left⟩
  | .exited status stdout stderr =>
    if i.hasNoTime then i.timedOut (i.limit.getD (.whole 0)) false
    else i.exited status stdout stderr
  | .outlasted gone => i.timedOut (i.limit.getD (.whole 0)) gone

end Invocation
end LintBridge
