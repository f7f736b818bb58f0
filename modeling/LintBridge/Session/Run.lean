import LintBridge.Session.Cycle
/-!
Cycles that go on without a pause of their own: the processes of the linter come to given
ends, one after the other, and the files do not change. A cycle can be held back at one of
its processes; a process that cannot be started holds nothing back.
-/
namespace LintBridge

/-- What a process comes to when nothing is said of it: an empty batch. -/
def ProcessEnd.usual : ProcessEnd := .exited (some 0) (Text.Utf8.encode "[]") []

/-- Does a process come to be at all? -/
def ProcessEnd.isStarted : ProcessEnd → Bool
  | .refused _ | .refusedArgument => false
  | _ => true

/-- Does a cycle wait for a process? -/
def Cycle.awaitsProcess (c : Cycle) : Bool :=
  match c.stage with
  | .searching _ => false
  | _ => true

namespace Session

/-- A cycle with the ends of the processes that it has yet to start, the current one first. -/
structure Running where
  cycle : Cycle
  ends : List ProcessEnd
  /-- The number of processes before the current one. -/
  started : Nat

/-- How a cycle stands that goes on until it ends or is held back. -/
inductive Played where
  | held (r : Running)
  | ended (result : Except Failure (Option Outcome))

/-- Let a cycle go on for so many steps at most. `hold` is the number of the process at
which it is held back. -/
def playFuel (canPublish : Bool) (hold : Option Nat) :
    Nat → Turn Standing → List ProcessEnd → Nat → Turn Played
  | 0, turn, ends, started =>
    match turn.value with
    | .paused c => ⟨turn.session, turn.files, turn.effects, .held ⟨c, ends, started⟩⟩
    | .ended r => ⟨turn.session, turn.files, turn.effects, .ended r⟩
  | fuel + 1, turn, ends, started =>
    match turn.value with
    | .ended r => ⟨turn.session, turn.files, turn.effects, .ended r⟩
    | .paused c =>
      if Cycle.awaitsProcess c then
        let e := ends.headD ProcessEnd.usual
        if hold = some started && ProcessEnd.isStarted e then
          ⟨turn.session, turn.files, turn.effects, .held ⟨c, ends, started⟩⟩
        else
          let next := turn.session.resume turn.files canPublish c (.ended e)
          playFuel canPublish hold fuel { next with effects := turn.effects ++ next.effects }
            ends.tail (started + 1)
      else
        let next := turn.session.resume turn.files canPublish c .looked
        playFuel canPublish hold fuel { next with effects := turn.effects ++ next.effects }
          ends started

/-- The steps of a cycle: two of the search and one for each process. -/
def cycleSteps : Nat := 5

/-- Begin a cycle and let it go on. -/
def lintDocument (s : Session) (fs : FileSystem) (canPublish : Bool) (hold : Option Nat)
    (uri source : String) (language : Option String) (ends : List ProcessEnd) : Turn Played :=
  playFuel canPublish hold cycleSteps (s.beginCycle fs uri source language) ends 0

/-- Let a cycle that was held back go on to its end. -/
def release (s : Session) (fs : FileSystem) (canPublish : Bool) (r : Running) : Turn Played :=
  playFuel canPublish none cycleSteps ⟨s, fs, [], .paused r.cycle⟩ r.ends r.started

end Session
end LintBridge
