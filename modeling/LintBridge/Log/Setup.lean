import LintBridge.Config.Schema
import LintBridge.Log.Line
/-!
The log as it is set up. A record passes the level of its source and then that of each
output on its own; every output writes it in its own format.
-/
namespace LintBridge.Log

open Config (LogFormat Destination LogOutput LoggingConfig)

/-- One output of the log with the level that it asks for. -/
structure Sink where
  format : LogFormat
  destination : Destination
  level : Level
  deriving DecidableEq, Repr

structure Setup where
  level : Level
  sinks : List Sink
  deriving DecidableEq, Repr

/-- Where a record comes from: the program itself, or a named part of what it stands on. -/
inductive Source where
  | program
  | component (name : String)
  deriving DecidableEq, Repr

namespace Level

def max (a b : Level) : Level := if a.number ≤ b.number then b else a

/-- Is a record of level `l` let through? -/
def admits (threshold l : Level) : Bool := threshold.number ≤ l.number

end Level

/-- The component that speaks the editor protocol. It would log every message. -/
def protocolComponent : String := "pygls"

/-- Is a component a part of the one that speaks the editor protocol? -/
def isProtocol (name : String) : Bool :=
  name = protocolComponent || (protocolComponent ++ ".").toList.isPrefixOf name.toList

namespace Setup

/-- The log of a configuration. An output without a level has that of the whole log. -/
def ofConfig (c : LoggingConfig) : Setup :=
  ⟨c.level, c.outputs.map fun o => ⟨o.format, o.destination, o.level.getD c.level⟩⟩

/-- A log with the error stream as its only output. -/
def single (format : LogFormat) (level : Level) : Setup :=
  ofConfig ⟨level, [⟨format, .stderr, none⟩]⟩

/-- The level of the protocol: never below information. -/
def protocolLevel (s : Setup) : Level := s.level.max .info

/-- The level that a source has to reach. -/
def sourceLevel (s : Setup) : Source → Level
  | .program => s.level
  | .component name => if isProtocol name then s.protocolLevel else s.level

/-- Create the files of all outputs, and the directories above them. -/
def openFiles (s : Setup) (fs : FileSystem) : Except SystemError FileSystem :=
  s.sinks.foldlM (fun fs sink => match sink.destination with
    | .stderr => .ok fs
    | .file path => do
      let p := FilePath.ofText path
      let fs ← fs.makeDirectories p.parent
      fs.write p ((fs.read p).toOption.getD [])) fs

/-- A record in the format of an output. -/
def Sink.line (sink : Sink) (r : Record) (stamp : Stamp) : String :=
  match sink.format with
  | .json => r.jsonLine stamp
  | .console => r.consoleLine stamp

/-- The lines that a record makes, each with its destination. -/
def write (s : Setup) (source : Source) (r : Record) (stamp : Stamp) :
    List (Destination × String) :=
  if !(s.sourceLevel source).admits r.level then []
  else (s.sinks.filter fun sink => sink.level.admits r.level).map fun sink =>
    (sink.destination, Sink.line sink r stamp)

end Setup
end LintBridge.Log
