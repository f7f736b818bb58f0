import LintBridge.Assoc
import LintBridge.Log.Event
import LintBridge.Json.Encode
/-!
Log records as lines of text, one object per line or for people to read. A record is first
stamped with its level, the time and the identity of the lint cycle; these stand over
fields of the same names.
-/
namespace LintBridge.Log

/-- What is known of a record from outside: when it was made, and in which lint cycle. -/
structure Stamp where
  time : String
  lintId : Option String
  cycle : Option CycleContext
  deriving Repr

namespace Record

/-- A record with its stamp as one collection of fields. -/
def stamped (r : Record) (s : Stamp) : Assoc String Value :=
  let context : Assoc String Value := match s.cycle with
    | some c => [("uri", .text c.uri), ("generation", .int c.generation)]
    | none => []
  let own : List (String × Value) := r.fields ++ [("event", .text r.event),
    ("level", .text r.level.word), ("timestamp", .text s.time)] ++
    (s.lintId.elim [] fun i => [("lint_id", .text i)])
  own.foldl (fun fields f => Assoc.put fields f.1 f.2) context

/-- A record as one JSON object. -/
def jsonLine (r : Record) (s : Stamp) : String := Json.encode (.record (r.stamped s))

/-- Characters that a text in a line for people must not have outside quotes. -/
def needsQuotes (c : Char) : Bool :=
  c = ' ' || c = '\t' || c = '=' || c = '\r' || c = '\n' || c = '"' || c = '\''

/-- The value of a field in a line for people. -/
def fieldText : Value → String
  | .text s => if s.toList.any needsQuotes then Text.quoted s else s
  | v => v.inner

/-- The fields that stand first in a line for people, each with its form. -/
def columns : List (String × (Value → String)) :=
  let plain (v : Value) : String := v.display
  let bracketed (v : Value) : String := s!"[{v.display}]"
  [("timestamp", plain), ("level", bracketed), ("event", plain), ("logger", bracketed),
    ("logger_name", bracketed)]

/-- A record as a line for people: the first columns, then all other fields by name. -/
def consoleLine (r : Record) (s : Stamp) : String :=
  let fields := r.stamped s
  let first := columns.filterMap fun c => (fields.get? c.1).map c.2
  let others := List.filter (fun f => !columns.any fun c => c.1 = f.1) fields
  let sorted := others.mergeSort fun a b => decide (a.1 ≤ b.1)
  let pieces := first ++ sorted.map fun f => f.1 ++ "=" ++ fieldText f.2
  let line := String.intercalate " " (pieces.filter fun p => !p.isEmpty)
  String.ofList (line.toList.reverse.dropWhile (· = ' ')).reverse

end Record
end LintBridge.Log
