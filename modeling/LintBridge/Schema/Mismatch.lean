import LintBridge.Value.Display
/-!
Where and why data does not have the form that is asked of it. A mismatch holds the way
from the root to the offending value, the value itself, and what was asked.
-/
namespace LintBridge.Schema

/-- What is asked of a value and not met. -/
inductive Demand where
  | present
  | dictionary (model : String)
  | text
  | utf8
  | list
  | integer
  | integerText
  | wholeNumber
  | integerSize
  | finite
  | atLeastZero
  | number
  | numberText
  | oneOf (choices : List String)
  | noExtra
  | rule (why : String)
  deriving DecidableEq, Repr

/-- Choices as a list with a last "or". -/
def choiceText : List String → String
  | [] => ""
  | [choice] => choice
  | [first, second] => s!"{first} or {second}"
  | choice :: more => s!"{choice}, {choiceText more}"

def Demand.message : Demand → String
  | .present => "Field required"
  | .dictionary model => s!"Input should be a valid dictionary or instance of {model}"
  | .text => "Input should be a valid string"
  | .utf8 => "Input should be a valid string, unable to parse raw data as a unicode string"
  | .list => "Input should be a valid list"
  | .integer => "Input should be a valid integer"
  | .integerText => "Input should be a valid integer, unable to parse string as an integer"
  | .wholeNumber => "Input should be a valid integer, got a number with a fractional part"
  | .integerSize => "Unable to parse input string as an integer, exceeded maximum size"
  | .finite => "Input should be a finite number"
  | .atLeastZero => "Input should be greater than or equal to 0"
  | .number => "Input should be a valid number"
  | .numberText => "Input should be a valid number, unable to parse string as a number"
  | .oneOf choices => s!"Input should be {choiceText choices}"
  | .noExtra => "Extra inputs are not permitted"
  | .rule why => s!"Value error, {why}"

/-- A demand that is not met, and where. -/
structure Mismatch where
  path : List String
  demand : Demand
  input : Value
  deriving Repr

namespace Mismatch

/-- The same mismatch seen from one level further out. -/
def under (step : String) (m : Mismatch) : Mismatch := { m with path := step :: m.path }

/-- The steps of the way, joined by points. -/
def location (m : Mismatch) : String := String.intercalate "." m.path

/-- Location and demand; the root has a name of its own. -/
def describe (m : Mismatch) : String :=
  let place := if m.path.isEmpty then "<root>" else m.location
  s!"{place}: {m.demand.message}"

end Mismatch

/-- A value in the form that is asked, or the first mismatch. -/
abbrev Checked (α : Type) := Except Mismatch α

/-- A mismatch of the value itself. -/
def fail {α : Type} (demand : Demand) (input : Value) : Checked α := .error ⟨[], demand, input⟩

/-- Check something one level further in. -/
def inside {α : Type} (step : String) (c : Checked α) : Checked α :=
  c.mapError (Mismatch.under step)

end LintBridge.Schema
