import LintBridge.Document.Position
import LintBridge.Schema.Scalar
/-!
Findings as the linter reports them, and their reading from untyped data. The fields are
checked in a fixed order and the first mismatch is reported.
-/
namespace LintBridge

/-- How grave a finding is. -/
inductive Severity where
  | error | warning | information | hint
  deriving DecidableEq, Repr

/-- The number of a severity. -/
def Severity.number : Severity → Nat
  | .error => 1
  | .warning => 2
  | .information => 3
  | .hint => 4

def Severity.all : List Severity := [.error, .warning, .information, .hint]

/-- The severity with a number. -/
def Severity.ofNumber? (n : Int) : Option Severity := all.find? fun s => (s.number : Int) = n

/-- A text and the stretch that it is to replace. -/
structure SuggestedFix where
  replacement : String
  range : Range
  deriving DecidableEq, Repr

/-- One finding of the linter. -/
structure Violation where
  range : Range
  severity : Severity
  code : String
  source : String
  message : String
  codeDescription : Option String
  tags : Option (List Int)
  suggestedFix : Option SuggestedFix
  deriving DecidableEq, Repr

open Schema

namespace Position

def check (v : Value) : Checked Position := do
  let es ← entries "Position" v
  let line ← required es "line" natural
  let character ← required es "character" natural
  return ⟨line, character⟩

def pairText (p : Position) : String := s!"({p.line}, {p.character})"

end Position

/-- Read a stretch, whose end must not lie before its start. -/
def Range.check (v : Value) : Checked Range := do
  let es ← entries "Range" v
  let start ← required es "start" Position.check
  let stop ← required es "end" Position.check
  if h : Interval.Ordered ⟨start, stop⟩ then
    return ⟨⟨start, stop⟩, h⟩
  else
    fail (.rule s!"range start {start.pairText} is after end {stop.pairText}") v

/-- Read a severity: any number, or text of a number, that equals one of the four. -/
def Severity.check (v : Value) : Checked Severity :=
  let other : Checked Severity := fail (.oneOf (Severity.all.map fun s => toString s.number)) v
  match integer v with
  | .ok n =>
    match Severity.ofNumber? n with
    | some s => .ok s
    | none => if -(Nat.pow 2 63 : Int) ≤ n ∧ n < (Nat.pow 2 63 : Int) then other
      else fail .integerSize v
  | .error _ => other

def SuggestedFix.check (v : Value) : Checked SuggestedFix := do
  let es ← entries "SuggestedFix" v
  let replacement ← required es "fix" text
  let range ← required es "range" Range.check
  return ⟨replacement, range⟩

/-- The first of two names that is there; it stands for both if neither is. -/
def spelling (es : Value.Entries) (first second : String) : String :=
  if (es.field? first).isSome || (es.field? second).isNone then first else second

/-- Read a finding; unknown keys are ignored. -/
def Violation.check (v : Value) : Checked Violation := do
  let es ← entries "Violation" v
  let range ← required es "range" Range.check
  let severity ← required es "severity" Severity.check
  let code ← required es "code" text
  let source ← required es "source" text
  let message ← required es "message" text
  let codeDescription ←
    defaulted es (spelling es "codeDescription" "code_description") none (nullable text)
  let tags ← defaulted es "tags" none (nullable (list integer))
  let fix ←
    defaulted es (spelling es "suggestedfix" "suggested_fix") none (nullable SuggestedFix.check)
  return ⟨range, severity, code, source, message, codeDescription, tags, fix⟩

end LintBridge
