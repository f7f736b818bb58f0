import LintBridge.Document.Position
/-!
Stretches as the editor protocol carries them. A coordinate is at most 2^31 - 1; the two
ends may be in either order.
-/
namespace LintBridge

/-- The largest line or character that the editor protocol carries. -/
def maxCoordinate : Nat := 2147483647

/-- A coordinate that the editor protocol cannot carry. -/
inductive CoordinateFault where
  | line (value : Int)
  | character (value : Int)
  deriving DecidableEq, Repr

def CoordinateFault.message : CoordinateFault → String
  | .line n => s!"Position.line should be in range [0:{maxCoordinate}], but was {n}."
  | .character n => s!"Position.character should be in range [0:{maxCoordinate}], but was {n}."

/-- Are both coordinates in the range of the protocol? -/
def Position.Fits (p : Position) : Prop := p.line ≤ maxCoordinate ∧ p.character ≤ maxCoordinate

instance (p : Position) : Decidable p.Fits := by unfold Position.Fits; infer_instance

/-- A stretch whose coordinates the editor protocol carries. -/
structure EditorRange extends Interval where
  start_fits : toInterval.start.Fits
  stop_fits : toInterval.stop.Fits
  deriving DecidableEq, Repr

namespace EditorRange

/-- A position from two integers; the line is looked at first. -/
def position (line character : Int) :
    Except CoordinateFault { p : Position // p.Fits } :=
  if hl : 0 ≤ line ∧ line ≤ maxCoordinate then
    if hc : 0 ≤ character ∧ character ≤ maxCoordinate then
      .ok ⟨⟨line.toNat, character.toNat⟩, by simp only [Position.Fits]; omega⟩
    else .error (.character character)
  else .error (.line line)

/-- A stretch from four integers; the start is looked at first. -/
def ofCoordinates (startLine startCharacter stopLine stopCharacter : Int) :
    Except CoordinateFault EditorRange :=
  match position startLine startCharacter with
  | .error fault => .error fault
  | .ok start =>
    match position stopLine stopCharacter with
    | .error fault => .error fault
    | .ok stop => .ok ⟨⟨start, stop⟩, start.property, stop.property⟩

/-- The protocol's form of an interval. -/
def ofInterval (a : Interval) : Except CoordinateFault EditorRange :=
  ofCoordinates a.start.line a.start.character a.stop.line a.stop.character

theorem position_natCast {p : Position} (h : p.Fits) :
    position p.line p.character = .ok ⟨p, h⟩ := by
  obtain ⟨hl, hc⟩ := h
  have hl' : (0 : Int) ≤ p.line ∧ (p.line : Int) ≤ maxCoordinate := by omega
  have hc' : (0 : Int) ≤ p.character ∧ (p.character : Int) ≤ maxCoordinate := by omega
  simp [position, hl', hc']

/-- An interval whose coordinates fit is carried as it is. -/
theorem ofInterval_of_fits {a : Interval} (h : a.start.Fits) (h' : a.stop.Fits) :
    ofInterval a = .ok ⟨a, h, h'⟩ := by
  simp [ofInterval, ofCoordinates, position_natCast h, position_natCast h']

end EditorRange
end LintBridge
