/-!
Places and stretches in a document. Positions are ordered by line and then by character.
Two stretches meet when their closed intervals share a position; for stretches that do
not run backwards this is what comparing opposite ends decides (`intersects_iff`).
-/
namespace LintBridge

/-- A line and a character offset in it, both counted from zero. -/
structure Position where
  line : Nat
  character : Nat
  deriving DecidableEq, Repr, Inhabited

namespace Position

/-- Order by line, then by character. -/
def le (a b : Position) : Prop := a.line < b.line ∨ (a.line = b.line ∧ a.character ≤ b.character)

instance : LE Position := ⟨le⟩

theorem le_def {a b : Position} :
    a ≤ b ↔ a.line < b.line ∨ (a.line = b.line ∧ a.character ≤ b.character) := Iff.rfl

instance (a b : Position) : Decidable (a ≤ b) := by
  rw [le_def]; infer_instance

theorem le_refl (a : Position) : a ≤ a := by simp [le_def]

theorem le_trans {a b c : Position} (h : a ≤ b) (h' : b ≤ c) : a ≤ c := by
  simp only [le_def] at *; omega

theorem le_total (a b : Position) : a ≤ b ∨ b ≤ a := by
  simp only [le_def]; omega

end Position

/-- Two positions, in whatever order. -/
structure Interval where
  start : Position
  stop : Position
  deriving DecidableEq, Repr, Inhabited

namespace Interval

/-- Does an interval run forwards? -/
def Ordered (a : Interval) : Prop := a.start ≤ a.stop

instance (a : Interval) : Decidable a.Ordered := inferInstanceAs (Decidable (a.start ≤ a.stop))

/-- Does the closed interval hold a position? -/
def Covers (a : Interval) (p : Position) : Prop := a.start ≤ p ∧ p ≤ a.stop

/-- Does each interval start no later than the other one stops? -/
def intersects (a b : Interval) : Bool := a.start ≤ b.stop && b.start ≤ a.stop

/-- Intervals that run forwards intersect exactly when they share a position. -/
theorem intersects_iff {a b : Interval} (ha : a.Ordered) (hb : b.Ordered) :
    a.intersects b = true ↔ ∃ p, a.Covers p ∧ b.Covers p := by
  simp only [intersects, Bool.and_eq_true, decide_eq_true_eq]
  constructor
  · intro ⟨h, h'⟩
    rcases Position.le_total a.start b.start with hs | hs
    · exact ⟨b.start, ⟨hs, h'⟩, Position.le_refl _, hb⟩
    · exact ⟨a.start, ⟨Position.le_refl _, ha⟩, hs, h⟩
  · intro ⟨p, ⟨h₁, h₂⟩, h₃, h₄⟩
    exact ⟨Position.le_trans h₁ h₄, Position.le_trans h₃ h₂⟩

end Interval

/-- A stretch of a document that runs forwards. -/
structure Range extends Interval where
  ordered : toInterval.Ordered
  deriving DecidableEq, Repr

end LintBridge
