import LintBridge.Lint.Diagnostic
/-!
The quick fixes of the last published cycle of each document. A write replaces the whole
entry of a document, and an empty list removes it; reading never changes anything.
-/
namespace LintBridge

/-- Quick fixes by document. -/
structure Registry where
  actions : Assoc String (List StoredAction)
  deriving DecidableEq, Repr

namespace Registry

def empty : Registry := ⟨[]⟩

/-- Replace the entry of a document; no entry is left for an empty list. -/
def publish (r : Registry) (uri : String) (stored : List StoredAction) : Registry :=
  if stored.isEmpty then ⟨r.actions.erase uri⟩ else ⟨r.actions.put uri stored⟩

/-- Remove the entry of a document. -/
def clear (r : Registry) (uri : String) : Registry := ⟨r.actions.erase uri⟩

/-- The quick fixes stored for a document. -/
def stored (r : Registry) (uri : String) : List StoredAction := (r.actions.get? uri).getD []

/-- The quick fixes of a document whose anchor meets a stretch, in the order of storing. -/
def query (r : Registry) (uri : String) (range : EditorRange) : List QuickFix :=
  ((r.stored uri).filter fun s => s.anchor.intersects range.toInterval).map StoredAction.action

/-- Has a document an entry? -/
def contains (r : Registry) (uri : String) : Bool := (r.actions.get? uri).isSome

/-- The number of documents with an entry. -/
def size (r : Registry) : Nat := r.actions.length

@[simp] theorem stored_empty (uri : String) : empty.stored uri = [] := rfl

@[simp] theorem stored_publish (r : Registry) (uri other : String) (s : List StoredAction) :
    (r.publish uri s).stored other = if uri = other then s else r.stored other := by
  by_cases h : s = []
  · subst h
    by_cases h' : uri = other <;> simp [publish, stored, h']
  · have : s.isEmpty = false := by simpa using h
    by_cases h' : uri = other <;> simp [publish, stored, this, h']

@[simp] theorem stored_clear (r : Registry) (uri other : String) :
    (r.clear uri).stored other = if uri = other then [] else r.stored other := by
  by_cases h : uri = other <;> simp [clear, stored, h]

end Registry
end LintBridge
