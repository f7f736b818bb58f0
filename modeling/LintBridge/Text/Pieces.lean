/-!
Cutting texts at a separator and replacing one text by another. Both work on lists of
characters; `joinWith` undoes `split`.
-/
namespace LintBridge.Text

/-- The pieces of a text between the occurrences of a separator; there is always one. -/
def split (sep : Char) : List Char → List (List Char)
  | [] => [[]]
  | c :: rest =>
    if c = sep then [] :: split sep rest
    else match split sep rest with
      | piece :: more => (c :: piece) :: more
      | [] => [[c]]

/-- Pieces with a separator between them. -/
def joinWith (sep : List Char) : List (List Char) → List Char
  | [] => []
  | [piece] => piece
  | piece :: more => piece ++ sep ++ joinWith sep more

theorem joinWith_cons_cons (sep piece next : List Char) (more : List (List Char)) :
    joinWith sep (piece :: next :: more) = piece ++ sep ++ joinWith sep (next :: more) := rfl

theorem split_ne_nil (sep : Char) (s : List Char) : split sep s ≠ [] := by
  induction s with
  | nil => simp [split]
  | cons c rest ih =>
    unfold split
    split
    · simp
    · split <;> simp_all

@[simp] theorem joinWith_split (sep : Char) (s : List Char) :
    joinWith [sep] (split sep s) = s := by
  induction s with
  | nil => rfl
  | cons c rest ih =>
    have hne := split_ne_nil sep rest
    cases hs : split sep rest with
    | nil => exact absurd hs hne
    | cons piece more =>
      rw [hs] at ih
      by_cases h : c = sep
      · cases more <;> simp_all [split, joinWith]
      · cases more <;> simp_all [split, joinWith]

/-- What follows `lead` in a text that begins with it. -/
def dropLead? : (lead text : List Char) → Option (List Char)
  | [], text => some text
  | _ :: _, [] => none
  | a :: lead, b :: text => if a = b then dropLead? lead text else none

theorem dropLead?_eq_some_iff {lead text rest : List Char} :
    dropLead? lead text = some rest ↔ text = lead ++ rest := by
  induction lead generalizing text with
  | nil => simp [dropLead?, eq_comm]
  | cons a lead ih => cases text <;> grind [dropLead?]

/-- Replace the occurrences of `old`, found from left to right. -/
def replaceFuel (old new : List Char) : Nat → List Char → List Char
  | 0, text => text
  | _ + 1, [] => []
  | fuel + 1, c :: text =>
    match dropLead? old (c :: text) with
    | some rest => new ++ replaceFuel old new fuel rest
    | none => c :: replaceFuel old new fuel text

/-- Replace every occurrence of a non-empty text, from left to right and without overlap. -/
def replaceAll (old new text : List Char) : List Char :=
  if old.isEmpty then text else replaceFuel old new text.length text

end LintBridge.Text
