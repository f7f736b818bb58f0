/-!
How alike two texts are, by the longest common block and, on both sides of it, the same
again. The measure is twice the number of matched characters over the sum of the
lengths; it is kept as a pair of numbers, so that comparisons are exact.
-/
namespace LintBridge.Text

/-- The length of the longest common beginning. -/
def commonLead : List Char → List Char → Nat
  | a :: s, b :: t => if a = b then commonLead s t + 1 else 0
  | _, _ => 0

/-- A block that occurs in both texts: where it begins in each, and its length. -/
structure Block where
  left : Nat
  right : Nat
  size : Nat
  deriving DecidableEq, Repr

/-- The longest common block; of several, the one that begins first in the left text and,
among those, first in the right one. -/
def longestBlock (s t : List Char) : Block :=
  let starts := (List.range s.length).flatMap fun i => (List.range t.length).map fun j => (i, j)
  starts.foldl (fun best (i, j) =>
    let size := commonLead (s.drop i) (t.drop j)
    if best.size < size then ⟨i, j, size⟩ else best) ⟨0, 0, 0⟩

/-- The characters in the longest block and, recursively, on both sides of it. -/
def matchedFuel : Nat → List Char → List Char → Nat
  | 0, _, _ => 0
  | fuel + 1, s, t =>
    let block := longestBlock s t
    if block.size = 0 then 0
    else
      block.size + matchedFuel fuel (s.take block.left) (t.take block.right) +
        matchedFuel fuel (s.drop (block.left + block.size)) (t.drop (block.right + block.size))

def matched (s t : List Char) : Nat := matchedFuel (s.length + 1) s t

/-- Likeness as a fraction: numerator and denominator. -/
structure Likeness where
  part : Nat
  whole : Nat

def Likeness.of (s t : List Char) : Likeness :=
  if s.length + t.length = 0 then ⟨1, 1⟩ else ⟨2 * matched s t, s.length + t.length⟩

def Likeness.lt (a b : Likeness) : Bool := a.part * b.whole < b.part * a.whole

/-- At least three fifths alike. -/
def Likeness.isClose (a : Likeness) : Bool := 3 * a.whole ≤ 5 * a.part

/-- Candidates in descending likeness; equally good ones in descending order of text. -/
def insertRanked (entry : Likeness × String) : List (Likeness × String) → List (Likeness × String)
  | [] => [entry]
  | other :: rest =>
    if other.1.lt entry.1 || (!entry.1.lt other.1 && other.2 < entry.2) then entry :: other :: rest
    else other :: insertRanked entry rest

/-- At most `limit` of the candidates that are close to a word, the closest first. -/
def closeMatches (word : String) (candidates : List String) (limit : Nat) : List String :=
  let scored := candidates.filterMap fun candidate =>
    let likeness := Likeness.of candidate.toList word.toList
    if likeness.isClose then some (likeness, candidate) else none
  ((scored.foldl (fun ranked entry => insertRanked entry ranked) []).take limit).map Prod.snd

end LintBridge.Text
