import LintBridge.Text.Pieces
/-!
Paths as texts, without looking at any file. A path is taken apart at its slashes; empty
and `.` components carry no meaning, and exactly two leading slashes name a root of their
own.
-/
namespace LintBridge.Path

/-- The components between slashes that carry a meaning. -/
def components (path : List Char) : List (List Char) :=
  (Text.split '/' path).filter fun c => !c.isEmpty && c ≠ ['.']

/-- The leading slashes that are kept: two if there are exactly two, else at most one. -/
def rootSlashes : List Char → Nat
  | '/' :: '/' :: '/' :: _ => 1
  | '/' :: '/' :: _ => 2
  | '/' :: _ => 1
  | _ => 0

def isAbsolute (path : List Char) : Bool := path.head? = some '/'

/-- One component on the stack of those before it, innermost first. Two points take one
component back; above a root there is nothing to take back, and above a relative
beginning they stay. -/
def climb (rooted : Bool) (stack : List (List Char)) (c : List Char) : List (List Char) :=
  if c ≠ ['.', '.'] then c :: stack
  else match stack with
    | [] => if rooted then [] else [c]
    | top :: below => if top = ['.', '.'] then c :: stack else below

/-- A path from its leading slashes and its components; an empty one is a point. -/
def assemble (slashes : Nat) (parts : List (List Char)) : List Char :=
  let body := List.replicate slashes '/' ++ Text.joinWith ['/'] parts
  if body.isEmpty then ['.'] else body

/-- A path is never written as the empty text. -/
theorem assemble_ne_nil (slashes : Nat) (parts : List (List Char)) :
    assemble slashes parts ≠ [] := by
  unfold assemble
  dsimp only
  split
  next => exact List.cons_ne_nil _ _
  next filled => simpa only [List.isEmpty_iff] using filled

/-- Evaluate every point and pair of points. -/
def normalize (path : List Char) : List Char :=
  let slashes := rootSlashes path
  assemble slashes ((components path).foldl (climb (slashes ≠ 0)) []).reverse

/-- A path seen from a base; an absolute path stands for itself. -/
def join (base path : List Char) : List Char :=
  if isAbsolute path then path
  else if base.isEmpty || base.getLast? = some '/' then base ++ path
  else base ++ '/' :: path

end Path

/-- A path in the form in which paths are compared: its leading slashes, none to two, and
its components. Pairs of points are kept. -/
structure FilePath where
  slashes : Nat
  parts : List (List Char)
  deriving DecidableEq, Repr

namespace FilePath

open LintBridge.Path

def ofText (s : String) : FilePath := ⟨rootSlashes s.toList, components s.toList⟩

def text (p : FilePath) : String := String.ofList (assemble p.slashes p.parts)

theorem text_ne_empty (p : FilePath) : p.text ≠ "" := by
  intro h
  refine assemble_ne_nil p.slashes p.parts ?_
  simpa [text] using congrArg String.toList h

def isAbsolute (p : FilePath) : Bool := p.slashes ≠ 0

/-- A path seen from another one. -/
def join (base p : FilePath) : FilePath :=
  if p.isAbsolute then p else ⟨base.slashes, base.parts ++ p.parts⟩

/-- One more component. -/
def child (p : FilePath) (name : String) : FilePath := p.join (ofText name)

/-- The path without its last component; a root is its own parent. -/
def parent (p : FilePath) : FilePath := ⟨p.slashes, p.parts.dropLast⟩

/-- The part of the last component from its last point on; a point at either end of the
component does not count. -/
def suffix (p : FilePath) : String :=
  let n := p.parts.getLast?.getD []
  let tail := (n.reverse.takeWhile (· ≠ '.')).reverse
  let stem := n.take (n.length - tail.length - 1)
  if tail.isEmpty || stem.isEmpty || tail.length = n.length then ""
  else if stem.all (· = '.') then ""
  else String.ofList ('.' :: tail)

/-- Do a root's components begin a path? -/
def isUnder (p root : FilePath) : Bool := p.slashes = root.slashes && root.parts.isPrefixOf p.parts

/-- The path seen from a working directory. -/
def absolute (p cwd : FilePath) : FilePath := cwd.join p

/-- An absolute path with every pair of points evaluated, from a single root. -/
def resolved (p cwd : FilePath) : FilePath :=
  let whole := cwd.join p
  ⟨1, (whole.parts.foldl (climb true) []).reverse⟩

end FilePath
end LintBridge
