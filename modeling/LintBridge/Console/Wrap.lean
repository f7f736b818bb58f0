import LintBridge.Text.Blank
import LintBridge.Text.CellWidth
import LintBridge.Text.Pieces
/-!
Breaking shown text into lines of so many cells. Lines break between words; blanks stay
with the word before them and may hang over the end of a line. A word that is longer than
a line is folded over several lines, or it stands alone and is cut.
-/
namespace LintBridge.Console

open Text (isBlank cells charCells)

/-- What becomes of a word that is longer than a line. -/
inductive Overflow where
  | fold | ellipsis
  deriving DecidableEq, Repr

/-- Where the text stands in a line. -/
inductive Justify where
  | none | left | center
  deriving DecidableEq, Repr

/-- A column of text and the way in which it is filled. -/
structure Measure where
  width : Nat
  justify : Justify
  overflow : Overflow
  deriving DecidableEq, Repr

/-- The words of a line, each with the blanks after it; the first has those before it too.
A line of blanks has no words. -/
def wordsFuel : Nat → List Char → List (List Char)
  | 0, _ => []
  | fuel + 1, s =>
    let lead := s.takeWhile isBlank
    let rest := s.dropWhile isBlank
    if rest.isEmpty then []
    else
      let body := rest.takeWhile (!isBlank ·)
      let after := rest.dropWhile (!isBlank ·)
      (lead ++ body ++ after.takeWhile isBlank) :: wordsFuel fuel (after.dropWhile isBlank)

def lineWords (s : List Char) : List (List Char) := wordsFuel (s.length + 1) s

/-- Pieces of a word that fill at most so many cells each. -/
def chop (width : Nat) : List Char → List Char → List (List Char)
  | [], piece => [piece.reverse]
  | c :: rest, piece =>
    if width < cells piece + charCells c then piece.reverse :: chop width rest [c]
    else chop width rest (c :: piece)

/-- Lines that were broken off, the last one first, the line that is being filled, and the
cells that it fills as far as breaking goes. -/
structure Filling where
  done : List (List Char)
  line : List Char
  filled : Nat
  isFirst : Bool

namespace Filling

/-- Go on with a text on the same line. -/
def extend (f : Filling) (s : List Char) (filled : Nat) : Filling :=
  { f with line := f.line ++ s, filled, isFirst := false }

/-- Go on with a text on a new line; the first text needs none. -/
def break_ (f : Filling) (s : List Char) (filled : Nat) : Filling :=
  if f.isFirst then f.extend s filled else ⟨f.line :: f.done, s, filled, false⟩

/-- One more word. -/
def add (width : Nat) (overflow : Overflow) (f : Filling) (word : List Char) : Filling :=
  let size := cells (Text.trimRight isBlank word)
  if f.filled + size ≤ width then f.extend word (f.filled + cells word)
  else if width < size then
    match overflow with
    | .fold => (chop width word []).foldl (fun f piece => f.break_ piece (cells piece)) f
    | .ellipsis => f.break_ word (cells word)
  else if f.filled ≠ 0 && !f.isFirst then f.break_ word (cells word)
  else f.extend word f.filled

end Filling

/-- Break a line without line feeds. -/
def breakLine (width : Nat) (overflow : Overflow) (s : List Char) : List (List Char) :=
  match lineWords s with
  | [] => [s]
  | words =>
    let f := words.foldl (Filling.add width overflow) ⟨[], [], 0, true⟩
    (f.line :: f.done).reverse

/-- Blanks for every tab, up to the next multiple of eight cells. -/
def expandTabs : Nat → List Char → List Char
  | _, [] => []
  | position, c :: rest =>
    if c = '\t' then
      let size := 8 - position % 8
      List.replicate size ' ' ++ expandTabs (position + size) rest
    else c :: expandTabs (position + charCells c) rest

/-- The longest beginning that fills at most so many cells. -/
def takeCells : Nat → List Char → List Char
  | _, [] => []
  | width, c :: rest =>
    if charCells c ≤ width then c :: takeCells (width - charCells c) rest else []

def padRight (width : Nat) (s : List Char) : List Char :=
  s ++ List.replicate (width - cells s) ' '

/-- Cut or pad a text to so many cells exactly. -/
def fitCells (width : Nat) (s : List Char) : List Char := padRight width (takeCells width s)

/-- Cut a text that is too long, with a mark in its last cell if it asks for one. -/
def truncate (width : Nat) (overflow : Overflow) (s : List Char) : List Char :=
  if cells s ≤ width then s
  else match overflow with
    | .fold => fitCells width s
    | .ellipsis => fitCells (width - 1) s ++ ['…']

/-- Drop hanging blanks, but no more than stand beyond the end of the line. -/
def dropHanging (width : Nat) (s : List Char) : List Char :=
  let hanging := s.length - (Text.trimRight isBlank s).length
  s.take (s.length - min hanging (s.length - width))

/-- Put a text at its place in a line. -/
def justified (m : Measure) (s : List Char) : List Char :=
  match m.justify with
  | .none => truncate m.width m.overflow s
  | .left => padRight m.width (truncate m.width m.overflow s)
  | .center =>
    let s := truncate m.width m.overflow (Text.trimRight isBlank s)
    padRight m.width (List.replicate ((m.width - cells s) / 2) ' ' ++ s)

/-- The lines of a text in a column. -/
def wrapped (m : Measure) (s : List Char) : List (List Char) :=
  (Text.split '\n' s).flatMap fun line =>
    (breakLine m.width m.overflow (expandTabs 0 line)).map fun part =>
      justified m (dropHanging m.width part)

end LintBridge.Console
