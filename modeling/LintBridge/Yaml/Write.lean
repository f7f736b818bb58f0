import LintBridge.Yaml.Tag
import LintBridge.Text.Quoted
/-!
Writing texts as scalars of a block mapping. A text is left plain if it then reads back as
itself, put between single quotes if it has no special characters, and otherwise between
double quotes with escapes. Lines that grow past eighty columns are folded at blanks.
-/
namespace LintBridge.Yaml

/-- The columns after which a line is folded. -/
def bestWidth : Nat := 80

/-- The indentation of folded lines. -/
def foldIndent : Nat := 2

inductive ScalarStyle where
  | plain | single | double
  deriving DecidableEq, Repr

def endsWordChar (c : Char) : Bool := isBreakMark c || c = ' ' || c = '\t' || c = '\r' || c = '\x00'
where
  isBreakMark (c : Char) : Bool := c = '\n' || c = '\x85' || c = '\u2028' || c = '\u2029'

def isBreakMark (c : Char) : Bool := endsWordChar.isBreakMark c

/-- Is a character an indicator at its place in a plain scalar? `before` is the character in
front of it and `after` the one behind it. -/
def isIndicator (before : Option Char) (c : Char) (after : Option Char) : Bool :=
  let alone := after.all endsWordChar
  match before with
  | none =>
    "#,[]\x7b\x7d&*!|>'\"%@\x60".toList.contains c || ((c = '?' || c = ':' || c = '-') && alone)
  | some b => (c = ':' && alone) || (c = '#' && endsWordChar b)

/-- Does a character at its place in a text satisfy a test? The test sees the neighbours. -/
def anyPlace (test : Option Char → Char → Option Char → Bool) : Option Char → List Char → Bool
  | _, [] => false
  | before, c :: rest => test before c rest.head? || anyPlace test (some c) rest

/-- Characters that only escapes can write. -/
def isSpecial (c : Char) : Bool := !(c = '\n' || (' ' ≤ c && c ≤ '~'))

def hasSeparator (s : List Char) : Bool := s.take 3 = ['-', '-', '-'] || s.take 3 = ['.', '.', '.']

/-- May a text stand plain in a block, but for what it would then be read as? -/
def allowsPlain (s : List Char) : Bool :=
  let edge (c : Option Char) : Bool := c.any fun c => c = ' ' || isBreakMark c
  !edge s.head? && !edge s.getLast? && !hasSeparator s && !anyPlace isIndicator none s &&
    !s.any fun c => isSpecial c || isBreakMark c

/-- May a text stand between single quotes? -/
def allowsSingle (s : List Char) : Bool :=
  let badPair (before : Option Char) (c : Char) (_ : Option Char) : Bool :=
    (before.any isBreakMark && c = ' ') || (before = some ' ' && isBreakMark c)
  !s.any isSpecial && !anyPlace badPair none s

/-- The style of a text. -/
def styleOf (text : String) : ScalarStyle :=
  let s := text.toList
  if Tag.ofPlain text = .str && allowsPlain s then .plain
  else if allowsSingle s then .single
  else .double

/-- What is written so far, the last character first, and the column behind it. -/
structure Pen where
  written : List Char
  column : Nat

namespace Pen

def write (p : Pen) (s : List Char) : Pen := ⟨s.reverse ++ p.written, p.column + s.length⟩

def newLine (p : Pen) : Pen := ⟨'\n' :: p.written, 0⟩

/-- A new line at the indentation of folded lines. -/
def fold (p : Pen) : Pen := p.newLine.write (List.replicate foldIndent ' ')

def pad (p : Pen) : Pen := p.write (List.replicate (foldIndent - p.column) ' ')

/-- Is the line over its width? -/
def isWide (p : Pen) : Bool := bestWidth < p.column

end Pen

/-- Runs of blanks, of line ends and of other characters. -/
inductive RunKind where
  | blanks | breaks | other
  deriving DecidableEq, Repr

def runKind (c : Char) : RunKind :=
  if c = ' ' then .blanks else if isBreakMark c then .breaks else .other

def runs : List Char → List (RunKind × List Char)
  | [] => []
  | c :: rest =>
    match runs rest with
    | (kind, run) :: more =>
      if kind = runKind c then (kind, c :: run) :: more else (runKind c, [c]) :: (kind, run) :: more
    | [] => [(runKind c, [c])]

def plainRun (p : Pen) (r : RunKind × List Char) : Pen :=
  if r.1 = .blanks && r.2.length = 1 && p.isWide then p.fold else p.write r.2

def writePlain (p : Pen) (s : List Char) : Pen := (runs s).foldl plainRun p

/-- The runs of a single-quoted text. A single blank inside it may become a line end, and a
line end is written twice, since one alone would be read as a blank. -/
def singleRuns (first : Bool) : Pen → List (RunKind × List Char) → Pen
  | p, [] => p
  | p, (kind, run) :: more =>
    let p := match kind with
      | .blanks =>
        if run.length = 1 && p.isWide && !first && !more.isEmpty then p.fold else p.write run
      | .breaks =>
        let p := if run.head? = some '\n' then p.newLine else p
        (run.foldl (fun p _ => p.newLine) p).pad
      | .other => p.write (run.flatMap fun c => if c = '\'' then ['\'', '\''] else [c])
    singleRuns false p more

def writeSingle (p : Pen) (s : List Char) : Pen :=
  (singleRuns true (p.write ['\'']) (runs s)).write ['\'']

/-- The letter behind a backslash that stands for a character. -/
def escapeLetter (c : Char) : Option Char :=
  match c with
  | '\x00' => some '0' | '\x07' => some 'a' | '\x08' => some 'b' | '\t' => some 't'
  | '\n' => some 'n' | '\x0b' => some 'v' | '\x0c' => some 'f' | '\r' => some 'r'
  | '\x1b' => some 'e' | '"' => some '"' | '\\' => some '\\' | '\x85' => some 'N'
  | '\xa0' => some '_' | '\u2028' => some 'L' | '\u2029' => some 'P' | _ => none

def upperHex (width n : Nat) : List Char := (Text.hexPadded width n).map Char.toUpper

def escaped (c : Char) : List Char :=
  match escapeLetter c with
  | some letter => ['\\', letter]
  | none =>
    let n := c.toNat
    if n < 0x100 then '\\' :: 'x' :: upperHex 2 n
    else if n < 0x10000 then '\\' :: 'u' :: upperHex 4 n
    else '\\' :: 'U' :: upperHex 8 n

def needsEscape (c : Char) : Bool := c = '"' || c = '\\' || !(' ' ≤ c && c ≤ '~')

/-- The characters of a double-quoted text. A line may be folded at a blank and around an
escape; a blank that then begins a line is escaped. `fresh` says that the last character
was an escape or that the text begins. -/
def doubleChars (inside : Bool) (fresh : Bool) : Pen → List Char → Pen
  | p, [] => p
  | p, c :: rest =>
    if needsEscape c then
      let p := p.write (escaped c)
      let p :=
        if inside && !rest.isEmpty && bestWidth + 1 < p.column then
          let p := (p.write ['\\']).fold
          if rest.head? = some ' ' then p.write ['\\'] else p
        else p
      doubleChars true true p rest
    else
      let p :=
        if inside && !rest.isEmpty && (c = ' ' || fresh) && p.isWide then
          let p := (p.write ['\\']).fold
          if c = ' ' then p.write ['\\'] else p
        else p
      doubleChars true false (p.write [c]) rest

def writeDouble (p : Pen) (s : List Char) : Pen :=
  (doubleChars false true (p.write ['"']) s).write ['"']

/-- A text as a scalar. -/
def writeScalar (p : Pen) (text : String) : Pen :=
  match styleOf text with
  | .plain => writePlain p text.toList
  | .single => writeSingle p text.toList
  | .double => writeDouble p text.toList

/-- An entry of a block mapping at the margin, with a plain key. -/
def entryText (key value : String) : String :=
  let p := writeScalar ((Pen.mk [] 0).write (key.toList ++ [':', ' '])) value
  String.ofList (p.newLine.written.reverse)

end LintBridge.Yaml
