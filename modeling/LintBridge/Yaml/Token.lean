/-!
The pieces from which a YAML document is built, and the cursor that moves through its
text. Block structure, which the text shows by indentation, is explicit in the tokens.
-/
namespace LintBridge.Yaml

/-- A tag as it is written: a handle and a suffix, or a suffix alone. -/
structure TagText where
  handle : Option String
  suffix : String
  deriving DecidableEq, Repr

/-- A line that begins with a percent sign. -/
inductive Directive where
  | version (major : Nat)
  | tag (handle lead : String)
  | other
  deriving DecidableEq, Repr

inductive Token where
  | directive (d : Directive)
  | documentStart | documentEnd
  | blockSequenceStart | blockMappingStart | blockEnd
  | flowSequenceStart | flowSequenceEnd | flowMappingStart | flowMappingEnd
  | blockEntry | flowEntry | key | value
  | alias_ (name : String)
  | anchor (name : String)
  | tag (t : TagText)
  | scalar (text : String) (plain : Bool)
  deriving DecidableEq, Repr

/-- Why a text has no tokens: it breaks a rule of the format, or it names a code point
that does not exist. -/
inductive Refusal where
  | malformed
  | codePoint
  deriving DecidableEq, Repr

def isBreak (c : Char) : Bool :=
  c = '\n' || c = '\r' || c = '\x85' || c = '\u2028' || c = '\u2029'

/-- The end of the text or a line break. -/
def endsLine (c : Option Char) : Bool := c.all isBreak

/-- The end of the text, a line break or a blank. -/
def endsWord (c : Option Char) : Bool := c.all fun c => isBreak c || c = ' '

/-- The end of the text, a line break, a blank or a tab. -/
def endsToken (c : Option Char) : Bool := c.all fun c => isBreak c || c = ' ' || c = '\t'

/-- A place in a text: what follows, the number of characters before it, its line and its
column. -/
structure Cursor where
  rest : List Char
  index : Nat
  line : Nat
  column : Nat
  deriving DecidableEq, Repr

namespace Cursor

def ofText (s : List Char) : Cursor := ⟨s, 0, 0, 0⟩

def peek (c : Cursor) : Option Char := c.rest.head?

/-- The character so many places ahead. -/
def ahead (c : Cursor) (n : Nat) : Option Char := c.rest[n]?

/-- One character further. A carriage return before a line feed does not end the line, and
a byte-order mark has no width. -/
def next (c : Cursor) : Cursor :=
  match c.rest with
  | [] => c
  | ch :: rest =>
    if ch ≠ '\r' && isBreak ch || ch = '\r' && rest.head? ≠ some '\n' then
      ⟨rest, c.index + 1, c.line + 1, 0⟩
    else ⟨rest, c.index + 1, c.line, if ch = '\uFEFF' then c.column else c.column + 1⟩

/-- So many characters further. -/
def skip (c : Cursor) : Nat → Cursor
  | 0 => c
  | n + 1 => c.next.skip n

/-- The longest stretch of characters of a class, and the place behind it. -/
def span (c : Cursor) (p : Char → Bool) : List Char × Cursor :=
  let taken := c.rest.takeWhile p
  (taken, c.skip taken.length)

def skipWhile (c : Cursor) (p : Char → Bool) : Cursor := (c.span p).2

def skipBlanks (c : Cursor) : Cursor := c.skipWhile (· = ' ')

/-- A line break at this place, in its normal form, and the place behind it. -/
def lineBreak? (c : Cursor) : Option (Char × Cursor) :=
  match c.rest with
  | '\r' :: '\n' :: _ => some ('\n', c.skip 2)
  | ch :: _ =>
    if ch = '\n' || ch = '\r' || ch = '\x85' then some ('\n', c.next)
    else if isBreak ch then some (ch, c.next)
    else none
  | [] => none

/-- Behind a line break, if there is one at this place. -/
def skipBreak (c : Cursor) : Cursor := (c.lineBreak?.map Prod.snd).getD c

/-- Blanks and a comment up to the end of the line; anything else there is refused. -/
def restOfLine? (c : Cursor) : Option Cursor :=
  let c := c.skipBlanks
  let c := if c.peek = some '#' then c.skipWhile (!isBreak ·) else c
  if endsLine c.peek then some c.skipBreak else none

/-- Do three equal marks stand alone here? -/
def atMark (c : Cursor) (mark : Char) : Bool :=
  (c.rest.take 3 = [mark, mark, mark]) && endsToken (c.ahead 3)

/-- Is there a mark between documents at this place? -/
def atSeparator (c : Cursor) : Bool := c.atMark '-' || c.atMark '.'

end Cursor
end LintBridge.Yaml
