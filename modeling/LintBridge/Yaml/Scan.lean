import LintBridge.Yaml.Token
import LintBridge.Text.Utf8
import LintBridge.Path.Uri
/-!
The readings of single YAML pieces: names, tags, directives, quoted scalars, plain
scalars and block scalars. Each takes a cursor and gives what it read with the cursor
behind it.
-/
namespace LintBridge.Yaml

def isNameChar (c : Char) : Bool := c.isAlphanum || c = '-' || c = '_'

def isUriChar (c : Char) : Bool := c.isAlphanum || "-;/?:@&=+$,_.!~*'()[]%".toList.contains c

/-- Demand a condition. -/
def demand (ok : Bool) : Except Refusal Unit := if ok then .ok () else .error .malformed

/-- The name of an anchor or alias, from behind its mark. -/
def anchorName (c : Cursor) : Except Refusal (String × Cursor) := do
  let (name, c) := c.span isNameChar
  demand (!name.isEmpty)
  demand (endsToken c.peek || c.peek.any fun ch => "?:,]\x7d%@\x60".toList.contains ch)
  return (String.ofList name, c)

/-- A tag handle: an exclamation mark, and a name with another one behind it if it is not
followed by a blank. -/
def tagHandle (c : Cursor) : Except Refusal (String × Cursor) := do
  demand (c.peek = some '!')
  let after := c.next
  if after.peek = some ' ' then return ("!", after)
  let (name, after) := after.span isNameChar
  if after.peek = some '!' then return (String.ofList ('!' :: name ++ ['!']), after.next)
  else
    demand false
    return ("", after)

/-- The octets of a run of escapes. -/
def uriEscapes : Nat → Cursor → List UInt8 → Except Refusal ((List UInt8) × Cursor)
  | 0, c, acc => .ok (acc.reverse, c)
  | fuel + 1, c, acc =>
    match c.rest with
    | '%' :: a :: b :: _ =>
      match Text.hexValue? a, Text.hexValue? b with
      | some high, some low => uriEscapes fuel (c.skip 3) (UInt8.ofNat (high * 16 + low) :: acc)
      | _, _ => .error .malformed
    | '%' :: _ => .error .malformed
    | _ => .ok (acc.reverse, c)

def tagUriTail : Nat → Cursor → List Char → Except Refusal ((List Char) × Cursor)
  | 0, c, acc => .ok (acc, c)
  | fuel + 1, c, acc =>
    match c.peek with
    | some '%' => do
      let (octets, c) ← uriEscapes (c.rest.length + 1) c []
      match Text.Utf8.decode octets with
      | .ok s => tagUriTail fuel c (acc ++ s.toList)
      | .error _ => .error .malformed
    | some ch => if isUriChar ch then tagUriTail fuel c.next (acc ++ [ch]) else .ok (acc, c)
    | none => .ok (acc, c)

/-- The characters of a tag, with escapes undone; at least one. -/
def tagUri (c : Cursor) : Except Refusal (String × Cursor) := do
  demand (c.peek.any isUriChar)
  let (s, c) ← tagUriTail (c.rest.length + 1) c []
  return (String.ofList s, c)

/-- Does a word that begins here hold an exclamation mark? -/
def hasHandle (s : List Char) : Bool :=
  (s.takeWhile fun c => !(isBreak c || c = ' ')).contains '!'

/-- A tag, from its exclamation mark on. -/
def tagText (c : Cursor) : Except Refusal (TagText × Cursor) := do
  let (t, c) ← match c.ahead 1 with
    | some '<' => do
      let (suffix, c) ← tagUri (c.skip 2)
      demand (c.peek = some '>')
      pure (TagText.mk none suffix, c.next)
    | second =>
      if endsToken second then pure (TagText.mk none "!", c.next)
      else if hasHandle c.next.rest then do
        let (handle, c) ← tagHandle c
        let (suffix, c) ← tagUri c
        pure (TagText.mk (some handle) suffix, c)
      else do
        let (suffix, c) ← tagUri c.next
        pure (TagText.mk (some "!") suffix, c)
  demand (endsWord c.peek)
  return (t, c)

def directiveNumber (c : Cursor) : Except Refusal (Nat × Cursor) := do
  let (digits, c) := c.span Char.isDigit
  demand (!digits.isEmpty)
  return (digits.foldl (fun n d => 10 * n + (d.toNat - 48)) 0, c)

/-- A directive, from its percent sign on. -/
def directive (c : Cursor) : Except Refusal (Directive × Cursor) := do
  let (name, c) := c.next.span isNameChar
  demand (!name.isEmpty && endsWord c.peek)
  let (d, c) ←
    if name = "YAML".toList then do
      let (major, c) ← directiveNumber c.skipBlanks
      demand (c.peek = some '.')
      let (_, c) ← directiveNumber c.next
      demand (endsWord c.peek)
      pure (Directive.version major, c)
    else if name = "TAG".toList then do
      let (handle, c) ← tagHandle c.skipBlanks
      demand (c.peek = some ' ')
      let (lead, c) ← tagUri c.skipBlanks
      demand (endsWord c.peek)
      pure (Directive.tag handle lead, c)
    else pure (Directive.other, c.skipWhile (!isBreak ·))
  match c.restOfLine? with
  | some c => return (d, c)
  | none => throw .malformed

/-- The breaks between the lines of a quoted scalar; a mark between documents is refused. -/
def quotedBreaks : Nat → Cursor → List Char → Except Refusal ((List Char) × Cursor)
  | 0, c, acc => .ok (acc, c)
  | fuel + 1, c, acc =>
    if c.atSeparator then .error .malformed
    else
      let c := c.skipWhile fun ch => ch = ' ' || ch = '\t'
      match c.lineBreak? with
      | some (b, c) => quotedBreaks fuel c (acc ++ [b])
      | none => .ok (acc, c)

/-- A line end inside a scalar as text: one break is a blank, more are themselves less the
first. -/
def folded (first : Char) (more : List Char) : List Char :=
  if first ≠ '\n' then first :: more
  else if more.isEmpty then [' ']
  else more

/-- The blanks, or the line end, inside a quoted scalar. -/
def quotedSpaces (c : Cursor) : Except Refusal ((List Char) × Cursor) :=
  let (blanks, c) := c.span fun ch => ch = ' ' || ch = '\t'
  match c.lineBreak? with
  | some (b, after) => do
    let (more, c) ← quotedBreaks (c.rest.length + 1) after []
    return (folded b more, c)
  | none => if c.rest.isEmpty then .error .malformed else .ok (blanks, c)

/-- The characters that single letters stand for behind a backslash. -/
def escapeLetter? : Char → Option Char
  | '0' => some '\x00' | 'a' => some '\x07' | 'b' => some '\x08' | 't' => some '\t'
  | '\t' => some '\t' | 'n' => some '\n' | 'v' => some '\x0b' | 'f' => some '\x0c'
  | 'r' => some '\r' | 'e' => some '\x1b' | ' ' => some ' ' | '"' => some '"'
  | '\\' => some '\\' | '/' => some '/' | 'N' => some '\x85' | '_' => some '\xa0'
  | 'L' => some '\u2028' | 'P' => some '\u2029' | _ => none

/-- The number of hexadecimal digits behind an escape letter. -/
def escapeWidth? : Char → Option Nat
  | 'x' => some 2 | 'u' => some 4 | 'U' => some 8 | _ => none

def hexNumber? (digits : List Char) : Option Nat :=
  digits.foldl (fun n d => do some ((← n) * 16 + (← Text.hexValue? d))) (some 0)

/-- An escape, from behind its backslash. -/
def quotedEscape (c : Cursor) : Except Refusal ((List Char) × Cursor) :=
  match c.peek with
  | none => .error .malformed
  | some ch =>
    match escapeLetter? ch, escapeWidth? ch with
    | some out, _ => .ok ([out], c.next)
    | none, some width =>
      let digits := c.next.rest.take width
      if digits.length < width then .error .malformed
      else match hexNumber? digits with
        | none => .error .malformed
        | some n =>
          if 0x110000 ≤ n then .error .codePoint
          else .ok ([if 0xD800 ≤ n && n ≤ 0xDFFF then Char.ofNat 0xFFFD else Char.ofNat n],
            c.skip (width + 1))
    | none, none =>
      match c.lineBreak? with
      | some (_, after) => quotedBreaks (c.rest.length + 1) after []
      | none => .error .malformed

/-- A quoted scalar, from behind its opening quote. -/
def quotedTail (quote : Char) : Nat → Cursor → List Char → Except Refusal (String × Cursor)
  | 0, _, _ => .error .malformed
  | fuel + 1, c, acc =>
    match c.rest with
    | [] => .error .malformed
    | ch :: rest =>
      if ch = quote then
        if quote = '\'' && rest.head? = some '\'' then
          quotedTail quote fuel (c.skip 2) ('\'' :: acc)
        else .ok (String.ofList acc.reverse, c.next)
      else if ch = '\\' && quote = '"' then do
        let (s, c) ← quotedEscape c.next
        quotedTail quote fuel c (s.reverse ++ acc)
      else if isBreak ch || ch = ' ' || ch = '\t' then do
        let (s, c) ← quotedSpaces c
        quotedTail quote fuel c (s.reverse ++ acc)
      else quotedTail quote fuel c.next (ch :: acc)

def quotedScalar (quote : Char) (c : Cursor) : Except Refusal (String × Cursor) :=
  quotedTail quote (c.rest.length + 1) c.next []

/-- Does a plain scalar end at this place? -/
def endsPlain (inFlow : Bool) (s : List Char) : Bool :=
  match s with
  | [] => true
  | ch :: rest =>
    endsToken (some ch) ||
      (ch = ':' && (endsToken rest.head? ||
        (inFlow && rest.head?.any fun n => ",[]\x7b\x7d".toList.contains n))) ||
      (inFlow && ",?[]\x7b\x7d".toList.contains ch)

/-- The length of one stretch of a plain scalar. -/
def plainStretch (inFlow : Bool) : List Char → Nat
  | [] => 0
  | ch :: rest => if endsPlain inFlow (ch :: rest) then 0 else plainStretch inFlow rest + 1

/-- The breaks after the first one between the lines of a plain scalar; `none` before a
mark between documents. -/
def plainBreaks : Nat → Cursor → List Char → Option (List Char × Cursor)
  | 0, c, acc => some (acc, c)
  | fuel + 1, c, acc =>
    if c.peek = some ' ' then plainBreaks fuel c.next acc
    else match c.lineBreak? with
      | some (b, c) => if c.atSeparator then none else plainBreaks fuel c (acc ++ [b])
      | none => some (acc, c)

/-- What separates two stretches of a plain scalar: its text, empty where the scalar ends;
the place behind it; and whether a line ended. -/
def plainSpaces (c : Cursor) : List Char × Cursor × Bool :=
  let (blanks, c) := c.span (· = ' ')
  match c.lineBreak? with
  | none => (blanks, c, false)
  | some (b, after) =>
    if after.atSeparator then ([], after, true)
    else match plainBreaks (c.rest.length + 1) after [] with
      | none => ([], after, true)
      | some (more, c) => (folded b more, c, true)

/-- What a plain scalar holds, the place behind it, and whether a line ended after its last
stretch. -/
structure Plain where
  text : List Char
  cursor : Cursor
  lineEnded : Bool

def plainTail (inFlow : Bool) (indent : Int) : Nat → Cursor → List Char → List Char → Bool → Plain
  | 0, c, acc, _, ended => ⟨acc, c, ended⟩
  | fuel + 1, c, acc, spaces, ended =>
    let size := if c.peek = some '#' then 0 else plainStretch inFlow c.rest
    if size = 0 then ⟨acc, c, ended⟩
    else
      let acc := acc ++ spaces ++ c.rest.take size
      let (spaces, after, ended) := plainSpaces (c.skip size)
      if spaces.isEmpty || after.peek = some '#' || (!inFlow && (after.column : Int) < indent) then
        ⟨acc, after, ended⟩
      else plainTail inFlow indent fuel after acc spaces ended

/-- A plain scalar; outside flow collections its lines are indented at least so far. -/
def plainScalar (inFlow : Bool) (indent : Int) (c : Cursor) : Plain :=
  plainTail inFlow indent (c.rest.length + 1) c [] [] false

/-- What becomes of the line ends behind a block scalar. -/
inductive Chomping where
  | clip | strip | keep
  deriving DecidableEq, Repr

/-- The marks behind the sign of a block scalar. -/
def blockHeader (c : Cursor) : Except Refusal ((Chomping × Option Nat) × Cursor) := do
  let chomping? (c : Cursor) : Option Chomping := match c.peek with
    | some '+' => some .keep
    | some '-' => some .strip
    | _ => none
  let digit? (c : Cursor) : Option Nat :=
    c.peek.bind fun ch => if ch.isDigit then some (ch.toNat - 48) else none
  let (chomping, increment, c) := match chomping? c with
    | some chomping =>
      match digit? c.next with
      | some n => (chomping, some n, c.skip 2)
      | none => (chomping, none, c.next)
    | none =>
      match digit? c with
      | some n =>
        match chomping? c.next with
        | some chomping => (chomping, some n, c.skip 2)
        | none => (.clip, some n, c.next)
      | none => (.clip, none, c)
  demand (increment ≠ some 0)
  demand (endsWord c.peek)
  match c.restOfLine? with
  | some c => return ((chomping, increment), c)
  | none => throw .malformed

/-- The breaks before the first line of a block scalar, and the deepest indentation of the
blank lines among them. -/
def blockIndentation : Nat → Cursor → List Char → Nat → List Char × Nat × Cursor
  | 0, c, acc, deepest => (acc, deepest, c)
  | fuel + 1, c, acc, deepest =>
    if c.peek = some ' ' then blockIndentation fuel c.next acc (max deepest c.next.column)
    else match c.lineBreak? with
      | some (b, c) => blockIndentation fuel c (acc ++ [b]) deepest
      | none => (acc, deepest, c)

/-- Blanks up to a column. -/
def blanksTo (indent : Nat) : Nat → Cursor → Cursor
  | 0, c => c
  | fuel + 1, c =>
    if c.column < indent && c.peek = some ' ' then blanksTo indent fuel c.next else c

/-- Empty lines inside a block scalar, and the place of the next line's text. -/
def blockBreaks (indent : Nat) : Nat → Cursor → List Char → List Char × Cursor
  | 0, c, acc => (acc, c)
  | fuel + 1, c, acc =>
    let c := blanksTo indent indent c
    match c.lineBreak? with
    | some (b, c) => blockBreaks indent fuel c (acc ++ [b])
    | none => (acc, c)

/-- The lines of a block scalar. `breaks` are the empty lines before the next one. -/
def blockLines (fold : Bool) (indent : Nat) (chomping : Chomping) :
    Nat → Cursor → List Char → List Char → List Char → List Char × Cursor
  | 0, c, acc, _, _ => (acc, c)
  | fuel + 1, c, acc, breaks, lineEnd =>
    if c.column = indent && !c.rest.isEmpty then
      let indented := c.peek.any fun ch => ch = ' ' || ch = '\t'
      let (text, after) := c.span (!isBreak ·)
      let acc := acc ++ breaks ++ text
      let lineEnd := (after.lineBreak?.map fun b => [b.1]).getD []
      let (breaks, next) := blockBreaks indent (c.rest.length + 1) after.skipBreak []
      if next.column = indent && !next.rest.isEmpty then
        let nextIndented := next.peek.any fun ch => ch = ' ' || ch = '\t'
        let acc :=
          if fold && lineEnd = ['\n'] && !indented && !nextIndented then
            if breaks.isEmpty then acc ++ [' '] else acc
          else acc ++ lineEnd
        blockLines fold indent chomping fuel next acc breaks lineEnd
      else finish acc breaks lineEnd next
    else finish acc breaks lineEnd c
where
  /-- The line ends behind the last line. -/
  finish (acc breaks lineEnd : List Char) (c : Cursor) : List Char × Cursor :=
    match chomping with
    | .strip => (acc, c)
    | .clip => (acc ++ lineEnd, c)
    | .keep => (acc ++ lineEnd ++ breaks, c)

/-- A block scalar, from its sign on, inside a block with the given indentation. -/
def blockScalar (fold : Bool) (outer : Int) (c : Cursor) : Except Refusal (String × Cursor) := do
  let ((chomping, increment), c) ← blockHeader c.next
  let least : Nat := max 1 (outer + 1).toNat
  let fuel := c.rest.length + 1
  let (indent, breaks, c) := match increment with
    | none =>
      let (breaks, deepest, c) := blockIndentation fuel c [] 0
      (max least deepest, breaks, c)
    | some n =>
      let indent := least + n - 1
      let (breaks, c) := blockBreaks indent fuel c []
      (indent, breaks, c)
  let (text, c) := blockLines fold indent chomping fuel c [] breaks []
  return (String.ofList text, c)

end LintBridge.Yaml
