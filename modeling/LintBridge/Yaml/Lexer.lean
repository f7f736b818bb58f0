import LintBridge.Yaml.Scan
/-!
From a text to its tokens. The lexer keeps the stack of indentations, the depth of flow
collections, and the places at which a key without a question mark may have begun: when
its colon is found, the key token is put in front of what was read since.
-/
namespace LintBridge.Yaml

/-- A place at which a key may have begun: the number of tokens before it. A required key
must be followed by a colon. -/
structure PossibleKey where
  tokenNumber : Nat
  required : Bool
  index : Nat
  line : Nat
  column : Nat
  deriving Repr

structure Lexer where
  cursor : Cursor
  flowDepth : Nat
  /-- The tokens so far, the last one first. -/
  tokens : List Token
  count : Nat
  indent : Int
  outerIndents : List Int
  keyAllowed : Bool
  possibleKeys : List (Nat × PossibleKey)

namespace Lexer

def ofText (s : List Char) : Lexer :=
  { cursor := .ofText s, flowDepth := 0, tokens := [], count := 0, indent := -1,
    outerIndents := [], keyAllowed := true, possibleKeys := [] }

def push (l : Lexer) (t : Token) : Lexer := { l with tokens := t :: l.tokens, count := l.count + 1 }

/-- Put a token in front of those read since there were `number` tokens. -/
def insertAt (l : Lexer) (number : Nat) (t : Token) : Lexer :=
  let behind := l.count - number
  { l with tokens := l.tokens.take behind ++ t :: l.tokens.drop behind, count := l.count + 1 }

def inFlow (l : Lexer) : Bool := l.flowDepth ≠ 0

/-- Forget the places that are too far behind: on another line, or over 1024 characters
back. -/
def dropStale (l : Lexer) : Except Refusal Lexer :=
  let stale (k : PossibleKey) : Bool :=
    k.line ≠ l.cursor.line || 1024 < l.cursor.index - k.index
  if l.possibleKeys.any fun (_, k) => stale k && k.required then .error .malformed
  else .ok { l with possibleKeys := l.possibleKeys.filter fun (_, k) => !stale k }

/-- Forget the place at the current depth. -/
def forgetKey (l : Lexer) : Except Refusal Lexer :=
  match l.possibleKeys.lookup l.flowDepth with
  | some k =>
    if k.required then .error .malformed
    else .ok { l with possibleKeys := l.possibleKeys.filter (·.1 ≠ l.flowDepth) }
  | none => .ok l

/-- Remember that a key may begin here. -/
def noteKey (l : Lexer) : Except Refusal Lexer :=
  if l.keyAllowed then do
    let c := l.cursor
    let required := !l.inFlow && l.indent = c.column
    let l ← l.forgetKey
    return { l with
      possibleKeys := (l.flowDepth, ⟨l.count, required, c.index, c.line, c.column⟩) ::
        l.possibleKeys }
  else .ok l

/-- Close the blocks that are indented further than a column. -/
def unwind (column : Int) (l : Lexer) : Lexer :=
  if l.inFlow then l
  else
    let closing := (l.indent :: l.outerIndents).takeWhile (column < ·)
    let l := closing.foldl (fun l _ => l.push .blockEnd) l
    match (l.indent :: l.outerIndents).drop closing.length with
    | indent :: outer => { l with indent, outerIndents := outer }
    | [] => l

/-- Open a block at a column that is indented further than the current one. -/
def openBlock? (l : Lexer) (column : Nat) : Option Lexer :=
  if l.indent < column then
    some { l with indent := column, outerIndents := l.indent :: l.outerIndents }
  else none

/-- Blanks, comments and line ends up to the next token. -/
def toNextToken : Nat → Lexer → Lexer
  | 0, l => l
  | fuel + 1, l =>
    let c := l.cursor.skipBlanks
    let c := if c.peek = some '#' then c.skipWhile (!isBreak ·) else c
    match c.lineBreak? with
    | some (_, c) =>
      toNextToken fuel { l with cursor := c, keyAllowed := l.keyAllowed || !l.inFlow }
    | none => { l with cursor := c }

/-- A mark at column zero that ends every block. -/
def atMargin (l : Lexer) : Except Refusal Lexer := do
  let l ← (l.unwind (-1)).forgetKey
  return { l with keyAllowed := false }

def mark (l : Lexer) (t : Token) : Except Refusal Lexer := do
  let l ← l.atMargin
  return { l with cursor := l.cursor.skip 3 }.push t

def openFlow (l : Lexer) (t : Token) : Except Refusal Lexer := do
  let l ← l.noteKey
  return { l with flowDepth := l.flowDepth + 1, keyAllowed := true, cursor := l.cursor.next }.push t

def closeFlow (l : Lexer) (t : Token) : Except Refusal Lexer := do
  let l ← l.forgetKey
  demand l.inFlow
  return { l with
    flowDepth := l.flowDepth - 1, keyAllowed := false, cursor := l.cursor.next }.push t

def flowEntry (l : Lexer) : Except Refusal Lexer := do
  let l ← l.forgetKey
  return { l with keyAllowed := true, cursor := l.cursor.next }.push .flowEntry

/-- Outside flow collections a block of a kind may begin here, if a key could. -/
def beginBlock (l : Lexer) (start : Token) : Except Refusal Lexer :=
  if l.inFlow then .ok l
  else if !l.keyAllowed then .error .malformed
  else match l.openBlock? l.cursor.column with
    | some l => .ok (l.push start)
    | none => .ok l

def blockEntry (l : Lexer) : Except Refusal Lexer := do
  let l ← l.beginBlock .blockSequenceStart
  let l ← { l with keyAllowed := true }.forgetKey
  return { l with cursor := l.cursor.next }.push .blockEntry

def explicitKey (l : Lexer) : Except Refusal Lexer := do
  let l ← l.beginBlock .blockMappingStart
  let l ← { l with keyAllowed := !l.inFlow }.forgetKey
  return { l with cursor := l.cursor.next }.push .key

def valueMark (l : Lexer) : Except Refusal Lexer := do
  let l ← match l.possibleKeys.lookup l.flowDepth with
    | some k =>
      let l := { l with possibleKeys := l.possibleKeys.filter (·.1 ≠ l.flowDepth) }
      let l := l.insertAt k.tokenNumber .key
      let l := if l.inFlow then l
        else match l.openBlock? k.column with
          | some l => l.insertAt k.tokenNumber .blockMappingStart
          | none => l
      pure { l with keyAllowed := false }
    | none => do
      let l ← l.beginBlock .blockMappingStart
      { l with keyAllowed := !l.inFlow }.forgetKey
  return { l with cursor := l.cursor.next }.push .value

/-- A piece that may be a key. -/
def piece (l : Lexer) (read : Cursor → Except Refusal (Token × Cursor)) : Except Refusal Lexer := do
  let l ← l.noteKey
  let (t, c) ← read l.cursor
  return { l with keyAllowed := false, cursor := c }.push t

def anchorPiece (make : String → Token) (c : Cursor) : Except Refusal (Token × Cursor) := do
  let (name, c) ← anchorName c.next
  return (make name, c)

def tagPiece (c : Cursor) : Except Refusal (Token × Cursor) := do
  let (t, c) ← tagText c
  return (.tag t, c)

def quotedPiece (quote : Char) (c : Cursor) : Except Refusal (Token × Cursor) := do
  let (s, c) ← quotedScalar quote c
  return (.scalar s false, c)

def plainPiece (l : Lexer) : Except Refusal Lexer := do
  let l ← l.noteKey
  let p := plainScalar l.inFlow (l.indent + 1) l.cursor
  return { l with keyAllowed := p.lineEnded, cursor := p.cursor }.push
    (.scalar (String.ofList p.text) true)

def blockPiece (l : Lexer) (fold : Bool) : Except Refusal Lexer := do
  let l ← { l with keyAllowed := true }.forgetKey
  let (s, c) ← blockScalar fold l.indent l.cursor
  return { l with cursor := c }.push (.scalar s false)

/-- May a plain scalar begin here? -/
def startsPlain (l : Lexer) (ch : Char) : Bool :=
  !(endsToken (some ch) || "-?:,[]\x7b\x7d#&*!|>'\"%@\x60".toList.contains ch) ||
    (!endsToken (l.cursor.ahead 1) && (ch = '-' || (!l.inFlow && (ch = '?' || ch = ':'))))

/-- The next token, which begins with the given character. -/
def token (l : Lexer) (ch : Char) : Except Refusal Lexer :=
  let c := l.cursor
  let margin := c.column = 0
  let alone := endsToken (c.ahead 1)
  if ch = '%' && margin then do
    let l ← l.atMargin
    let (d, c) ← directive l.cursor
    return { l with cursor := c }.push (.directive d)
  else if margin && c.atMark '-' then l.mark .documentStart
  else if margin && c.atMark '.' then l.mark .documentEnd
  else if ch = '[' then l.openFlow .flowSequenceStart
  else if ch = '\x7b' then l.openFlow .flowMappingStart
  else if ch = ']' then l.closeFlow .flowSequenceEnd
  else if ch = '\x7d' then l.closeFlow .flowMappingEnd
  else if ch = ',' then l.flowEntry
  else if ch = '-' && alone then l.blockEntry
  else if ch = '?' && (l.inFlow || alone) then l.explicitKey
  else if ch = ':' && (l.inFlow || alone) then l.valueMark
  else if ch = '*' then l.piece (anchorPiece .alias_)
  else if ch = '&' then l.piece (anchorPiece .anchor)
  else if ch = '!' then l.piece tagPiece
  else if ch = '|' && !l.inFlow then l.blockPiece false
  else if ch = '>' && !l.inFlow then l.blockPiece true
  else if ch = '\'' || ch = '"' then l.piece (quotedPiece ch)
  else if l.startsPlain ch then l.plainPiece
  else .error .malformed

def run : Nat → Lexer → Except Refusal (List Token)
  | 0, _ => .error .malformed
  | fuel + 1, l => do
    let l ← (l.toNextToken (l.cursor.rest.length + 1)).dropStale
    let l := l.unwind l.cursor.column
    match l.cursor.peek with
    | none =>
      let l ← (l.unwind (-1)).forgetKey
      return l.tokens.reverse
    | some ch => run fuel (← l.token ch)

end Lexer

/-- Characters that a document may hold. -/
def isAllowed (c : Char) : Bool :=
  let n := c.toNat
  n = 9 || n = 10 || n = 13 || (32 ≤ n && n ≤ 126) || n = 0x85 ||
    (0xA0 ≤ n && n ≤ 0xFFFD) || 0x10000 ≤ n

/-- The tokens of a text. A byte-order mark in front of it does not count. -/
def tokens (s : List Char) : Except Refusal (List Token) :=
  if !s.all isAllowed then .error .malformed
  else
    let start := Lexer.ofText s
    let start :=
      if s.head? = some '\uFEFF' then { start with cursor := start.cursor.next } else start
    Lexer.run (s.length + 2) start

end LintBridge.Yaml
