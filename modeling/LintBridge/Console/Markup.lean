import LintBridge.Console.Style
import LintBridge.Console.Pictograph
import LintBridge.Text.Quoted
/-!
Texts with style tags in brackets. A tag that opens a style lasts until it is closed by
name, until a closing tag without a name comes, or to the end of the text. A backslash
before a tag makes it plain text. A tag with an at sign names a handler, whose parameters
are evaluated when it is closed. What is shown on a terminal without styles is the text
without its tags; it exists unless a closing tag has nothing to close, a style holds a
number that cannot be read, or the parameters of a handler have no value.
-/
namespace LintBridge.Console

/-- Why a text with tags cannot be shown. -/
inductive MarkupFault where
  | unopened (tag : String) (position : Nat)
  | nothingToClose (position : Nat)
  | parameters (text : String)
  | number
  deriving DecidableEq, Repr

def MarkupFault.message : MarkupFault → String
  | .unopened tag position =>
    s!"closing tag '[{tag}]' at position {position} doesn't match any open tag"
  | .nothingToClose position => s!"closing tag '[/]' at position {position} has nothing to close"
  | .parameters text => s!"error parsing {Text.quoted text}"
  | .number => "invalid literal for int() with base 10"

/-- A piece of a text with tags. A tag keeps the position of its beginning. -/
inductive Piece where
  | plain (s : List Char)
  | tag (content : List Char) (position : Nat)
  deriving DecidableEq, Repr

/-- Characters with which a tag begins. -/
def isTagStart (c : Char) : Bool := ('a' ≤ c && c ≤ 'z') || c = '#' || c = '/' || c = '@'

/-- A tag after its opening bracket: what it holds and what stands after it. -/
def tagAfterBracket? (s : List Char) : Option (List Char × List Char) :=
  let content := s.takeWhile fun c => c ≠ '[' && c ≠ ']'
  match content.head?, s.dropWhile fun c => c ≠ '[' && c ≠ ']' with
  | some c, ']' :: rest => if isTagStart c then some (content, rest) else none
  | _, _ => none

/-- A tag and the backslashes before it, at the front of a text. -/
def tagAtFront? (s : List Char) : Option (Nat × List Char × List Char) :=
  match s.dropWhile (· = '\\') with
  | '[' :: rest =>
    (tagAfterBracket? rest).map fun t => ((s.takeWhile (· = '\\')).length, t)
  | _ => none

/-- The pieces of a text from a position on. Of the backslashes before a tag every second
one stays, and one that is left over takes the tag's meaning away. `run` is the plain text
before, last character first. -/
def piecesFuel : Nat → List Char → Nat → List Char → List Piece
  | 0, s, _, run => [.plain (run.reverse ++ s)]
  | _ + 1, [], _, run => [.plain run.reverse]
  | fuel + 1, c :: s, position, run =>
    match tagAtFront? (c :: s) with
    | none => piecesFuel fuel s (position + 1) (c :: run)
    | some (escapes, content, rest) =>
      let after := position + escapes + content.length + 2
      let half := List.replicate (escapes / 2) '\\'
      let piece : Piece :=
        if escapes % 2 = 1 then .plain ('[' :: content ++ [']'])
        else .tag content (position + escapes)
      .plain run.reverse :: .plain half :: piece :: piecesFuel fuel rest after []

def pieces (s : List Char) : List Piece :=
  (piecesFuel (s.length + 1) s 0 []).filter fun p => p ≠ .plain []

/-- A tag that was opened: its name in normal form, and what stands behind its equals sign. -/
structure OpenTag where
  name : String
  parameters : Option (List Char)
  deriving DecidableEq, Repr

/-- Take the innermost open tag of a name out of the open ones. -/
def takeOpen? (name : String) : List OpenTag → Option (OpenTag × List OpenTag)
  | [] => none
  | tag :: rest =>
    if tag.name = name then some (tag, rest)
    else (takeOpen? name rest).map fun (found, rest) => (found, tag :: rest)

/-- The name of a tag: what stands before its equals sign. -/
def tagName (content : List Char) : List Char := content.takeWhile (· ≠ '=')

/-- What stands behind the equals sign of a tag that has one. -/
def tagParameters? (content : List Char) : Option (List Char) :=
  match content.dropWhile (· ≠ '=') with
  | [] => none
  | _ :: parameters => some parameters

/-- The text in the parameters of a handler that is evaluated: what stands in brackets behind
the name of a function, empty brackets if there are none, or else the whole. -/
def evaluated (parameters : List Char) : List Char :=
  match parameters.dropWhile fun c => c.isAlphanum || c = '_' || c = '.' with
  | [] => ['(', ')']
  | '(' :: rest =>
    if rest.getLast? = some ')' && !rest.contains '\n' then '(' :: rest else parameters
  | _ => parameters

/-- Can a tag be closed? The parameters of a handler must have a value. -/
def OpenTag.checked (literal : List Char → Bool) (tag : OpenTag) : Except MarkupFault Unit :=
  match tag.parameters with
  | none | some [] => .ok ()
  | some parameters =>
    if tag.name.startsWith "@" && !literal (evaluated (Text.trim Text.isBlank parameters)) then
      .error (.parameters (String.ofList parameters))
    else .ok ()

/-- Can the style of a tag be looked up? What is no style counts as a plain one. -/
def OpenTag.styled (tag : OpenTag) : Except MarkupFault Unit :=
  let parameters := tag.parameters.elim "" fun p => " " ++ String.ofList p
  match Style.read (tag.name ++ parameters) with
  | .error .number => .error .number
  | _ => .ok ()

/-- The open tags after a tag. The value of a literal is asked for only when a tag is closed. -/
def applyTag (literal : List Char → Bool) (opened : List OpenTag) (content : List Char)
    (position : Nat) : Except MarkupFault (List OpenTag) :=
  match tagName content with
  | '/' :: name =>
    let name := Text.stripped (String.ofList name)
    if name.isEmpty then
      match opened with
      | [] => .error (.nothingToClose position)
      | tag :: rest => (tag.checked literal).map fun _ => rest
    else match normalStyle? name with
      | none => .error .number
      | some name =>
        match takeOpen? name opened with
        | some (tag, rest) => (tag.checked literal).map fun _ => rest
        | none => .error (.unopened (String.ofList content) position)
  | name =>
    match normalStyle? (String.ofList name) with
    | none => .error .number
    | some name =>
      let tag : OpenTag := ⟨name, tagParameters? content⟩
      tag.styled.map fun _ => tag :: opened

/-- A bracket behind a backslash stands for itself. -/
def unescaped (s : List Char) : List Char := Text.replaceAll ['\\', '['] ['['] s

/-- Show pieces one after the other. -/
def showPieces (literal : List Char → Bool) (opened : List OpenTag) :
    List Piece → Except MarkupFault (List Char)
  | [] => .ok []
  | .plain s :: rest => (showPieces literal opened rest).map (pictured (unescaped s) ++ ·)
  | .tag content position :: rest =>
    match applyTag literal opened content position with
    | .error f => .error f
    | .ok opened => showPieces literal opened rest

/-- Characters that a terminal would act on instead of showing them. -/
def isTerminalControl (c : Char) : Bool :=
  c.toNat = 7 || c.toNat = 8 || c.toNat = 11 || c.toNat = 12 || c.toNat = 13

/-- What is shown of a text with tags, if the literals are known that have a value. -/
def shown (literal : List Char → Bool) (s : String) : Except MarkupFault (List Char) :=
  let text := s.toList
  let result :=
    if text.contains '[' then showPieces literal [] (pieces text) else .ok (pictured text)
  result.map fun t => t.filter fun c => !isTerminalControl c

end LintBridge.Console
