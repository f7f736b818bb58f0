import LintBridge.Value.Display
/-!
Writing JSON in ASCII. A value is written on one line with a blank after each comma and
colon, or spread over lines with a given indentation.
-/
namespace LintBridge.Json

/-- A UTF-16 code unit as an escape. -/
def unitEscape (n : Nat) : List Char := '\\' :: 'u' :: Text.hexPadded 4 n

/-- One character inside a string. -/
def charText (c : Char) : List Char :=
  if c = '"' then ['\\', '"']
  else if c = '\\' then ['\\', '\\']
  else if c = '\n' then ['\\', 'n']
  else if c = '\r' then ['\\', 'r']
  else if c = '\t' then ['\\', 't']
  else if c = '\x08' then ['\\', 'b']
  else if c = '\x0c' then ['\\', 'f']
  else
    let n := c.toNat
    if 32 ≤ n ∧ n < 127 then [c]
    else if n < 0x10000 then unitEscape n
    else
      unitEscape (0xD800 + (n - 0x10000) / 0x400) ++ unitEscape (0xDC00 + (n - 0x10000) % 0x400)

/-- A text as a string. -/
def stringText (s : String) : String :=
  String.ofList ('"' :: s.toList.flatMap charText ++ ['"'])

def floatText : Binary64 → String
  | .nan => "NaN"
  | .infinite negative => if negative then "-Infinity" else "Infinity"
  | x => x.text

/-- A value that is no container, as text; `none` for a container. -/
def leaf? : Value → Option String
  | .null => some "null"
  | .bool b => some (if b then "true" else "false")
  | .int n => some (toString n)
  | .float x => some (floatText x)
  | .text s => some (stringText s)
  | .list _ | .tuple _ | .set _ | .map _ => none
  | v => some (stringText v.display)

/-- A key as text; keys that are no texts take their own text. -/
def keyText (v : Value) : String :=
  match v with
  | .text s => stringText s
  | v => match leaf? v with
    | some s => stringText s
    | none => stringText v.display

/-- How the parts of a container are laid out: the opening and the closing text stand inside the
brackets and the comma between the parts. -/
structure Layout where
  opening : String
  comma : String
  closing : String

/-- The layout at a nesting depth; without an indentation everything is on one line. -/
def layout (indent : Option Nat) (depth : Nat) : Layout :=
  match indent with
  | none => ⟨"", ", ", ""⟩
  | some n =>
    let line (d : Nat) := "\n" ++ String.ofList (List.replicate (n * d) ' ')
    ⟨line (depth + 1), "," ++ line (depth + 1), line depth⟩

def bracketed (l : Layout) (left right : String) (parts : List String) : String :=
  if parts.isEmpty then left ++ right
  else left ++ l.opening ++ String.intercalate l.comma parts ++ l.closing ++ right

mutual
/-- The text of a value at a nesting depth. -/
def render (indent : Option Nat) : Nat → Value → String
  | depth, .list xs => bracketed (layout indent depth) "[" "]" (renderAll indent (depth + 1) xs)
  | depth, .tuple xs => bracketed (layout indent depth) "[" "]" (renderAll indent (depth + 1) xs)
  | depth, .set xs => bracketed (layout indent depth) "[" "]" (renderAll indent (depth + 1) xs)
  | depth, .map es =>
    bracketed (layout indent depth) "\x7b" "\x7d" (renderEntries indent (depth + 1) es)
  | _, v => (leaf? v).getD ""
termination_by structural _ v => v
def renderAll (indent : Option Nat) : Nat → List Value → List String
  | _, [] => []
  | depth, v :: rest => render indent depth v :: renderAll indent depth rest
termination_by structural _ vs => vs
def renderEntries (indent : Option Nat) : Nat → List (Value × Value) → List String
  | _, [] => []
  | depth, e :: rest => renderEntry indent depth e :: renderEntries indent depth rest
termination_by structural _ es => es
def renderEntry (indent : Option Nat) : Nat → Value × Value → String
  | depth, (k, v) => keyText k ++ ": " ++ render indent depth v
termination_by structural _ e => e
end

/-- A value on one line. -/
def encode (v : Value) : String := render none 0 v

/-- A value over several lines, each level indented by so many blanks. -/
def encodeIndented (width : Nat) (v : Value) : String := render (some width) 0 v

end LintBridge.Json
