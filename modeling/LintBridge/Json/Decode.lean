import LintBridge.Value.Basic
import LintBridge.Number.Numeral
/-!
Reading JSON. The reader works on the list of characters still to be read and reports a
complaint together with the number of characters that were left where it arose, so that
its place is the difference from the length of the whole text. The names of NaN and the
infinities are numbers here, a later duplicate of a key overwrites the earlier one, and
an integer of more than 4300 digits is refused.
-/
namespace LintBridge.Json

open Text (hexValue?)

/-- What is wrong at a place in a text. -/
inductive Complaint where
  | byteOrderMark | value | property | colon | comma | extra
  | unterminated | control | escape | codeUnit
  deriving DecidableEq, Repr

def Complaint.message : Complaint → String
  | .byteOrderMark => "Unexpected UTF-8 BOM (decode using utf-8-sig)"
  | .value => "Expecting value"
  | .property => "Expecting property name enclosed in double quotes"
  | .colon => "Expecting ':' delimiter"
  | .comma => "Expecting ',' delimiter"
  | .extra => "Extra data"
  | .unterminated => "Unterminated string starting at"
  | .control => "Invalid control character at"
  | .escape => "Invalid \\escape"
  | .codeUnit => "Invalid \\uXXXX escape"

/-- Why reading stops: a complaint with the number of characters left at its place, or an
integer with too many digits. -/
inductive Stop where
  | complaint (what : Complaint) (left : Nat)
  | digitLimit (digits : Nat)
  deriving DecidableEq, Repr

/-- What is read, and the characters that follow it. -/
abbrev Reading (α : Type) := Except Stop (α × List Char)

def isSpace (c : Char) : Bool := c = ' ' || c = '\t' || c = '\n' || c = '\r'

def skipSpace (s : List Char) : List Char := s.dropWhile isSpace

/-- The value of four hexadecimal digits, and what follows them. -/
def codeUnit? : List Char → Option (Nat × List Char)
  | a :: b :: c :: d :: rest => do
    let a ← hexValue? a
    let b ← hexValue? b
    let c ← hexValue? c
    let d ← hexValue? d
    some (((a * 16 + b) * 16 + c) * 16 + d, rest)
  | _ => none

def isHighSurrogate (n : Nat) : Bool := 0xD800 ≤ n && n ≤ 0xDBFF
def isLowSurrogate (n : Nat) : Bool := 0xDC00 ≤ n && n ≤ 0xDFFF

/-- The character of a code unit; a surrogate that stands alone has none. -/
def unitChar (n : Nat) : Char :=
  if 0xD800 ≤ n && n ≤ 0xDFFF then Char.ofNat 0xFFFD else Char.ofNat n

/-- The character that follows `\u`. Two units that form a surrogate pair are one
character; at least one more character must follow the digits. -/
def unicodeEscape (s : List Char) : Reading Char :=
  let fault : Stop := .complaint .codeUnit (s.length + 1)
  if s.length ≤ 4 then .error fault
  else match codeUnit? s with
    | none => .error fault
    | some (high, rest) =>
      if isHighSurrogate high && 6 < rest.length then
        match rest with
        | '\\' :: 'u' :: digits =>
          match codeUnit? digits with
          | none => .error (.complaint .codeUnit (digits.length + 1))
          | some (low, after) =>
            if isLowSurrogate low then
              .ok (Char.ofNat (0x10000 + (high - 0xD800) * 0x400 + (low - 0xDC00)), after)
            else .ok (unitChar high, rest)
        | _ => .ok (unitChar high, rest)
      else .ok (unitChar high, rest)

/-- The character that a one-letter escape stands for. -/
def simpleEscape? : Char → Option Char
  | '"' => some '"'
  | '\\' => some '\\'
  | '/' => some '/'
  | 'b' => some '\x08'
  | 'f' => some '\x0c'
  | 'n' => some '\n'
  | 'r' => some '\r'
  | 't' => some '\t'
  | _ => none

/-- The rest of a string; `start` characters were left at its opening quote. -/
def stringTail (start : Nat) : Nat → List Char → List Char → Reading String
  | 0, _, _ => .error (.complaint .unterminated start)
  | _ + 1, [], _ => .error (.complaint .unterminated start)
  | fuel + 1, c :: rest, acc =>
    if c = '"' then .ok (String.ofList acc.reverse, rest)
    else if c = '\\' then
      match rest with
      | [] => .error (.complaint .unterminated start)
      | 'u' :: digits =>
        match unicodeEscape digits with
        | .error stop => .error stop
        | .ok (c, rest) => stringTail start fuel rest (c :: acc)
      | e :: rest =>
        match simpleEscape? e with
        | some c => stringTail start fuel rest (c :: acc)
        | none => .error (.complaint .escape (rest.length + 2))
    else if c.toNat ≤ 0x1f then .error (.complaint .control (rest.length + 1))
    else stringTail start fuel rest (c :: acc)

/-- A string, from behind its opening quote. -/
def string (rest : List Char) : Reading String :=
  stringTail (rest.length + 1) (rest.length + 1) rest []

/-- An optional fraction: a point and at least one digit. -/
def fraction? : List Char → Option (List Char × List Char)
  | '.' :: rest =>
    let digits := rest.takeWhile Char.isDigit
    if digits.isEmpty then none else some (digits, rest.dropWhile Char.isDigit)
  | _ => none

/-- An optional exponent: `e`, an optional sign and at least one digit. -/
def exponent? : List Char → Option (Int × List Char)
  | c :: rest =>
    if c = 'e' ∨ c = 'E' then
      let (negative, body) := Numeral.sign rest
      let digits := body.takeWhile Char.isDigit
      if digits.isEmpty then none
      else
        let n : Int := Numeral.digitsValue digits
        some (if negative then -n else n, body.dropWhile Char.isDigit)
    else none
  | [] => none

/-- The digits before the point: a zero alone, or digits that begin with another one. -/
def wholeDigits : List Char → List Char × List Char
  | '0' :: rest => (['0'], rest)
  | s => (s.takeWhile Char.isDigit, s.dropWhile Char.isDigit)

/-- A number; `left` characters were left at its first one. -/
def number (left : Nat) (negative : Bool) (s : List Char) : Reading Value :=
  match wholeDigits s with
  | ([], _) => .error (.complaint .value left)
  | (whole, rest) =>
    match fraction? rest, exponent? ((fraction? rest).elim rest Prod.snd) with
    | none, none =>
      if digitLimit < whole.length then .error (.digitLimit whole.length)
      else
        let n : Int := Numeral.digitsValue whole
        .ok (.int (if negative then -n else n), rest)
    | frac, exp =>
      let places := (frac.map Prod.fst).getD []
      let scale := (exp.map Prod.fst).getD 0
      let after := (exp.map Prod.snd).getD ((frac.map Prod.snd).getD rest)
      .ok (.float (.ofDecimal negative (Numeral.digitsValue (whole ++ places))
        (scale - places.length)), after)

/-- The values that are written as words. -/
def words : List (String × Value) :=
  [("null", .null), ("true", .bool true), ("false", .bool false), ("NaN", .float .nan),
   ("Infinity", .float (.infinite false)), ("-Infinity", .float (.infinite true))]

/-- A word at the beginning of a text. -/
def word? (s : List Char) : Option (Value × List Char) :=
  words.findSome? fun (name, value) =>
    if name.toList.isPrefixOf s then some (value, s.drop name.length) else none

mutual
/-- One value; no blanks are skipped in front of it. -/
def value : Nat → List Char → Reading Value
  | 0, s => .error (.complaint .value s.length)
  | _ + 1, [] => .error (.complaint .value 0)
  | fuel + 1, c :: rest =>
    if c = '"' then (string rest).map fun (s, after) => (.text s, after)
    else if c = '[' then
      match skipSpace rest with
      | ']' :: after => .ok (.list [], after)
      | s => (items fuel s []).map fun (xs, after) => (.list xs, after)
    else if c = '\x7b' then
      match skipSpace rest with
      | '\x7d' :: after => .ok (.map [], after)
      | s => (members fuel s []).map fun (es, after) => (.map (Value.Entries.ofPairs es), after)
    else match word? (c :: rest) with
      | some result => .ok result
      | none =>
        if c = '-' then number (rest.length + 1) true rest
        else number (rest.length + 1) false (c :: rest)
/-- The items of an array up to its closing bracket. -/
def items : Nat → List Char → List Value → Reading (List Value)
  | 0, s, _ => .error (.complaint .value s.length)
  | fuel + 1, s, acc =>
    match value fuel s with
    | .error stop => .error stop
    | .ok (v, rest) =>
      match skipSpace rest with
      | ',' :: more => items fuel (skipSpace more) (v :: acc)
      | ']' :: after => .ok ((v :: acc).reverse, after)
      | rest => .error (.complaint .comma rest.length)
/-- The members of an object up to its closing brace. -/
def members : Nat → List Char → List (Value × Value) → Reading (List (Value × Value))
  | 0, s, _ => .error (.complaint .property s.length)
  | fuel + 1, s, acc =>
    match s with
    | '"' :: rest =>
      match string rest with
      | .error stop => .error stop
      | .ok (name, rest) =>
        match skipSpace rest with
        | ':' :: rest =>
          match value fuel (skipSpace rest) with
          | .error stop => .error stop
          | .ok (v, rest) =>
            match skipSpace rest with
            | ',' :: more => members fuel (skipSpace more) ((.text name, v) :: acc)
            | '\x7d' :: after => .ok (((.text name, v) :: acc).reverse, after)
            | rest => .error (.complaint .comma rest.length)
        | rest => .error (.complaint .colon rest.length)
    | s => .error (.complaint .property s.length)
end

/-- A whole text as one value. -/
def document (s : List Char) : Except Stop Value :=
  match s with
  | '\uFEFF' :: _ => .error (.complaint .byteOrderMark s.length)
  | _ =>
    let body := skipSpace s
    match value (body.length + 1) body with
    | .error stop => .error stop
    | .ok (v, rest) =>
      let rest := skipSpace rest
      if rest.isEmpty then .ok v else .error (.complaint .extra rest.length)

/-- Why a text is no JSON document. -/
inductive Refusal where
  | malformed (what : Complaint) (line column offset : Nat)
  | digitLimit (digits : Nat)
  deriving DecidableEq, Repr

/-- The complaint at the place of a text where so many characters were left. -/
def Stop.refusal (s : List Char) : Stop → Refusal
  | .digitLimit digits => .digitLimit digits
  | .complaint what left =>
    let before := s.take (s.length - left)
    let lastLine := before.reverse.takeWhile (· ≠ '\n')
    .malformed what (before.count '\n' + 1) (lastLine.length + 1) before.length

def Refusal.message : Refusal → String
  | .malformed what line column offset =>
    s!"{what.message}: line {line} column {column} (char {offset})"
  | .digitLimit digits =>
    "Exceeds the limit (4300 digits) for integer string conversion: value has " ++
      s!"{digits} digits; use sys.set_int_max_str_digits() to increase the limit"

/-- Read a JSON document. -/
def decode (s : String) : Except Refusal Value :=
  (document s.toList).mapError (Stop.refusal s.toList)

end LintBridge.Json
