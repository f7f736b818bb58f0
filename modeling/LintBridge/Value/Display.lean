import LintBridge.Value.Basic
import LintBridge.Number.Shortest
import LintBridge.Text.DecimalDigit
import LintBridge.Text.Quoted
import LintBridge.Text.Utf8
/-!
The text of a value in messages. At the top a text stands for itself; inside a container
it is quoted, and every other value has the same form in both places but for dates, which
are written out as calls when they stand inside a container. A value that is or holds an
integer of too many digits has no text.
-/
namespace LintBridge

/-- A number in at least `width` digits. -/
def padded (width n : Nat) : String :=
  let digits := Nat.toDigits 10 n
  String.ofList (List.replicate (width - digits.length) '0' ++ digits)

def Date.text (d : Date) : String := s!"{padded 4 d.year}-{padded 2 d.month}-{padded 2 d.day}"

/-- An offset from universal time as sign, hours, minutes and, if there are any, seconds. -/
def offsetText (offset : Int) : String :=
  let n := offset.natAbs
  let sign := if offset < 0 then "-" else "+"
  let clock := s!"{sign}{padded 2 (n / 3600)}:{padded 2 (n / 60 % 60)}"
  if n % 60 = 0 then clock else s!"{clock}:{padded 2 (n % 60)}"

def Moment.text (m : Moment) : String :=
  let micro := if m.micro = 0 then "" else "." ++ padded 6 m.micro
  let zone := match m.offset with | some o => offsetText o | none => ""
  s!"{m.date.text} {padded 2 m.hour}:{padded 2 m.minute}:{padded 2 m.second}{micro}{zone}"

/-- A length of time, in whole seconds, inside a container. -/
def durationText (length : Int) : String :=
  let days := length.fdiv 86400
  let seconds := length.fmod 86400
  let parts := (if days = 0 then [] else [s!"days={days}"]) ++
    (if seconds = 0 then [] else [s!"seconds={seconds}"])
  let inside := if parts.isEmpty then "0" else String.intercalate ", " parts
  "datetime.timedelta(" ++ inside ++ ")"

/-- A time zone inside a container. -/
def zoneText (offset : Int) : String :=
  if offset = 0 then "datetime.timezone.utc" else s!"datetime.timezone({durationText offset})"

def Date.inner (d : Date) : String := s!"datetime.date({d.year}, {d.month}, {d.day})"

def Moment.inner (m : Moment) : String :=
  let clock := if m.micro ≠ 0 then s!", {m.second}, {m.micro}"
    else if m.second ≠ 0 then s!", {m.second}" else ""
  let zone := match m.offset with | some o => s!", tzinfo={zoneText o}" | none => ""
  s!"datetime.datetime({m.date.year}, {m.date.month}, {m.date.day}, " ++
    s!"{m.hour}, {m.minute}{clock}{zone})"

/-- One octet inside quotes of the given kind. -/
def quoteOctet (quote : Char) (b : UInt8) : List Char :=
  let n := b.toNat
  let c := Char.ofNat n
  if c = quote ∨ c = '\\' then ['\\', c]
  else if c = '\t' then ['\\', 't']
  else if c = '\n' then ['\\', 'n']
  else if c = '\r' then ['\\', 'r']
  else if 32 ≤ n ∧ n < 127 then [c]
  else '\\' :: 'x' :: Text.hexPadded 2 n

/-- Octets in quotes after the letter b. -/
def quotedOctets (octets : List UInt8) : String :=
  let q := if octets.contains 39 && !octets.contains 34 then '"' else '\''
  String.ofList ('b' :: q :: octets.flatMap (quoteOctet q) ++ [q])

namespace Value

def boolText (b : Bool) : String := if b then "True" else "False"

mutual
/-- The text of a value inside a container. -/
def inner : Value → String
  | null => "None"
  | bool b => boolText b
  | int n => toString n
  | float x => x.text
  | text s => Text.quoted s
  | bytes octets => quotedOctets octets
  | date d => d.inner
  | moment m => m.inner
  | list items => "[" ++ String.intercalate ", " (innerAll items) ++ "]"
  | tuple items => match items with
    | [] => "()"
    | [item] => "(" ++ inner item ++ ",)"
    | item :: more => "(" ++ String.intercalate ", " (inner item :: innerAll more) ++ ")"
  | set items => match items with
    | [] => "set()"
    | item :: more => "\x7b" ++ String.intercalate ", " (inner item :: innerAll more) ++ "\x7d"
  | map entries => "\x7b" ++ String.intercalate ", " (innerEntries entries) ++ "\x7d"
termination_by structural v => v
def innerAll : List Value → List String
  | [] => []
  | item :: more => inner item :: innerAll more
termination_by structural items => items
def innerEntries : List (Value × Value) → List String
  | [] => []
  | entry :: more => innerEntry entry :: innerEntries more
termination_by structural entries => entries
def innerEntry : Value × Value → String
  | (k, v) => inner k ++ ": " ++ inner v
termination_by structural entry => entry
end

/-- The text of a value, were integers of any length to be written. -/
def display : Value → String
  | text s => s
  | date d => d.text
  | moment m => m.text
  | v => v.inner

mutual
/-- Can a value be written: has no integer in it too many digits? -/
def isWritable : Value → Bool
  | int n => n.natAbs < 10 ^ digitLimit
  | list items | tuple items | set items => allWritable items
  | map entries => entriesWritable entries
  | _ => true
termination_by structural v => v
def allWritable : List Value → Bool
  | [] => true
  | item :: more => item.isWritable && allWritable more
termination_by structural items => items
def entriesWritable : List (Value × Value) → Bool
  | [] => true
  | entry :: more => entryWritable entry && entriesWritable more
termination_by structural entries => entries
def entryWritable : Value × Value → Bool
  | (k, v) => k.isWritable && v.isWritable
termination_by structural entry => entry
end

/-- The text of a value, if it can be written. -/
def display? (v : Value) : Option String := if v.isWritable then some v.display else none

end Value
end LintBridge
