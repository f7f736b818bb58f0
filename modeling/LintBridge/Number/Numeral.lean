import LintBridge.Number.Binary64
import LintBridge.Text.Blank
import LintBridge.Text.DecimalDigit
/-!
Reading numbers from free text: integers with single underscores and an all-zero
fraction, decimal numbers with an optional exponent, and the names of infinity and NaN.
Only ASCII digits count, except in `whole?`, which takes those of every script.
-/
namespace LintBridge.Numeral

open Text (trim isSpace)

/-- The number that a list of ASCII digits writes. -/
def digitsValue (digits : List Char) : Nat :=
  digits.foldl (fun n c => 10 * n + (c.toNat - 48)) 0

/-- Remove underscores that stand singly between two other characters. -/
def withoutUnderscores? : List Char → Option (List Char)
  | [] => some []
  | '_' :: _ => none
  | [c] => some [c]
  | c :: '_' :: d :: rest =>
    if d = '_' then none else (withoutUnderscores? (d :: rest)).map (c :: ·)
  | c :: rest => (withoutUnderscores? rest).map (c :: ·)

/-- Split a sign off. -/
def sign : List Char → Bool × List Char
  | '-' :: rest => (true, rest)
  | '+' :: rest => (false, rest)
  | s => (false, s)

/-- Drop a fraction that is a point and one or more zeros. -/
def withoutZeroFraction (s : List Char) : List Char :=
  match s.dropWhile (· ≠ '.') with
  | '.' :: zeros =>
    if !zeros.isEmpty && zeros.all (· = '0') then s.takeWhile (· ≠ '.') else s
  | _ => s

/-- Why a text is no integer. -/
inductive IntegerFault where
  | malformed | tooLong
  deriving DecidableEq, Repr

/-- Read an integer: blanks around it, a sign, single underscores between digits and an
all-zero fraction are allowed; more than 4300 characters are not. -/
def integer (text : String) : Except IntegerFault Int :=
  let s := trim isSpace text.toList
  if 4300 < s.length then .error .tooLong
  else
    let (negative, body) := sign s
    match withoutUnderscores? (withoutZeroFraction body) with
    | some digits =>
      if digits.isEmpty || !digits.all Char.isDigit then .error .malformed
      else
        let n : Int := digitsValue digits
        .ok (if negative then -n else n)
    | none => .error .malformed

/-- Read an integer without a fraction: blanks around it, a sign and single underscores
between digits are allowed; more than 4300 digits are not. -/
def whole? (text : String) : Option Int :=
  let (negative, body) := sign ((trim isSpace text.toList).map Text.asciiDigit)
  match withoutUnderscores? body with
  | some digits =>
    if digits.isEmpty || !digits.all Char.isDigit || 4300 < digits.length then none
    else
      let n : Int := digitsValue digits
      some (if negative then -n else n)
  | none => none

/-- Read the exponent part of a decimal number: nothing, or `e`, a sign and digits. -/
def exponent? : List Char → Option Int
  | [] => some 0
  | c :: rest =>
    if c = 'e' ∨ c = 'E' then
      let (negative, digits) := sign rest
      if digits.isEmpty || !digits.all Char.isDigit then none
      else
        let n : Int := digitsValue digits
        some (if negative then -n else n)
    else none

/-- Read a decimal number without blanks. -/
def decimal? (text : List Char) : Option Binary64 :=
  let (negative, body) := sign text
  let name := body.map Char.toLower
  if name = "inf".toList ∨ name = "infinity".toList then some (.infinite negative)
  else if name = "nan".toList then some .nan
  else
    let whole := body.takeWhile Char.isDigit
    let rest := body.dropWhile Char.isDigit
    let (frac, rest) := match rest with
      | '.' :: after => (after.takeWhile Char.isDigit, after.dropWhile Char.isDigit)
      | _ => ([], rest)
    if whole.isEmpty && frac.isEmpty then none
    else
      (exponent? rest).map fun e =>
        .ofDecimal negative (digitsValue (whole ++ frac)) (e - frac.length)

/-- Read a decimal number with blanks around it and single underscores inside. -/
def number? (text : String) : Option Binary64 :=
  let s := trim isSpace text.toList
  match decimal? s with
  | some x => some x
  | none => (withoutUnderscores? s).bind decimal?

end LintBridge.Numeral
