import LintBridge.Number.Binary64
/-!
The shortest decimal text that reads back as the same double. The digits are chosen by
exact arithmetic: for one, two, … seventeen digits the two neighbours of the number on
that decimal grid are tried, and the first grid with a neighbour that reads back wins;
of two neighbours the nearer is taken. How the digits are laid out is a separate step.
-/
namespace LintBridge.Binary64

/-- A positive decimal number `0.d₁d₂… · 10^point`. -/
structure Digits where
  digits : List Char
  point : Int
  deriving DecidableEq, Repr

/-- The number of decimal places before the point of a positive fraction; for a fraction
below a tenth it is not positive. -/
def decimalPoint (num den : Nat) : Int :=
  if den ≤ num then (Nat.toDigits 10 (num / den)).length
  else
    let below := (Nat.toDigits 10 (den / num)).length - 1
    if den ≤ num * Nat.pow 10 below then 1 - (below : Int) else -(below : Int)

/-- The grid neighbours, nearer one first, of a fraction scaled by `10^(-scale)`. -/
def gridNeighbours (num den : Nat) (scale : Int) : List Nat :=
  let n := num * Nat.pow 10 (-scale).toNat
  let d := den * Nat.pow 10 scale.toNat
  let low := n / d
  let twice := 2 * (n % d)
  if twice < d ∨ (twice = d ∧ low % 2 = 0) then [low, low + 1] else [low + 1, low]

/-- Try grids of `count`, `count + 1`, … digits. -/
def searchGrid (x : Binary64) (num den : Nat) (point : Int) : Nat → Nat → Nat × Int
  | 0, count => (num * Nat.pow 10 ((count : Int) - point).toNat / den, point - count)
  | fuel + 1, count =>
    let scale := point - count
    match (gridNeighbours num den scale).find? fun n => ofDecimal false n scale = x with
    | some n => (n, scale)
    | none => searchGrid x num den point fuel (count + 1)

/-- The shortest digits of a positive finite number. -/
def shortest (significand : Nat) (exponent : Int) : Digits :=
  let (num, den) := fraction significand exponent
  let point := decimalPoint num den
  let (n, scale) := searchGrid (.finite false significand exponent) num den point 17 1
  let digits := Nat.toDigits 10 n
  ⟨(digits.reverse.dropWhile (· = '0')).reverse, digits.length + scale⟩

/-- Positional between `10^-4` and `10^16`, with one place after the point at least; else
scientific, with a sign and two digits of exponent at least. -/
def Digits.layout (d : Digits) : String :=
  let size : Int := d.digits.length
  if -4 < d.point ∧ d.point ≤ 16 then
    if d.point ≤ 0 then
      "0." ++ String.ofList (List.replicate (-d.point).toNat '0' ++ d.digits)
    else if size ≤ d.point then
      String.ofList (d.digits ++ List.replicate (d.point - size).toNat '0') ++ ".0"
    else
      String.ofList (d.digits.take d.point.toNat ++ '.' :: d.digits.drop d.point.toNat)
  else
    let exponent := d.point - 1
    let places := Nat.toDigits 10 exponent.natAbs
    let places := if places.length < 2 then '0' :: places else places
    let lead := d.digits.take 1
    let tail := d.digits.drop 1
    let body := if tail.isEmpty then lead else lead ++ '.' :: tail
    String.ofList (body ++ 'e' :: (if exponent < 0 then '-' else '+') :: places)

/-- The text of a double. -/
def text : Binary64 → String
  | .nan => "nan"
  | .infinite negative => if negative then "-inf" else "inf"
  | .finite negative m e =>
    let body := if m = 0 then "0.0" else (shortest m e).layout
    if negative then "-" ++ body else body

end LintBridge.Binary64
