import LintBridge.Number.Binary64
/-!
Sums and products of doubles, computed exactly and rounded once.
-/
namespace LintBridge.Binary64

/-- A finite number as a signed numerator and a denominator. -/
def signedFraction (negative : Bool) (significand : Nat) (exponent : Int) : Int × Nat :=
  let (num, den) := fraction significand exponent
  (if negative then -(num : Int) else num, den)

def neg : Binary64 → Binary64
  | nan => nan
  | infinite negative => infinite !negative
  | finite negative m e => finite (!negative) m e

def add : Binary64 → Binary64 → Binary64
  | finite n m e, finite n' m' e' =>
    let (a, b) := signedFraction n m e
    let (a', b') := signedFraction n' m' e'
    let sum := a * b' + a' * b
    if sum = 0 then finite (n && n') 0 (-1074) else ofFraction (sum < 0) sum.natAbs (b * b')
  | infinite n, infinite n' => if n = n' then infinite n else nan
  | infinite n, finite .. => infinite n
  | finite .., infinite n => infinite n
  | _, _ => nan

def mul : Binary64 → Binary64 → Binary64
  | finite n m e, finite n' m' e' =>
    let (a, b) := fraction m e
    let (a', b') := fraction m' e'
    ofFraction (n != n') (a * a') (b * b')
  | infinite n, infinite n' => infinite (n != n')
  | infinite n, finite n' m _ => if m = 0 then nan else infinite (n != n')
  | finite n m _, infinite n' => if m = 0 then nan else infinite (n != n')
  | _, _ => nan

end LintBridge.Binary64
