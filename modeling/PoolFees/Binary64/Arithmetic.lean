import PoolFees.Binary64

/-!
# Arithmetic on binary floating-point numbers

A result is the exact one, rounded to the nearest number of the format. What has no result is the
number `nan`, and what is too large is infinite. An integer can only be turned into a number of the
format when it is not too large.
-/

namespace PoolFees.Binary64

/-- The bits of an integer that is too large for every finite number. -/
def maxBits : Nat := 1024

/-- The nearest number to an integer, if there is a finite one. -/
def ofInt? (number : Int) : Option Binary64 :=
  if maxBits ≤ number.natAbs.log2 then none
  else
    match ofRatio (number < 0) number.natAbs 1 with
    | infinite _ => none
    | rounded => some rounded

/-- The multiple of the smallest positive number that a finite number is, with its sign. -/
def signedUnits (negative : Bool) (units : Nat) : Int := if negative then -units else units

/-- The difference of two numbers. -/
def sub : Binary64 → Binary64 → Binary64
  | nan, _ | _, nan => nan
  | infinite left, infinite right => if left = right then nan else infinite left
  | infinite left, finite _ _ => infinite left
  | finite _ _, infinite right => infinite !right
  | finite leftNegative left, finite rightNegative right =>
    let difference := signedUnits leftNegative left - signedUnits rightNegative right
    ofRatio (difference < 0) difference.natAbs (Nat.pow 2 scale)

/-- Whether a number is a zero of either sign. -/
def isZero : Binary64 → Bool
  | finite _ units => units = 0
  | _ => false

/-- Whether a number has a minus sign. -/
def isNegative : Binary64 → Bool
  | nan => false
  | infinite negative | finite negative _ => negative

/-- The product of two numbers. -/
def mul : Binary64 → Binary64 → Binary64
  | nan, _ | _, nan => nan
  | finite leftNegative left, finite rightNegative right =>
    ofRatio (leftNegative != rightNegative) (left * right) (Nat.pow 2 (2 * scale))
  | left, right =>
    if left.isZero || right.isZero then nan else infinite (left.isNegative != right.isNegative)

end PoolFees.Binary64
