import PoolFees.Binary64

/-!
# Comparing numbers of different kinds

Integers, binary and decimal numbers are compared by the number that they stand for, without
rounding. `Quantity` is that number as a quotient times a power of ten, together with the numbers
that are not finite. Nothing equals the number `nan` and nothing is below or above it.

A power of ten can be too large to be computed. It is not computed when it is clear without it which
number is larger.
-/

namespace PoolFees

inductive Quantity where
  | nan
  | infinite (negative : Bool)
  /-- The number `numerator / denominator · 10 ^ exponent`, with a positive denominator. -/
  | ratio (numerator : Int) (denominator : Nat) (exponent : Int)
deriving DecidableEq, Repr, Inhabited

namespace Quantity

def ofInt (number : Int) : Quantity := ratio number 1 0

def ofBinary64 : Binary64 → Quantity
  | .nan => nan
  | .infinite negative => infinite negative
  | .finite negative units =>
    ratio (if negative then -units else units) (Nat.pow 2 Binary64.scale) 0

def ofScientific (negative : Bool) (number : Scientific) : Quantity :=
  ratio (if negative then -number.digits else number.digits) 1 number.exponent

/-- How `left · 10 ^ exponent` compares with another integer. Ten to a power has more than three
bits for each unit of the exponent. -/
def compareScaled (left : Int) (exponent : Nat) (right : Int) : Ordering :=
  if exponent = 0 ∨ left = 0 then compare left right
  else if right.natAbs.log2 < 3 * exponent then (if 0 < left then .gt else .lt)
  else compare (left * Nat.pow 10 exponent) right

/-- How two quantities compare, unless one of them is `nan`. -/
def compare? : Quantity → Quantity → Option Ordering
  | nan, _ | _, nan => none
  | infinite left, infinite right => some (compare right left)
  | infinite left, ratio .. => some (if left then .lt else .gt)
  | ratio .., infinite right => some (if right then .gt else .lt)
  | ratio leftNumerator leftDenominator leftExponent,
      ratio rightNumerator rightDenominator rightExponent =>
    let left := leftNumerator * rightDenominator
    let right := rightNumerator * leftDenominator
    some
      (if rightExponent ≤ leftExponent then
        compareScaled left (leftExponent - rightExponent).toNat right
      else (compareScaled right (rightExponent - leftExponent).toNat left).swap)

/-- Whether two quantities are the same number. -/
def same (left right : Quantity) : Bool := compare? left right == some .eq

theorem compare?_ofInt (left right : Int) :
    compare? (ofInt left) (ofInt right) = some (compare left right) := by
  simp [compare?, ofInt, compareScaled]

theorem same_ofInt (left right : Int) : same (ofInt left) (ofInt right) = (left == right) := by
  rw [same, compare?_ofInt, Bool.eq_iff_iff]
  simp

end Quantity

end PoolFees
