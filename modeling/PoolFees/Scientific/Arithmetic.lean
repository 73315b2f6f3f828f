import PoolFees.Fault
import PoolFees.Rounding
import PoolFees.Scientific

/-!
# Arithmetic on numbers in powers of ten

A result keeps `precision` digits: it is the exact one, rounded to the nearest number with so many
digits, and halfway to the one that ends in an even digit. Numbers below the least exponent lose
digits in the same way. A result whose first digit stands above the greatest exponent is refused,
and so is a whole quotient with more digits than are kept.

Exponents can differ by more than there is room for digits. A number that is far below the last
digit that is kept only decides in which direction the other one is rounded, so a single digit takes
its place.
-/

namespace PoolFees

namespace Scientific

/-- The number of digits that a result keeps. -/
def precision : Nat := 28

/-- The greatest exponent of the first digit of a result. -/
def maxExponent : Int := 999999

/-- The least exponent of the last digit of a result. -/
def minExponent : Int := -1000026

/-- The number rounded to a multiple of a power of ten. -/
def roundAt (number : Scientific) (exponent : Int) : Scientific :=
  if exponent ≤ number.exponent then number
  else if number.pointPosition < exponent then ⟨0, exponent⟩
  else
    ⟨roundHalfEven number.digits (Nat.pow 10 (exponent - number.exponent).toNat), exponent⟩

/-- The number as a result. -/
def settle (number : Scientific) : Except Fault Scientific :=
  let rounded := number.roundAt (max (number.pointPosition - precision) minExponent)
  if rounded.digits ≠ 0 ∧ maxExponent < rounded.pointPosition - 1 then
    refuse (.scientific .overflow)
  else .ok rounded

/-- Whether the whole part of a quotient has more digits than a result keeps. The divisor is not
zero. -/
def quotientTooLong (left right : Scientific) : Bool :=
  if left.digits = 0 || left.pointPosition < right.pointPosition then false
  else if precision < left.pointPosition - right.pointPosition then true
  else
    let exponent := min left.exponent right.exponent
    let dividend := left.digits * Nat.pow 10 (left.exponent - exponent).toNat
    let divisor := right.digits * Nat.pow 10 (right.exponent - exponent).toNat
    Nat.pow 10 precision ≤ dividend / divisor

end Scientific

/-- A number in powers of ten with its sign. -/
structure SignedScientific where
  negative : Bool
  magnitude : Scientific
deriving DecidableEq, Repr, Inhabited

namespace SignedScientific

/-- An integer with its sign. -/
def ofInt (number : Int) : SignedScientific := ⟨number < 0, ⟨number.natAbs, 0⟩⟩

/-- The digits with the sign, at an exponent that is not above that of the number. -/
def digitsAt (number : SignedScientific) (exponent : Int) : Int :=
  let digits :=
    number.magnitude.digits * Nat.pow 10 (number.magnitude.exponent - exponent).toNat
  if number.negative then -digits else digits

/-- The number with the other sign. -/
def negate (number : SignedScientific) : SignedScientific :=
  { number with negative := !number.negative }

/-- A single digit in the place of a number that is far below the last digit that a result keeps of
another number. -/
def besides (small large : SignedScientific) : SignedScientific :=
  let lowest :=
    min large.magnitude.exponent (large.magnitude.pointPosition - Scientific.precision) - 2
  if small.magnitude.pointPosition < lowest then ⟨small.negative, ⟨1, lowest⟩⟩ else small

/-- The exact difference, or a number that is rounded to the same result. -/
def difference (left right : SignedScientific) : SignedScientific :=
  if right.magnitude.digits = 0 then left
  else if left.magnitude.digits = 0 then right.negate
  else
    let minuend := left.besides right
    let subtrahend := right.besides left
    let exponent := min minuend.magnitude.exponent subtrahend.magnitude.exponent
    let digits := minuend.digitsAt exponent - subtrahend.digitsAt exponent
    ⟨digits < 0, ⟨digits.natAbs, exponent⟩⟩

/-- The number as a result. -/
def settle (number : SignedScientific) : Except Fault SignedScientific :=
  number.magnitude.settle.map fun magnitude => ⟨number.negative, magnitude⟩

/-- The difference of two numbers. -/
def sub (left right : SignedScientific) : Except Fault SignedScientific :=
  (left.difference right).settle

/-- The product of two numbers. -/
def mul (left right : SignedScientific) : Except Fault SignedScientific :=
  settle ⟨left.negative != right.negative,
    ⟨left.magnitude.digits * right.magnitude.digits,
      left.magnitude.exponent + right.magnitude.exponent⟩⟩

end SignedScientific

end PoolFees
