import PoolFees.Origin
import PoolFees.Scientific
import PoolFees.Word

/-!
# Fixed-point numbers for display

Token amounts are integers that are scaled by a power of ten. A fixed-point number pairs such an
integer with its count of decimal places and exists to be shown: `FixedPoint.text?` inserts the
point.

Both parts may be given as bare integers or as words of any width, and they are kept as they were
given. Only a bare count of places can be compared with a length, so a number whose places are a
word has no text.
-/

namespace PoolFees

/-- An integer, either bare or bound to a width. -/
inductive Integral where
  | whole (number : Int)
  | word (bound : Word) (origin : Origin)
deriving DecidableEq

namespace Integral

/-- The integer itself. -/
def value : Integral → Int
  | whole number => number
  | word bound _ => bound.value

/-- An integer fits a width when it is not negative and that many bits hold it. -/
def FitsIn (number : Integral) (bits : Nat) : Prop :=
  0 ≤ number.value ∧ Fits bits number.value.toNat

/-- Checks that an integer fits a width. -/
def checkFits (number : Integral) (width : Width) :
    Except Fault (PLift (number.FitsIn width.bits)) :=
  match bound : Word.ofIntAt width number.value with
  | .error fault => .error fault
  | .ok _ => .ok ⟨Word.fits_of_ofIntAt_eq_ok bound⟩

end Integral

/-- A scaled integer of 128 bits with a count of decimal places of 32 bits. -/
structure FixedPoint where
  magnitude : Integral
  places : Integral
  magnitude_fits : magnitude.FitsIn 128
  places_fits : places.FitsIn 32
deriving DecidableEq

namespace FixedPoint

/-- Inserts a point so that the given count of digits follows it. Zeros are put in front where the
digits do not reach to the point. -/
def insertPoint (digits : List Char) (places : Nat) : List Char :=
  if digits.length ≤ places then
    '0' :: '.' :: (List.replicate (places - digits.length) '0' ++ digits)
  else
    digits.take (digits.length - places) ++ '.' :: digits.drop (digits.length - places)

/-- The text of a number, with a point also when no digit follows it. -/
def text? (number : FixedPoint) : Except Fault (List Char) :=
  match number.places with
  | .whole places =>
    .ok (insertPoint (Numeral.digits number.magnitude.value.toNat) places.toNat)
  | .word .. => refuse (.notComparable "<=" "int" "CheckedUint")

/-- Numbers are equal when both of their parts are, whatever their representation. -/
def same (left right : FixedPoint) : Bool :=
  left.magnitude.value == right.magnitude.value && left.places.value == right.places.value

end FixedPoint

end PoolFees
