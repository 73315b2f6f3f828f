import PoolFees.Rounding
import PoolFees.Scientific

/-!
# Binary floating-point numbers

A finite number of the 64-bit binary format is a whole multiple of its smallest positive number,
which is `2 ^ -1074`. `Binary64` keeps that multiple, so comparisons are exact and need no
arithmetic on rounded numbers. Reading a numeral is the only place where a number is rounded: to
the nearest representable number, and halfway between two of them to the one with an even
significand.
-/

namespace PoolFees

/-- A number of the 64-bit binary format. -/
inductive Binary64 where
  | nan
  | infinite (negative : Bool)
  /-- The number `± units · 2 ^ -1074`. -/
  | finite (negative : Bool) (units : Nat)
deriving DecidableEq, Repr, Inhabited

namespace Binary64

/-- The bits of a significand. -/
def precision : Nat := 53

/-- The exponent of the smallest positive number, negated. -/
def scale : Nat := 1074

/-- The first multiple of the smallest positive number that is too large. -/
def limit : Nat := Nat.pow 2 (1024 + scale)

/-- The number of low bits that a number of this size has no room for. -/
def excessBits (units : Nat) : Nat := units.log2 + 1 - precision

/-- The nearest representable number to a quotient. -/
def ofRatio (negative : Bool) (numerator denominator : Nat) : Binary64 :=
  let scaled := numerator * Nat.pow 2 scale
  let step := Nat.pow 2 (excessBits (scaled / denominator))
  let units := roundHalfEven scaled (denominator * step) * step
  if limit ≤ units then infinite negative else finite negative units

/-- Exponents beyond this bound decide alone whether a numeral is too large or rounds to zero. -/
def extremeExponent : Int := 400

/-- The nearest representable number to a number in powers of ten. -/
def ofScientific (negative : Bool) (number : Scientific) : Binary64 :=
  if number.digits = 0 then finite negative 0
  else if extremeExponent < number.pointPosition then infinite negative
  else if number.pointPosition < -extremeExponent then finite negative 0
  else ofRatio negative number.ratio.1 number.ratio.2

/-- Reads a numeral without a sign, or the name of a number that is not finite. -/
def readMagnitude? (negative : Bool) (text : List Char) : Option Binary64 :=
  match text.map Char.toLower with
  | ['i', 'n', 'f'] | ['i', 'n', 'f', 'i', 'n', 'i', 't', 'y'] => some (infinite negative)
  | ['n', 'a', 'n'] => some nan
  | _ => (Scientific.read? text).map (ofScientific negative)

end Binary64

end PoolFees
