/-!
# Rounding

A quotient that has to become a whole number goes to the nearest one. Halfway between two of them it
goes to the even one, so that errors do not add up in one direction.
-/

namespace PoolFees

/-- The quotient of two numbers, rounded to the nearest whole number and from halfway to an even
one. -/
def roundHalfEven (numerator denominator : Nat) : Nat :=
  let quotient := numerator / denominator
  let remainder := numerator % denominator
  if 2 * remainder < denominator then quotient
  else if denominator < 2 * remainder then quotient + 1
  else quotient + quotient % 2

end PoolFees
