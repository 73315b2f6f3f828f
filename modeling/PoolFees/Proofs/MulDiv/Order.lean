import PoolFees.Proofs.MulDiv.Routes

/-!
# The order of quotients

A quotient that is an amount stays one when it gets smaller. So whenever the product of two numbers
divided by a third is present, it is also present for every smaller product, and what is known about
the order of the exact quotients holds for the results.

Two quotients with different divisors are compared crosswise, by the products of each number with
the divisor of the other one.
-/

namespace PoolFees.MulDiv

variable {left right divisor quotient : Nat}

theorem scaled?_eq_some_iff : scaled? left right divisor = some quotient ↔
    divisor ≠ 0 ∧ Fits amountWidth (left * right / divisor) ∧
      left * right / divisor = quotient := by
  unfold scaled?
  split
  · rename_i present
    simp only [Option.some.injEq, present.1, present.2, ne_eq, not_false_eq_true, true_and]
  · rename_i absent
    simp only [reduceCtorEq, false_iff]
    rintro ⟨notZero, fits, _⟩
    exact absent ⟨notZero, fits⟩

/-- A product that is not larger leads to a quotient as well. -/
theorem scaled?_of_mul_le {smaller smallerRight : Nat}
    (present : scaled? left right divisor = some quotient)
    (le : smaller * smallerRight ≤ left * right) :
    scaled? smaller smallerRight divisor = some (smaller * smallerRight / divisor) := by
  rcases scaled?_eq_some_iff.1 present with ⟨notZero, fits, _⟩
  exact scaled?_of_fits notZero (fits.of_le (Nat.div_le_div_right le))

/-- A factor that is not larger leads to a quotient as well. -/
theorem scaled?_of_le {smaller : Nat} (present : scaled? left right divisor = some quotient)
    (le : smaller ≤ left) :
    scaled? smaller right divisor = some (smaller * right / divisor) :=
  scaled?_of_mul_le present (Nat.mul_le_mul_right right le)

/-- Smaller factors and a larger divisor lead to a quotient as well, and it is not larger. -/
theorem scaled?_mono {smaller smallerRight largerDivisor : Nat}
    (present : scaled? left right divisor = some quotient) (leftLe : smaller ≤ left)
    (rightLe : smallerRight ≤ right) (divisorLe : divisor ≤ largerDivisor) :
    ∃ other, scaled? smaller smallerRight largerDivisor = some other ∧ other ≤ quotient := by
  rcases scaled?_eq_some_iff.1 present with ⟨notZero, fits, rfl⟩
  have le : smaller * smallerRight / largerDivisor ≤ left * right / divisor :=
    Nat.div_le_div (Nat.mul_le_mul leftLe rightLe) divisorLe notZero
  have largerNotZero : largerDivisor ≠ 0 := by omega
  exact ⟨_, scaled?_of_fits largerNotZero (fits.of_le le), le⟩

/-- Fractions that are compared crosswise have quotients in the same order. -/
theorem div_le_div_of_cross {number other otherDivisor : Nat} (positive : 0 < otherDivisor)
    (cross : number * otherDivisor ≤ other * divisor) :
    number / divisor ≤ other / otherDivisor := by
  rcases Nat.eq_zero_or_pos divisor with isZero | divisorPositive
  · subst isZero
    simp
  · rw [Nat.le_div_iff_mul_le positive]
    apply Nat.le_of_mul_le_mul_right _ divisorPositive
    calc number / divisor * otherDivisor * divisor
        = number / divisor * divisor * otherDivisor := Nat.mul_right_comm _ _ _
      _ ≤ number * otherDivisor := Nat.mul_le_mul_right _ (Nat.div_mul_le_self _ _)
      _ ≤ other * divisor := cross

end PoolFees.MulDiv
