import PoolFees.Proofs.Fee.Configured
import PoolFees.Proofs.MulDiv.Order

/-!
# Rates as fractions

A rate is written as two numbers, but only their fraction matters. A rate with a scaled numerator
and denominator may be computed on the wide route where the other one is computed on the narrow
route, and both give the same fee on every amount, or none of them gives one.

Both routes are exact, so it is enough to compare the quotients. They are equal when the numerators
are equal crosswise, that is when each is multiplied with the denominator of the other rate. A zero
denominator has to be excluded here, because then the products are zero for every other rate without
a numerator.
-/

namespace PoolFees

namespace MulDiv

variable {right divisor otherRight otherDivisor : Nat}

/-- Fractions that are equal crosswise have equal quotients. -/
theorem div_eq_div_of_cross {number other : Nat} (positive : 0 < divisor)
    (otherPositive : 0 < otherDivisor) (cross : number * otherDivisor = other * divisor) :
    number / divisor = other / otherDivisor := by
  apply Nat.le_antisymm
  · exact div_le_div_of_cross otherPositive (Nat.le_of_eq cross)
  · exact div_le_div_of_cross positive (Nat.le_of_eq cross.symm)

/-- Equal fractions of a number are present in the same cases, and equal. -/
theorem scaled?_of_cross (positive : 0 < divisor) (otherPositive : 0 < otherDivisor)
    (cross : right * otherDivisor = otherRight * divisor) (left : Nat) :
    scaled? left right divisor = scaled? left otherRight otherDivisor := by
  have quotient_eq : left * right / divisor = left * otherRight / otherDivisor := by
    apply div_eq_div_of_cross positive otherPositive
    rw [Nat.mul_assoc, cross, Nat.mul_assoc]
  simp only [scaled?, quotient_eq, Nat.ne_of_gt positive, Nat.ne_of_gt otherPositive, ne_eq,
    not_false_eq_true, true_and]

end MulDiv

/-- Two rates are the same fraction of an amount. -/
def Rate.IsSameFraction (rate other : Rate) : Prop :=
  0 < rate.denominator ∧ 0 < other.denominator ∧
    rate.numerator.toNat * other.denominator.toNat = other.numerator.toNat * rate.denominator.toNat

instance (rate other : Rate) : Decidable (rate.IsSameFraction other) :=
  inferInstanceAs (Decidable (_ ∧ _ ∧ _))

namespace Schedule

variable {schedule other : Schedule} {store otherStore : Store} {amount otherAmount : Value}
  {number : Nat}

/-- Rates that are the same fraction charge the same on every amount, whichever of the proportional
fees they belong to, whatever the other rates of the two schedules are and however the amount is
held. -/
theorem rateFee_of_sameFraction {fee otherFee : RateFee}
    (same : (schedule.rate fee).IsSameFraction (other.rate otherFee))
    (denotes : store.Denotes amount number) (otherDenotes : otherStore.Denotes otherAmount number)
    (fits : Fits MulDiv.amountWidth number) :
    (schedule.rateFee store fee amount).result =
      (other.rateFee otherStore otherFee otherAmount).result := by
  rcases same with ⟨positive, otherPositive, cross⟩
  rw [schedule.rateFee_of_denotes fee denotes fits, other.rateFee_of_denotes otherFee otherDenotes
    fits, MulDiv.scaled?_of_cross (UInt64.lt_iff_toNat_lt.1 positive)
    (UInt64.lt_iff_toNat_lt.1 otherPositive) cross]

/-- Scaled by 131072, the numerator of one quarter is above the limit of the narrow route. -/
theorem rateFee_of_scaled_quarter :
    let quarter : Schedule := ⟨⟨0, 0⟩, ⟨0, 0⟩, ⟨1, 4⟩, ⟨0, 0⟩⟩
    let scaled : Schedule := ⟨⟨5, 1⟩, ⟨1, 2⟩, ⟨131072, 524288⟩, ⟨3, 0⟩⟩
    let amount : Value := .word ⟨⟨128, by decide⟩, 1099511627779, by decide⟩ []
    MulDiv.imbalanced.right < scaled.trade.numerator.toNat ∧
      quarter.trade.IsSameFraction scaled.trade ∧
      (quarter.rateFee .empty .trade (.whole 1099511627779)).result = .ok (some 274877906944) ∧
      (quarter.rateFee .empty .trade (.whole 1099511627779)).result =
        (scaled.rateFee .empty .trade amount).result := by
  have charged : (rateFee ⟨⟨0, 0⟩, ⟨0, 0⟩, ⟨1, 4⟩, ⟨0, 0⟩⟩ .empty .trade
      (.whole 1099511627779)).result = .ok (some 274877906944) := rfl
  intro quarter scaled amount
  have same : quarter.trade.IsSameFraction scaled.trade := by decide
  exact ⟨by decide, same, charged, @rateFee_of_sameFraction quarter scaled .empty .empty
    (.whole 1099511627779) amount 1099511627779 .trade .trade same (.inl rfl) (.inr ⟨_, rfl⟩)
    (by decide)⟩

end Schedule

end PoolFees
