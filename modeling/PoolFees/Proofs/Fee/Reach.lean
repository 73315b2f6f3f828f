import Mathlib.Algebra.Order.Floor.Div
import PoolFees.Proofs.Fee.Configured
import PoolFees.Proofs.MulDiv.Order

/-!
# The reach of a fee

When three amounts have a quotient, so have all smaller factors and larger divisors, and their
quotient is not larger. This holds across the limits at which the route changes, because the routes
are exact.

For a proportional fee two of the three amounts are fixed by the rate. So the amounts that it is
present on are the first ones, up to the reach of the rate: below the capacity of 64 bits times the
denominator over the numerator, and nowhere without a denominator.
-/

namespace PoolFees

namespace MulDiv

/-- The count of amounts of which a fraction is an amount as well. -/
def reach (numerator denominator : Nat) : Nat :=
  if denominator = 0 then 0
  else if numerator = 0 then capacity amountWidth
  else min (capacity amountWidth) ((capacity amountWidth * denominator) ⌈/⌉ numerator)

/-- The amounts of which a fraction is an amount are those below its reach. -/
theorem present_iff_lt_reach {number numerator denominator : Nat} (fits : Fits amountWidth number) :
    (∃ part, scaled? number numerator denominator = some part) ↔
      number < reach numerator denominator := by
  simp only [scaled?_eq_some_iff, exists_and_left, exists_eq', and_true, reach]
  by_cases isZero : denominator = 0
  · simp only [isZero, ne_eq, not_true_eq_false, false_and, if_true, Nat.not_lt_zero]
  · have positive : 0 < denominator := Nat.pos_of_ne_zero isZero
    have capacityPositive : 0 < capacity amountWidth := Nat.two_pow_pos amountWidth
    simp only [isZero, ne_eq, not_false_eq_true, true_and, if_false, Fits,
      Nat.div_lt_iff_lt_mul positive]
    by_cases nothing : numerator = 0
    · simp only [nothing, Nat.mul_zero, if_true]
      exact iff_of_true (Nat.mul_pos capacityPositive positive) fits
    · have reached : number < (capacity amountWidth * denominator) ⌈/⌉ numerator ↔
          number * numerator < capacity amountWidth * denominator := by
        rw [← Nat.not_le, ceilDiv_le_iff_le_mul (Nat.pos_of_ne_zero nothing), Nat.not_le,
          Nat.mul_comm numerator]
      rw [if_neg nothing, Nat.lt_min, reached]
      exact (and_iff_right fits).symm

end MulDiv

namespace Store

/-- A value that denotes an amount of 64 bits. -/
structure Operand (store : Store) where
  value : Value
  amount : UInt64
  denotes : store.Denotes value amount.toNat

variable {store : Store}

theorem mulDiv_operands (limits : MulDiv.Limits) (left right divisor : store.Operand) :
    store.mulDiv limits left.value right.value divisor.value =
      .ok (MulDiv.scaled? left.amount.toNat right.amount.toNat divisor.amount.toNat) :=
  mulDiv_eq_scaled? limits (bind_amount left.denotes left.amount.toNat_lt)
    (bind_amount right.denotes right.amount.toNat_lt)
    (bind_amount divisor.denotes divisor.amount.toNat_lt)

theorem rateFee_operand (schedule : Schedule) (fee : RateFee) (operand : store.Operand) :
    (schedule.rateFee store fee operand.value).result =
      .ok (MulDiv.scaled? operand.amount.toNat (schedule.rate fee).numerator.toNat
        (schedule.rate fee).denominator.toNat) :=
  schedule.rateFee_of_denotes fee operand.denotes operand.amount.toNat_lt

/-- A quotient of amounts that is present is also present for smaller factors and a larger divisor,
and it is not larger there. So a proportional fee is present exactly on the amounts below the reach
of its rate, and among these it does not fall as the amount grows. -/
theorem mulDiv_and_rateFee_monotone (store : Store) :
    (∀ (limits : MulDiv.Limits)
      (left right divisor largerLeft largerRight smallerDivisor : store.Operand) (quotient : Nat),
      left.amount ≤ largerLeft.amount → right.amount ≤ largerRight.amount →
      smallerDivisor.amount ≤ divisor.amount →
      store.mulDiv limits largerLeft.value largerRight.value smallerDivisor.value =
        .ok (some quotient) →
      ∃ smaller, store.mulDiv limits left.value right.value divisor.value = .ok (some smaller) ∧
        smaller ≤ quotient) ∧
    ∀ (schedule : Schedule) (fee : RateFee),
      let charge (operand : store.Operand) := (schedule.rateFee store fee operand.value).result
      let rate := schedule.rate fee
      (∀ operand, (∃ part, charge operand = .ok (some part)) ↔
        operand.amount.toNat < MulDiv.reach rate.numerator.toNat rate.denominator.toNat) ∧
      ∀ operand larger part, operand.amount ≤ larger.amount → charge larger = .ok (some part) →
        ∃ smaller, charge operand = .ok (some smaller) ∧ smaller ≤ part := by
  constructor
  · intro limits left right divisor largerLeft largerRight smallerDivisor quotient leftLe rightLe
      divisorLe present
    simp only [mulDiv_operands, Except.ok.injEq] at present ⊢
    exact MulDiv.scaled?_mono present leftLe rightLe divisorLe
  · intro schedule fee charge rate
    simp only [charge, rateFee_operand, Except.ok.injEq]
    constructor
    · intro operand
      exact MulDiv.present_iff_lt_reach operand.amount.toNat_lt
    · intro operand larger part le present
      exact MulDiv.scaled?_mono present le (Nat.le_refl _) (Nat.le_refl _)

/-- One more than the limit of the narrow route is multiplied on the wide route. At a rate of 3 to 1
the fee reaches up to a third of the largest amount. -/
theorem monotone_across_limits :
    let bare (amount : UInt64) : Store.empty.Operand := ⟨.whole amount.toNat, amount, .inl rfl⟩
    let triple : Schedule := ⟨⟨0, 0⟩, ⟨0, 0⟩, ⟨3, 1⟩, ⟨0, 0⟩⟩
    (Store.empty.mulDiv MulDiv.balanced (.whole 4294967297) (.whole 5) (.whole 3) =
        .ok (some 7158278828) ∧
      ∃ smaller, Store.empty.mulDiv MulDiv.balanced (.whole 4294967296) (.whole 5) (.whole 4) =
          .ok (some smaller) ∧ smaller ≤ 7158278828) ∧
    (∃ part, (triple.rateFee .empty .trade (bare 6148914691236517205).value).result =
      .ok (some part)) ∧
    ¬∃ part, (triple.rateFee .empty .trade (bare 6148914691236517206).value).result =
      .ok (some part) := by
  have present : Store.empty.mulDiv MulDiv.balanced (.whole 4294967297) (.whole 5) (.whole 3) =
      .ok (some 7158278828) := rfl
  intro bare triple
  rcases mulDiv_and_rateFee_monotone .empty with ⟨ordered, reaches⟩
  refine ⟨⟨present, ?_⟩, ?_, ?_⟩
  · exact ordered MulDiv.balanced (bare 4294967296) (bare 5) (bare 4) (bare 4294967297) (bare 5)
      (bare 3) _ (by decide) (by decide) (by decide) present
  · exact ((reaches triple .trade).1 (bare 6148914691236517205)).2 (by decide)
  · intro charged
    have within := ((reaches triple .trade).1 (bare 6148914691236517206)).1 charged
    exact absurd within (by decide)

end Store

end PoolFees
