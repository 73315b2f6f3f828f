import PoolFees.Proofs.Fee.Configured
import PoolFees.Proofs.MulDiv.Order

/-!
# The normalized fee and the size of the pool

The normalized fee scales the numerator of the trade rate by `n / (4 * (n - 1))` for a pool of `n`
coins. This factor is one half for two coins, it falls as the pool grows and it never goes below one
quarter. The scaled numerator is rounded down, so it keeps this order, and the lower bound is a
quarter of the numerator rounded down as well.

All these fees have the divisor of the trade rate. So the order of the numerators is that of the
fees, and a fee that is present makes every smaller one present.
-/

namespace PoolFees.Schedule

variable {schedule : Schedule} {size largerSize number fee : Nat}

/-- The scaled numerator is at most half of the numerator. -/
theorem two_mul_adjustedNumerator_le (several : 2 ≤ size) :
    2 * schedule.adjustedNumerator size ≤ schedule.trade.numerator.toNat := by
  have scaled : 2 * size ≤ 4 * (size - 1) := by omega
  calc 2 * schedule.adjustedNumerator size
      ≤ 2 * (schedule.trade.numerator.toNat * size) / (4 * (size - 1)) :=
        Nat.mul_div_le_mul_div_assoc 2 _ _
    _ ≤ schedule.trade.numerator.toNat := by
        apply Nat.div_le_of_le_mul
        rw [Nat.mul_left_comm, Nat.mul_comm (4 * (size - 1))]
        exact Nat.mul_le_mul_left _ scaled

/-- The scaled numerator does not grow with the pool. -/
theorem adjustedNumerator_antitone (several : 2 ≤ size) (le : size ≤ largerSize) :
    schedule.adjustedNumerator largerSize ≤ schedule.adjustedNumerator size := by
  apply MulDiv.div_le_div_of_cross
  · omega
  · have others : largerSize * (size - 1) ≤ size * (largerSize - 1) := by
      rw [Nat.mul_sub_one, Nat.mul_sub_one, Nat.mul_comm largerSize]
      exact Nat.sub_le_sub_left le _
    calc schedule.trade.numerator.toNat * largerSize * (4 * (size - 1))
        = schedule.trade.numerator.toNat * 4 * (largerSize * (size - 1)) :=
          Nat.mul_mul_mul_comm _ _ _ _
      _ ≤ schedule.trade.numerator.toNat * 4 * (size * (largerSize - 1)) :=
          Nat.mul_le_mul_left _ others
      _ = schedule.trade.numerator.toNat * size * (4 * (largerSize - 1)) :=
          Nat.mul_mul_mul_comm _ _ _ _

/-- The scaled numerator is at least a quarter of the numerator. -/
theorem quarter_le_adjustedNumerator (several : 2 ≤ size) :
    schedule.trade.numerator.toNat / 4 ≤ schedule.adjustedNumerator size := by
  apply MulDiv.div_le_div_of_cross
  · omega
  · have others : 4 * (size - 1) ≤ size * 4 := by omega
    rw [Nat.mul_assoc]
    exact Nat.mul_le_mul_left _ others

/-- A trade fee that is present makes the normalized fee present, which is at most half of it. -/
theorem scaled?_adjusted_of_trade (several : 2 ≤ size)
    (present : MulDiv.scaled? number schedule.trade.numerator.toNat
      schedule.trade.denominator.toNat = some fee) :
    ∃ normalized, MulDiv.scaled? number (schedule.adjustedNumerator size)
        schedule.trade.denominator.toNat = some normalized ∧ 2 * normalized ≤ fee := by
  have half := schedule.two_mul_adjustedNumerator_le several
  have le : number * schedule.adjustedNumerator size ≤ number * schedule.trade.numerator.toNat :=
    Nat.mul_le_mul_left _ (schedule.adjustedNumerator_le several)
  refine ⟨_, MulDiv.scaled?_of_mul_le present le, ?_⟩
  rcases MulDiv.scaled?_eq_some_iff.1 present with ⟨_, _, rfl⟩
  calc 2 * (number * schedule.adjustedNumerator size / schedule.trade.denominator.toNat)
      ≤ 2 * (number * schedule.adjustedNumerator size) / schedule.trade.denominator.toNat :=
        Nat.mul_div_le_mul_div_assoc 2 _ _
    _ ≤ number * schedule.trade.numerator.toNat / schedule.trade.denominator.toNat := by
        apply Nat.div_le_div_right
        rw [Nat.mul_left_comm]
        exact Nat.mul_le_mul_left number half

/-- A normalized fee that is present makes those of larger pools present, which are not larger and
at least the fee for a quarter of the numerator. -/
theorem scaled?_adjusted_of_smaller (several : 2 ≤ size) (le : size ≤ largerSize)
    (present : MulDiv.scaled? number (schedule.adjustedNumerator size)
      schedule.trade.denominator.toNat = some fee) :
    ∃ smaller, MulDiv.scaled? number (schedule.adjustedNumerator largerSize)
        schedule.trade.denominator.toNat = some smaller ∧ smaller ≤ fee ∧
      number * (schedule.trade.numerator.toNat / 4) / schedule.trade.denominator.toNat ≤
        smaller := by
  have product_le : number * schedule.adjustedNumerator largerSize ≤
      number * schedule.adjustedNumerator size :=
    Nat.mul_le_mul_left _ (schedule.adjustedNumerator_antitone several le)
  refine ⟨_, MulDiv.scaled?_of_mul_le present product_le, ?_, ?_⟩
  · rcases MulDiv.scaled?_eq_some_iff.1 present with ⟨_, _, rfl⟩
    exact Nat.div_le_div_right product_le
  · apply Nat.div_le_div_right
    exact Nat.mul_le_mul_left _ (schedule.quarter_le_adjustedNumerator (Nat.le_trans several le))

variable {store : Store} {coins otherCoins amount : Value}

/-- When the trade fee on an amount is present, so is the normalized fee, and twice of it is at most
the trade fee. When the normalized fee is present for some pool, it is present for every larger pool
that has one, where it is not larger but still no less than the trade fee would be at a quarter of
the numerator. -/
theorem normalizedFee_of_poolSizes (coinsDenote : store.Denotes coins size)
    (otherDenote : store.Denotes otherCoins largerSize)
    (amountDenotes : store.Denotes amount number) (fits : Fits MulDiv.amountWidth number)
    (several : 2 ≤ size) (le : size ≤ largerSize) (few : largerSize ≤ 64) :
    (∀ tradeFee, (schedule.rateFee store .trade amount).result = .ok (some tradeFee) →
      ∃ fee, (schedule.normalizedFee store coins amount).result = .ok (some fee) ∧
        2 * fee ≤ tradeFee) ∧
    ∀ fee, (schedule.normalizedFee store coins amount).result = .ok (some fee) →
      ∃ smaller, (schedule.normalizedFee store otherCoins amount).result = .ok (some smaller) ∧
        smaller ≤ fee ∧
        number * (schedule.trade.numerator.toNat / 4) / schedule.trade.denominator.toNat ≤
          smaller := by
  rw [schedule.rateFee_of_denotes .trade amountDenotes fits,
    normalizedFee_of_denotes coinsDenote several (Nat.le_trans le few) amountDenotes fits,
    normalizedFee_of_denotes otherDenote (Nat.le_trans several le) few amountDenotes fits]
  simp only [Traced.noting_result, Except.ok.injEq]
  constructor
  · intro tradeFee present
    exact scaled?_adjusted_of_trade several present
  · intro fee present
    exact scaled?_adjusted_of_smaller several le present

/-- Of the largest amount seven ninths are charged on a trade, three ninths for two coins and two
ninths for four. -/
theorem normalizedFee_of_two_and_four_coins :
    let schedule : Schedule := ⟨⟨0, 0⟩, ⟨0, 0⟩, ⟨7, 9⟩, ⟨0, 0⟩⟩
    let amount : Value := .whole 18446744073709551615
    let four : Value := .word ⟨⟨8, by decide⟩, 4, by decide⟩ []
    (schedule.rateFee .empty .trade amount).result = .ok (some 14347467612885206811) ∧
      (∃ fee, (schedule.normalizedFee .empty (.whole 2) amount).result = .ok (some fee) ∧
        2 * fee ≤ 14347467612885206811) ∧
      (schedule.normalizedFee .empty (.whole 2) amount).result =
        .ok (some 6148914691236517205) ∧
      ∃ smaller, (schedule.normalizedFee .empty four amount).result = .ok (some smaller) ∧
        smaller ≤ 6148914691236517205 ∧ 18446744073709551615 * (7 / 4) / 9 ≤ smaller := by
  have tradeFee : (rateFee ⟨⟨0, 0⟩, ⟨0, 0⟩, ⟨7, 9⟩, ⟨0, 0⟩⟩ .empty .trade
      (.whole 18446744073709551615)).result = .ok (some 14347467612885206811) := rfl
  have twoCoins : (normalizedFee ⟨⟨0, 0⟩, ⟨0, 0⟩, ⟨7, 9⟩, ⟨0, 0⟩⟩ .empty (.whole 2)
      (.whole 18446744073709551615)).result = .ok (some 6148914691236517205) := rfl
  intro schedule amount four
  have compared := @normalizedFee_of_poolSizes schedule 2 4 18446744073709551615 .empty (.whole 2)
    four amount (.inl rfl) (.inr ⟨_, rfl⟩) (.inl rfl) (by decide) (by decide) (by decide)
    (by decide)
  exact ⟨tradeFee, compared.1 _ tradeFee, twoCoins, compared.2 _ twoCoins⟩

end PoolFees.Schedule
