import Mathlib.Algebra.Order.Floor.Div
import PoolFees.Proofs.Fee.Required

/-!
# The cost of rounding twice

Some fees are computed in two steps, each of which rounds down: a first quotient is multiplied by a
factor and divided once more. The first rounding loses less than one unit, but the factor multiplies
this loss. So the result is never above the quotient that is rounded once, and the difference is at
most the factor over the second divisor, rounded up.

For the normalized fee the first quotient is the scaled numerator and the factor is the amount. For
the administrator's share the first quotient is the fee on the amount and the factor is the
numerator of the share. When this numerator divides its denominator the factor cancels, and nothing
is lost.
-/

namespace PoolFees

namespace MulDiv

variable {divisor otherDivisor : Nat}

/-- Rounding down in between does not make a quotient larger. -/
theorem twiceRounded_le (number factor divisor otherDivisor : Nat) :
    number / divisor * factor / otherDivisor ≤ number * factor / (divisor * otherDivisor) := by
  rw [← Nat.div_div_eq_div_mul]
  apply Nat.div_le_div_right
  rw [Nat.mul_comm, Nat.mul_comm number]
  exact Nat.mul_div_le_mul_div_assoc factor number divisor

/-- Rounding down in between costs no more than the factor over the second divisor. -/
theorem le_twiceRounded (positive : 0 < divisor) (otherPositive : 0 < otherDivisor)
    (number factor : Nat) :
    number * factor / (divisor * otherDivisor) ≤
      number / divisor * factor / otherDivisor + factor ⌈/⌉ otherDivisor := by
  -- What the first rounding loses is less than one unit, and the factor multiplies it.
  have lost : number ≤ divisor * (number / divisor + 1) :=
    Nat.le_of_lt (Nat.lt_mul_div_succ number positive)
  have covered : factor ≤ otherDivisor * (factor ⌈/⌉ otherDivisor) :=
    (ceilDiv_le_iff_le_mul otherPositive).1 (Nat.le_refl _)
  calc number * factor / (divisor * otherDivisor)
      = number * factor / divisor / otherDivisor := (Nat.div_div_eq_div_mul _ _ _).symm
    _ ≤ (number / divisor * factor + factor) / otherDivisor := by
        apply Nat.div_le_div_right
        apply Nat.div_le_of_le_mul
        rw [← Nat.succ_mul, ← Nat.mul_assoc]
        exact Nat.mul_le_mul_right factor lost
    _ ≤ (number / divisor * factor + otherDivisor * (factor ⌈/⌉ otherDivisor)) / otherDivisor :=
        Nat.div_le_div_right (Nat.add_le_add_left covered _)
    _ = number / divisor * factor / otherDivisor + factor ⌈/⌉ otherDivisor :=
        Nat.add_mul_div_left _ _ otherPositive

/-- A factor that divides the second divisor cancels, so rounding down in between costs nothing. -/
theorem twiceRounded_of_dvd {factor : Nat} (divides : factor ∣ otherDivisor)
    (otherPositive : 0 < otherDivisor) (number divisor : Nat) :
    number / divisor * factor / otherDivisor = number * factor / (divisor * otherDivisor) := by
  have factorPositive : 0 < factor := Nat.pos_of_dvd_of_pos divides otherPositive
  rcases divides with ⟨rest, rfl⟩
  calc number / divisor * factor / (factor * rest)
      = number / divisor / rest := by
        rw [Nat.mul_comm factor, Nat.mul_div_mul_right _ _ factorPositive]
    _ = number / (divisor * rest) := Nat.div_div_eq_div_mul _ _ _
    _ = number * factor / (divisor * (factor * rest)) := by
        rw [Nat.mul_comm factor, ← Nat.mul_assoc, Nat.mul_div_mul_right _ _ factorPositive]

end MulDiv

namespace Schedule

variable {schedule : Schedule} {store : Store} {coins amount : Value} {size number fee : Nat}

/-- A normalized fee that is present is at most the fee that is rounded once, and it falls short of
it by no more than the amount over the denominator of the trade rate, rounded up. -/
theorem normalizedFee_truncation (coinsDenote : store.Denotes coins size) (several : 2 ≤ size)
    (few : size ≤ 64) (amountDenotes : store.Denotes amount number)
    (fits : Fits MulDiv.amountWidth number)
    (present : (schedule.normalizedFee store coins amount).result = .ok (some fee)) :
    let numerator := schedule.trade.numerator.toNat
    let denominator := schedule.trade.denominator.toNat
    let exactFee := number * numerator * size / (4 * (size - 1) * denominator)
    fee ≤ exactFee ∧ exactFee ≤ fee + number ⌈/⌉ denominator := by
  intro numerator denominator exactFee
  rw [normalizedFee_of_denotes coinsDenote several few amountDenotes fits,
    Traced.noting_result, Except.ok.injEq, MulDiv.scaled?_eq_some_iff] at present
  rcases present with ⟨notZero, _, fee_eq⟩
  have twiceRounded : fee = numerator * size / (4 * (size - 1)) * number / denominator := by
    rw [← fee_eq, Nat.mul_comm number]
    rfl
  have onceRounded : exactFee =
      numerator * size * number / (4 * (size - 1) * denominator) := by
    rw [Nat.mul_comm (numerator * size), ← Nat.mul_assoc]
  rw [onceRounded, twiceRounded]
  constructor
  · exact MulDiv.twiceRounded_le _ _ _ _
  · have positive : 0 < 4 * (size - 1) := by omega
    exact MulDiv.le_twiceRounded positive (Nat.pos_of_ne_zero notZero) _ _

/-- The difference can be as large as the bound: a rate of 5 to 3 is scaled to 1 to 3 for three
coins, so that 2 are charged on 8 where 5 would be, and 8 over 3 is 3 when rounded up. -/
theorem normalizedFee_truncation_of_three_coins :
    let result := (normalizedFee ⟨⟨0, 0⟩, ⟨0, 0⟩, ⟨5, 3⟩, ⟨0, 0⟩⟩ .empty
      (.word ⟨⟨64, by decide⟩, 3, by decide⟩ []) (.whole 8)).result
    result = .ok (some 2) ∧ 2 ≤ 8 * 5 * 3 / (4 * (3 - 1) * 3) ∧
      8 * 5 * 3 / (4 * (3 - 1) * 3) ≤ 2 + 8 ⌈/⌉ 3 := by
  have present : (normalizedFee ⟨⟨0, 0⟩, ⟨0, 0⟩, ⟨5, 3⟩, ⟨0, 0⟩⟩ .empty
      (.word ⟨⟨64, by decide⟩, 3, by decide⟩ []) (.whole 8)).result = .ok (some 2) := rfl
  exact ⟨present, normalizedFee_truncation (.inr ⟨_, rfl⟩) (by decide) (by decide) (.inl rfl)
    (by decide) present⟩

/-- The administrator's share of a fee is at most the share that is rounded once, and it falls short
of it by no more than the rate of the share, rounded up. The two are equal when the numerator of
that rate divides its denominator. -/
theorem share_truncation (occasion : Occasion) {later : Store} {share : Nat}
    (denotes : store.Denotes amount number) (fits : Fits MulDiv.amountWidth number)
    (charged : (schedule.rateFee store occasion.fee amount).result = .ok (some fee))
    (shared : (schedule.rateFee later occasion.share (.whole fee)).result = .ok (some share)) :
    let rate := schedule.rate occasion.fee
    let shareRate := schedule.rate occasion.share
    let exactShare := number * rate.numerator.toNat * shareRate.numerator.toNat /
      (rate.denominator.toNat * shareRate.denominator.toNat)
    share ≤ exactShare ∧
      exactShare ≤ share + shareRate.numerator.toNat ⌈/⌉ shareRate.denominator.toNat ∧
      (shareRate.numerator.toNat ∣ shareRate.denominator.toNat → share = exactShare) := by
  intro rate shareRate exactShare
  rw [schedule.rateFee_of_denotes occasion.fee denotes fits, Except.ok.injEq,
    MulDiv.scaled?_eq_some_iff] at charged
  rcases charged with ⟨notZero, feeFits, fee_eq⟩
  rw [fee_eq] at feeFits
  rw [schedule.rateFee_of_denotes occasion.share (.inl rfl) feeFits, Except.ok.injEq,
    MulDiv.scaled?_eq_some_iff] at shared
  rcases shared with ⟨shareNotZero, _, share_eq⟩
  rw [← fee_eq] at share_eq
  rw [← share_eq]
  refine ⟨?_, ?_, ?_⟩
  · exact MulDiv.twiceRounded_le _ _ _ _
  · exact MulDiv.le_twiceRounded (Nat.pos_of_ne_zero notZero) (Nat.pos_of_ne_zero shareNotZero) _ _
  · intro divides
    exact MulDiv.twiceRounded_of_dvd divides (Nat.pos_of_ne_zero shareNotZero) _ _

/-- One fifth of 9 is rounded down to 1, of which the share at a rate of 5 to 3 is 1 as well.
Rounded once it would be 3, so the bound is reached. On trades the numerator of the share divides
its denominator. -/
theorem share_truncation_of_nine :
    let fee (kind : RateFee) (amount : Value) :=
      (rateFee ⟨⟨2, 6⟩, ⟨5, 3⟩, ⟨2, 3⟩, ⟨1, 5⟩⟩ .empty kind amount).result
    let nine : Value := .word ⟨⟨8, by decide⟩, 9, by decide⟩ []
    (fee .withdraw nine = .ok (some 1) ∧ fee .adminWithdraw (.whole 1) = .ok (some 1) ∧
      1 ≤ 9 * 1 * 5 / (5 * 3) ∧ 9 * 1 * 5 / (5 * 3) ≤ 1 + 5 ⌈/⌉ 3) ∧
    fee .trade nine = .ok (some 6) ∧ fee .adminTrade (.whole 6) = .ok (some 2) ∧
      2 = 9 * 2 * 2 / (3 * 6) := by
  have withdrawFee : (rateFee ⟨⟨2, 6⟩, ⟨5, 3⟩, ⟨2, 3⟩, ⟨1, 5⟩⟩ .empty .withdraw
      (.word ⟨⟨8, by decide⟩, 9, by decide⟩ [])).result = .ok (some 1) := rfl
  have withdrawShare : (rateFee ⟨⟨2, 6⟩, ⟨5, 3⟩, ⟨2, 3⟩, ⟨1, 5⟩⟩ .empty .adminWithdraw
      (.whole 1)).result = .ok (some 1) := rfl
  have tradeFee : (rateFee ⟨⟨2, 6⟩, ⟨5, 3⟩, ⟨2, 3⟩, ⟨1, 5⟩⟩ .empty .trade
      (.word ⟨⟨8, by decide⟩, 9, by decide⟩ [])).result = .ok (some 6) := rfl
  have tradeShare : (rateFee ⟨⟨2, 6⟩, ⟨5, 3⟩, ⟨2, 3⟩, ⟨1, 5⟩⟩ .empty .adminTrade
      (.whole 6)).result = .ok (some 2) := rfl
  have nineDenotes : Store.empty.Denotes (.word ⟨⟨8, by decide⟩, 9, by decide⟩ []) (9 : Nat) :=
    .inr ⟨_, rfl⟩
  have nineFits : Fits MulDiv.amountWidth 9 := by decide
  constructor
  · rcases share_truncation .withdrawal nineDenotes nineFits withdrawFee withdrawShare with
      ⟨le, ge, _⟩
    exact ⟨withdrawFee, withdrawShare, le, ge⟩
  · rcases share_truncation .trade nineDenotes nineFits tradeFee tradeShare with ⟨_, _, lossless⟩
    exact ⟨tradeFee, tradeShare, lossless ⟨3, rfl⟩⟩

end Schedule

end PoolFees
