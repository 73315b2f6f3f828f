import PoolFees.Proofs.Fee.PoolSize

/-!
# Fees that are never missing

Whoever cannot go on without a fee requires it, and a fee that is absent is then a fault. A rate
that is at most one never leads there: its quotient is at most the amount, so it is present for
every amount, and no event is left behind.

The administrator's share is charged on the fee that was charged before, so it is at most that fee.
The normalized fee is at most half of the trade fee, so it is at most half of the amount.
-/

namespace PoolFees

/-- A rate that takes no more than the whole amount. -/
def Rate.IsProper (rate : Rate) : Prop :=
  0 < rate.denominator ∧ rate.numerator ≤ rate.denominator

instance (rate : Rate) : Decidable rate.IsProper :=
  inferInstanceAs (Decidable (_ ∧ _))

/-- The two occasions on which a pool charges a fee of which the administrator gets a share. -/
inductive Occasion where
  | trade
  | withdrawal
deriving DecidableEq, Repr, Inhabited

namespace Occasion

/-- The fee that is charged on the amount. -/
def fee : Occasion → RateFee
  | trade => .trade
  | withdrawal => .withdraw

/-- The fee that is charged on the fee before. -/
def share : Occasion → RateFee
  | trade => .adminTrade
  | withdrawal => .adminWithdraw

end Occasion

namespace MulDiv

variable {numerator denominator number : Nat}

/-- A fraction of at most one of an amount is an amount and no larger. -/
theorem scaled?_of_proper (positive : 0 < denominator) (le : numerator ≤ denominator)
    (fits : Fits amountWidth number) :
    ∃ part, scaled? number numerator denominator = some part ∧ part ≤ number ∧
      (part = number ↔ number = 0 ∨ numerator = denominator) := by
  have product_le : number * numerator ≤ denominator * number := by
    rw [Nat.mul_comm]
    exact Nat.mul_le_mul_right number le
  have part_le : number * numerator / denominator ≤ number := Nat.div_le_of_le_mul product_le
  refine ⟨_, scaled?_of_fits (Nat.ne_of_gt positive) (fits.of_le part_le), part_le, ?_⟩
  constructor
  · intro whole
    have reached : number * denominator ≤ number * numerator :=
      (Nat.le_div_iff_mul_le positive).1 (Nat.le_of_eq whole.symm)
    rcases Nat.eq_zero_or_pos number with isZero | numberPositive
    · exact .inl isZero
    · exact .inr (Nat.le_antisymm le (Nat.le_of_mul_le_mul_left reached numberPositive))
  · rintro (rfl | rfl)
    · rw [Nat.zero_mul, Nat.zero_div]
    · exact Nat.mul_div_cancel number positive

end MulDiv

namespace Traced

variable {α β : Type}

/-- Goes on with the result of a calculation. The events of both are kept. -/
def andThen (first : Traced α) (next : α → Traced β) : Traced β :=
  match first.result with
  | .ok value => ⟨(next value).result, first.events ++ (next value).events⟩
  | .error fault => ⟨.error fault, first.events⟩

theorem andThen_of_silent (value : α) (next : α → Traced β) :
    (silent (.ok value)).andThen next = next value := rfl

end Traced

namespace ScheduleOperation

variable {store : Store} {schedule : Schedule} {amount coins name : Value} {size number : Nat}

/-- Charges a fee that is required under a name. -/
def chargeRequired (store : Store) (operation : FeeOperation) (arguments : List Value)
    (name : Value) : Traced Value :=
  (perform store (.charge operation) arguments).andThen fun fee =>
    perform store .require [fee, name]

/-- A required fee that is charged is the fee itself. -/
theorem chargeRequired_of_silent {operation : FeeOperation} {arguments : List Value} {fee : Nat}
    (charged : perform store (.charge operation) arguments = .silent (.ok (.whole fee))) :
    chargeRequired store operation arguments name = .silent (.ok (.whole fee)) := by
  rw [chargeRequired, charged, Traced.andThen_of_silent]
  rfl

/-- A proportional fee at a proper rate is present on every amount. -/
theorem chargeRequired_rate (fee : RateFee) (proper : (schedule.rate fee).IsProper)
    (origin : Origin) (denotes : store.Denotes amount number)
    (fits : Fits MulDiv.amountWidth number) (name : Value) :
    ∃ part : Nat, chargeRequired store (.rate fee) [.schedule schedule origin, amount] name =
        .silent (.ok (.whole part)) ∧ part ≤ number ∧
      (part = number ↔
        number = 0 ∨ (schedule.rate fee).numerator = (schedule.rate fee).denominator) := by
  rcases MulDiv.scaled?_of_proper (UInt64.lt_iff_toNat_lt.1 proper.1)
    (UInt64.le_iff_toNat_le.1 proper.2) fits with ⟨part, present, part_le, whole_iff⟩
  refine ⟨part, chargeRequired_of_silent ?_, part_le, ?_⟩
  · have fee_eq := schedule.rateFee_eq_of_denotes fee denotes fits
    rw [present] at fee_eq
    exact congrArg (Traced.map Value.ofFee) fee_eq
  · rw [whole_iff, UInt64.toNat_inj]

/-- At a proper trade rate the normalized fee is present on every amount. -/
theorem chargeRequired_normalizedTrade (proper : schedule.trade.IsProper) (origin : Origin)
    (coinsDenote : store.Denotes coins size) (several : 2 ≤ size) (few : size ≤ 64)
    (denotes : store.Denotes amount number) (fits : Fits MulDiv.amountWidth number)
    (name : Value) :
    ∃ part : Nat, chargeRequired store .normalizedTrade
        [.schedule schedule origin, coins, amount] name = .silent (.ok (.whole part)) ∧
      part ≤ number / 2 := by
  rcases MulDiv.scaled?_of_proper (UInt64.lt_iff_toNat_lt.1 proper.1)
    (UInt64.le_iff_toNat_le.1 proper.2) fits with ⟨tradeFee, present, tradeFee_le, _⟩
  rcases Schedule.scaled?_adjusted_of_trade several present with ⟨part, normalized, half⟩
  refine ⟨part, chargeRequired_of_silent ?_, ?_⟩
  · have fee_eq := schedule.normalizedFee_of_denotes coinsDenote several few denotes fits
    rw [normalized] at fee_eq
    exact congrArg (Traced.map Value.ofFee) fee_eq
  · omega

/-- When all rates of a schedule are proper, each fee that is required on an amount is charged
without a fault and without an event. The fee on an amount is at most the amount, and equal to it
only for the amount zero or a rate of one; the administrator's share is at most that fee; and the
normalized fee is at most half of the amount. -/
theorem chargeRequired_of_proper (proper : ∀ fee, (schedule.rate fee).IsProper)
    (denotes : store.Denotes amount number) (fits : Fits MulDiv.amountWidth number)
    (origin : Origin) (feeName shareName : Value) :
    (∀ occasion : Occasion, ∃ fee share : Nat,
      chargeRequired store (.rate occasion.fee) [.schedule schedule origin, amount] feeName =
        .silent (.ok (.whole fee)) ∧
      fee ≤ number ∧
      (fee = number ↔ number = 0 ∨
        (schedule.rate occasion.fee).numerator = (schedule.rate occasion.fee).denominator) ∧
      chargeRequired store (.rate occasion.share) [.schedule schedule origin, .whole fee]
        shareName = .silent (.ok (.whole share)) ∧
      share ≤ fee) ∧
    ∀ (coins : Value) (size : Nat), store.Denotes coins size → 2 ≤ size → size ≤ 64 →
      ∃ fee : Nat, chargeRequired store .normalizedTrade
          [.schedule schedule origin, coins, amount] feeName = .silent (.ok (.whole fee)) ∧
        fee ≤ number / 2 := by
  constructor
  · intro occasion
    rcases chargeRequired_rate occasion.fee (proper _) origin denotes fits feeName with
      ⟨fee, charged, fee_le, whole_iff⟩
    have feeDenotes : store.Denotes (.whole fee) fee := .inl rfl
    rcases chargeRequired_rate occasion.share (proper _) origin feeDenotes (fits.of_le fee_le)
      shareName with ⟨share, shareCharged, share_le, _⟩
    exact ⟨fee, share, charged, fee_le, whole_iff, shareCharged, share_le⟩
  · intro coins size coinsDenote several few
    exact chargeRequired_normalizedTrade (proper .trade) origin coinsDenote several few denotes
      fits feeName

/-- At a rate of 3 to 3 the largest amount is charged whole on a withdrawal. The share of all of it
and the normalized fee for the largest pool are present as well. -/
theorem chargeRequired_of_largest_amount :
    let largest : UInt64 := 18446744073709551615
    let schedule : Schedule := ⟨⟨1, 2⟩, ⟨largest, largest⟩, ⟨25, 10000⟩, ⟨3, 3⟩⟩
    let amount : Value := .word ⟨⟨64, by decide⟩, 18446744073709551615, by decide⟩ []
    (∀ fee, (schedule.rate fee).IsProper) ∧
      (∃ share : Nat, chargeRequired .empty (.rate .withdraw) [.schedule schedule [], amount]
          (.text "withdraw_fee") = .silent (.ok (.whole 18446744073709551615)) ∧
        chargeRequired .empty (.rate .adminWithdraw)
          [.schedule schedule [], .whole 18446744073709551615] (.text "admin_withdraw_fee") =
            .silent (.ok (.whole share)) ∧
        share ≤ 18446744073709551615) ∧
      ∃ fee : Nat, chargeRequired .empty .normalizedTrade
          [.schedule schedule [], .whole 64, amount] (.text "withdraw_fee") =
            .silent (.ok (.whole fee)) ∧
        fee ≤ 18446744073709551615 / 2 := by
  intro largest schedule amount
  have proper : ∀ fee, (schedule.rate fee).IsProper := by
    intro fee
    cases fee with
    | adminTrade => decide
    | adminWithdraw => decide
    | trade => decide
    | withdraw => decide
  have required := @chargeRequired_of_proper .empty schedule amount 18446744073709551615 proper
    (.inr ⟨_, rfl⟩) (by decide) [] (.text "withdraw_fee") (.text "admin_withdraw_fee")
  refine ⟨proper, ?_, required.2 (.whole 64) 64 (.inl rfl) (by decide) (by decide)⟩
  rcases required.1 .withdrawal with ⟨fee, share, charged, _, whole_iff, shareCharged, share_le⟩
  obtain rfl : fee = 18446744073709551615 := whole_iff.2 (.inr rfl)
  exact ⟨share, charged, shareCharged, share_le⟩

end ScheduleOperation

end PoolFees
