import Mathlib.Algebra.Order.BigOperators.Group.List
import Mathlib.Algebra.Order.Group.Nat
import Mathlib.Data.Nat.ModEq
import PoolFees.Proofs.Fee.Configured
import PoolFees.Proofs.MulDiv.Order

/-!
# Splitting an amount

A fee is rounded down once for every amount that it is charged on. So splitting an amount never
makes the fee larger, and each part beyond the first one loses less than one unit of it.

The argument is one on quotients, because every fee scales the amount by a fixed rate: a
proportional fee by the rate in the schedule, and the normalized fee by a rate that the number of
coins decides before the amount is looked at. If the fee on the whole amount is present then its
rate has a divisor, and the quotients of the parts are amounts because they are no larger than that
of the whole.
-/

namespace PoolFees

namespace MulDiv

variable {left right divisor quotient : Nat}

/-- The sum of the quotients of several factors. -/
def scaledSum (right divisor : Nat) (factors : List Nat) : Nat :=
  (factors.map fun factor => factor * right / divisor).sum

theorem scaledSum_le (right divisor : Nat) (factors : List Nat) :
    scaledSum right divisor factors ≤ factors.sum * right / divisor := by
  induction factors with
  | nil => simp [scaledSum]
  | cons factor rest ih =>
      simp only [scaledSum, List.map_cons, List.sum_cons, Nat.add_mul] at ih ⊢
      have merged : factor * right / divisor + rest.sum * right / divisor ≤
          (factor * right + rest.sum * right) / divisor := Nat.div_add_div_le_add_div
      omega

/-- Two quotients fall short of the quotient of the sum by at most one. -/
theorem div_add_le (positive : 0 < divisor) (first second : Nat) :
    (first + second) / divisor ≤ first / divisor + second / divisor + 1 := by
  rw [Nat.add_div positive]
  split
  · exact Nat.le_refl _
  · exact Nat.le_succ _

theorem le_scaledSum (positive : 0 < divisor) (right : Nat) (factors : List Nat) :
    factors.sum * right / divisor ≤ scaledSum right divisor factors + (factors.length - 1) := by
  induction factors with
  | nil => simp [scaledSum]
  | cons factor rest ih =>
      cases rest with
      | nil => simp [scaledSum]
      | cons next others =>
          have split := div_add_le positive (factor * right) ((next :: others).sum * right)
          simp only [scaledSum, List.map_cons, List.sum_cons, List.length_cons, Nat.add_mul]
            at ih split ⊢
          omega

/-- Only amounts are multiplied and divided, and the result is an amount too. -/
theorem fits_of_compute {limits : Limits} {left right divisor : Value}
    (present : compute limits left right divisor = .ok (some quotient)) :
    Fits amountWidth quotient := by
  rcases Except.map_eq_ok_iff.1 present with ⟨result, called, number_eq⟩
  simp only [call, Recorded.outcome_bind, Except.bind_eq_ok_iff] at called
  rcases called with ⟨leftWord, leftRead, rightWord, rightRead, divisorWord, divisorRead, routed⟩
  have left_eq : leftWord.width = amount := Word.width_of_ofValueAt leftRead
  have right_eq : rightWord.width = amount := Word.width_of_ofValueAt rightRead
  have divisor_eq : divisorWord.width = amount := Word.width_of_ofValueAt divisorRead
  have scales := found_route_eq_scaled? limits (Nat.le_of_eq (congrArg Width.bits left_eq))
    (right_eq.trans left_eq.symm) (divisor_eq.trans left_eq.symm)
  have found : (route words limits leftWord rightWord divisorWord).found = .ok (some quotient) :=
    Except.map_eq_ok_iff.2 ⟨result, routed, number_eq⟩
  rw [scales] at found
  injection found with scaled_eq
  rcases scaled?_eq_some_iff.1 scaled_eq with ⟨_, fits, rfl⟩
  exact fits

end MulDiv

namespace Schedule

variable {schedule : Schedule} {store : Store} {coins : Value} {size divisor : Nat}

/-- A normalized fee that is present scales the amount by a rate that does not depend on it. -/
theorem normalizedFee_scales {total : Value} {fee : Nat}
    (present : (schedule.normalizedFee store coins total).result = .ok (some fee)) :
    ∃ adjusted, Fits MulDiv.amountWidth adjusted ∧ ∀ amount,
      (schedule.normalizedFee store coins amount).result =
        store.mulDiv MulDiv.balanced amount (.whole adjusted)
          (.whole schedule.trade.denominator.toNat) := by
  unfold normalizedFee at present
  split at present
  · cases present
  · cases present
  · rename_i pool pool_eq
    simp only at present
    split at present
    · cases present
    · cases present
    · rename_i adjusted adjusted_eq
      refine ⟨adjusted, MulDiv.fits_of_compute adjusted_eq, ?_⟩
      intro amount
      simp only [normalizedFee, pool_eq, adjusted_eq]
      exact Traced.noting_result (.normalizedFeeAbsent coins amount adjusted _) _

end Schedule

/-- The arguments of a request for a fee. Only the normalized fee depends on a number of coins. -/
def FeeOperation.arguments (calculator coins amount : Value) : FeeOperation → List Value
  | rate _ => [calculator, amount]
  | normalizedTrade => [calculator, coins, amount]

namespace ScheduleOperation

variable {store : Store} {schedule : Schedule} {origin : Origin} {operation : FeeOperation}
  {coins : Value}

/-- The outcome of a request for the fee on an amount. -/
def charged (store : Store) (schedule : Schedule) (origin : Origin) (operation : FeeOperation)
    (coins amount : Value) : Except Fault Value :=
  (perform store (.charge operation)
    (operation.arguments (.schedule schedule origin) coins amount)).result

/-- Every fee that is present on some amount scales all amounts by one rate. -/
theorem charged_scales {total fee : Value}
    (present : charged store schedule origin operation coins total = .ok fee)
    (notAbsent : fee ≠ .absent) :
    ∃ numerator denominator : Nat, ∀ (amount : Value) (number : Nat), store.Denotes amount number →
      Fits MulDiv.amountWidth number →
      charged store schedule origin operation coins amount =
        .ok (.ofFee (MulDiv.scaled? number numerator denominator)) := by
  cases operation with
  | rate rateFee =>
      refine ⟨(schedule.rate rateFee).numerator.toNat,
        (schedule.rate rateFee).denominator.toNat, ?_⟩
      intro amount number denotes fits
      exact schedule.chargesAt_rate rateFee store amount number origin denotes fits
  | normalizedTrade =>
      have present_eq : (schedule.normalizedFee store coins total).result.map .ofFee = .ok fee :=
        present
      rcases Except.map_eq_ok_iff.1 present_eq with ⟨result, result_eq, rfl⟩
      cases result with
      | none => exact absurd rfl notAbsent
      | some number =>
          rcases Schedule.normalizedFee_scales result_eq with ⟨adjusted, adjustedFits, scales⟩
          refine ⟨adjusted, schedule.trade.denominator.toNat, ?_⟩
          intro amount number denotes fits
          have quotient := Store.mulDiv_eq_scaled? MulDiv.balanced (Store.bind_amount denotes fits)
            (Store.bind_amount (.inl rfl) adjustedFits)
            (Store.bind_amount (.inl rfl) schedule.trade.denominator.toNat_lt)
          have result_eq := (scales amount).trans quotient
          exact Except.map_eq_ok_iff.2 ⟨_, result_eq, rfl⟩

/-- When a fee is present on the sum of several amounts, it is present on each of them, and the fees
on them add up to no more than the fee on the sum and to no less than it but for one unit for each
amount after the first. -/
theorem charged_of_parts {parts : List (Value × Nat)} {total fee : Value}
    (denotes : ∀ part ∈ parts, store.Denotes part.1 part.2)
    (totalDenotes : store.Denotes total (parts.map Prod.snd).sum)
    (fits : Fits MulDiv.amountWidth (parts.map Prod.snd).sum)
    (present : charged store schedule origin operation coins total = .ok fee)
    (notAbsent : fee ≠ .absent) :
    ∃ (whole : Nat) (fees : List Nat), fee = .whole whole ∧
      parts.map (fun part => charged store schedule origin operation coins part.1) =
        fees.map (fun fee => .ok (.whole fee)) ∧
      fees.sum ≤ whole ∧ whole ≤ fees.sum + (parts.length - 1) := by
  rcases charged_scales present notAbsent with ⟨numerator, denominator, scales⟩
  rw [scales total _ totalDenotes fits] at present
  injection present with fee_eq
  subst fee_eq
  cases scaled_eq : MulDiv.scaled? (parts.map Prod.snd).sum numerator denominator with
  | none => exact absurd (congrArg Value.ofFee scaled_eq) notAbsent
  | some whole =>
      rcases MulDiv.scaled?_eq_some_iff.1 scaled_eq with ⟨notZero, _, whole_eq⟩
      refine ⟨whole, (parts.map Prod.snd).map fun amount => amount * numerator / denominator, rfl,
        ?_, ?_, ?_⟩
      · rw [List.map_map, List.map_map, List.map_inj_left]
        intro part member
        have le : part.2 ≤ (parts.map Prod.snd).sum :=
          List.le_sum_of_mem (List.mem_map_of_mem member)
        rw [scales part.1 part.2 (denotes part member) (fits.of_le le),
          MulDiv.scaled?_of_le scaled_eq le]
        rfl
      · rw [← whole_eq]
        exact MulDiv.scaledSum_le numerator denominator _
      · have bound := MulDiv.le_scaledSum (Nat.pos_of_ne_zero notZero) numerator
          (parts.map Prod.snd)
        rw [List.length_map, whole_eq] at bound
        exact bound

/-- Two parts that are charged on the narrow route, and their sum on the wide one. -/
theorem charged_of_two_parts :
    let fee := charged .empty ⟨⟨0, 0⟩, ⟨0, 0⟩, ⟨2, 2⟩, ⟨0, 0⟩⟩ [] .normalizedTrade (.whole 2)
    let small := Value.word ⟨⟨8, by decide⟩, 3, by decide⟩ []
    fee (.whole 4294967298) = .ok (.whole 2147483649) ∧
      ∃ (whole : Nat) (fees : List Nat), Value.whole 2147483649 = .whole whole ∧
        [fee (.whole 4294967295), fee small] = fees.map (fun fee => .ok (.whole fee)) ∧
        fees.sum ≤ whole ∧ whole ≤ fees.sum + 1 := by
  intro fee small
  have present : fee (.whole 4294967298) = .ok (.whole 2147483649) := rfl
  refine ⟨present, ?_⟩
  apply @charged_of_parts _ _ _ _ _ [(.whole 4294967295, 4294967295), (small, 3)]
    (.whole 4294967298)
  · simp only [List.forall_mem_cons]
    exact ⟨.inl rfl, .inr ⟨_, rfl⟩, fun _ member => nomatch member⟩
  · exact .inl rfl
  · decide
  · exact present
  · exact Value.noConfusion

end ScheduleOperation

end PoolFees
