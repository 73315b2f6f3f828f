import PoolFees.Fee
import PoolFees.Proofs.MulDiv.Exactness

/-!
# The normalized fee

The normalized fee of a pool of `n` coins is the trade fee with its numerator scaled by
`n / (4 * (n - 1))`. Both the scaling and the fee are rounded down, one after the other.

The number of coins is bound to eight bits first. From then on only sizes from two to sixty-four
have a divisor, and only for these is the amount looked at. The scaled numerator is never above the
numerator itself, so scaling never fails and the outcome depends on the second quotient alone.

A loose word that holds no integer is not bound by what it denotes, but by the order of its content.
Of what comes of such words, as a number of coins or as an amount, nothing is said here.
-/

namespace PoolFees

/-- A number that fits the width of a word is an operand of it. -/
theorem Word.combine_whole {receiver : Word} {number : Nat} (operation : Word.Arithmetic)
    (fits : Fits receiver.width.bits number) :
    receiver.combine operation (.whole number) = .ok (receiver.calculate? operation number) := by
  have bound : Word.ofIntAt receiver.width number = .ok ⟨receiver.width, number, fits⟩ :=
    Word.ofIntAt_value ⟨receiver.width, number, fits⟩
  have operand_eq : receiver.operand (.whole number) = .ok number := by
    change (Word.ofIntAt receiver.width number).map Word.value = _
    rw [bound]
    rfl
  simp only [combine, operand_eq, Except.map]

namespace Pool

variable {coins : Word}

/-- The sizes for which four times the number of the other coins is positive and fits eight bits. -/
theorem divisor?_eq (isByte : coins.width.bits = coinsWidth) :
    divisor? coins =
      if 2 ≤ coins.value ∧ coins.value ≤ 64 then some (4 * (coins.value - 1)) else none := by
  unfold divisor?
  by_cases isEmpty : coins.value < 1
  · have tooFew : ¬(2 ≤ coins.value ∧ coins.value ≤ 64) := by omega
    simp [Word.calculate?_sub_eq_none isEmpty, tooFew]
  · simp only [Word.calculate?_sub (Nat.le_of_not_lt isEmpty), Option.bind_eq_bind,
      Option.bind_some, Word.calculate?_mul, Word.ofNat?, isByte, normalizationFactor]
    have fits_iff : Fits coinsWidth ((coins.value - 1) * 4) ↔ coins.value ≤ 64 := by
      have capacity_eq : capacity coinsWidth = 256 := rfl
      unfold Fits
      omega
    by_cases isLarge : 64 < coins.value
    · have overflows : ¬Fits coinsWidth ((coins.value - 1) * 4) := by
        rw [fits_iff]
        omega
      have tooMany : ¬(2 ≤ coins.value ∧ coins.value ≤ 64) := by omega
      simp [overflows, tooMany]
    · have fits : Fits coinsWidth ((coins.value - 1) * 4) := fits_iff.2 (Nat.le_of_not_lt isLarge)
      simp only [fits, dite_true, Option.bind_some]
      by_cases isSingle : coins.value = 1
      · simp [isSingle]
      · have several : 2 ≤ coins.value ∧ coins.value ≤ 64 := by omega
        have notZero : ¬(coins.value - 1) * 4 = 0 := by omega
        rw [if_pos several, if_neg notZero, Nat.mul_comm]

theorem holds_of_isByte (store : Store) (isByte : coins.width.bits = coinsWidth) :
    store.memory.Holds coins.width :=
  store.memory.holds_of_le (by rw [isByte]; decide)

/-- Loose words give the same pool when what they are bound to is a proper word. -/
theorem ofLooseWord_ofWord (store : Store) (isByte : coins.width.bits = coinsWidth) :
    ofLooseWord store (.ofWord coins) = .ok (ofWord? coins) := by
  have oneFits : Fits coins.width.bits 1 := by
    rw [isByte]
    decide
  have one_eq : coins.combine .sub (.whole 1) = .ok (coins.calculate? .sub 1) :=
    Word.combine_whole .sub oneFits
  have others_eq := LooseWord.combine_ofWord (holds_of_isByte store isByte) .sub
    (rfl : (Value.whole 1).isLoose = false)
  rw [one_eq] at others_eq
  unfold ofLooseWord ofWord? divisor?
  simp only [others_eq, Except.map, Bind.bind, Except.bind]
  cases present : coins.calculate? .sub 1 with
  | none => rfl
  | some others =>
      have othersAreByte : others.width.bits = coinsWidth := by
        rw [Word.width_of_calculate? present, isByte]
      have factorFits : Fits others.width.bits normalizationFactor := by
        rw [othersAreByte]
        decide
      have divisor_eq := LooseWord.combine_ofWord (holds_of_isByte store othersAreByte) .mul
        (rfl : (Value.whole normalizationFactor).isLoose = false)
      rw [Word.combine_whole .mul factorFits] at divisor_eq
      simp only [Option.map_some, divisor_eq, Except.map, Option.bind_some]
      cases others.calculate? .mul normalizationFactor with
      | none => rfl
      | some divisor =>
          simp only [Option.map_some, LooseWord.isNonzero, LooseWord.ofWord_content,
            Store.equals_whole, Except.map, Option.bind_some]
          by_cases isZero : divisor.value = 0
          · simp [isZero]
          · simp [isZero]

theorem holds_sizeWidth (store : Store) : store.memory.Holds sizeWidth :=
  store.memory.holds_of_le (by decide)

theorem ofValue_of_bind {store : Store} {value : Value}
    (binds : LooseWord.bind store (.whole coinsWidth) value = .ok (.ofWord coins)) :
    ofValue store value = .ok (ofWord? coins) := by
  have isByte : coins.width.bits = coinsWidth := by
    have bits_eq := LooseWord.bits_of_bind binds
    omega
  cases loose : value.isLoose with
  | true =>
      simp only [ofValue, loose, if_true, binds, Bind.bind, Except.bind]
      exact ofLooseWord_ofWord store isByte
  | false =>
      have read := LooseWord.ofValueAt_of_bind (holds_sizeWidth store) loose binds
      simp only [ofValue, loose, Bool.false_eq_true, if_false, read, Except.map]

theorem ofValue_eq_error {store : Store} {value : Value} {fault : Fault}
    (refused : LooseWord.bind store (.whole coinsWidth) value = .error fault) :
    ofValue store value = .error fault := by
  cases loose : value.isLoose with
  | true => simp only [ofValue, loose, if_true, refused, Bind.bind, Except.bind]
  | false =>
      have read := LooseWord.ofValueAt_eq_error_of_bind (holds_sizeWidth store) loose refused
      simp only [ofValue, loose, Bool.false_eq_true, if_false, read, Except.map]

end Pool

namespace Schedule

/-- The numerator of the trade rate, scaled for a number of coins. -/
def adjustedNumerator (schedule : Schedule) (size : Nat) : Nat :=
  schedule.trade.numerator.toNat * size / (4 * (size - 1))

theorem adjustedNumerator_le (schedule : Schedule) {size : Nat} (several : 2 ≤ size) :
    schedule.adjustedNumerator size ≤ schedule.trade.numerator.toNat := by
  have positive : 0 < 4 * (size - 1) := by omega
  have scaled : size ≤ 4 * (size - 1) := by omega
  apply Nat.div_le_of_le_mul
  rw [Nat.mul_comm (4 * (size - 1))]
  exact Nat.mul_le_mul_left _ scaled

variable {schedule : Schedule} {store : Store} {coins amount : Value}

/-- What is not a number of coins is refused before anything else is looked at. -/
theorem normalizedFee_of_refused {fault : Fault}
    (refused : LooseWord.bind store (.whole coinsWidth) coins = .error fault) :
    schedule.normalizedFee store coins amount = .silent (.error fault) := by
  simp only [normalizedFee, Pool.ofValue_eq_error refused]

/-- Without a divisor the amount is not looked at. -/
theorem normalizedFee_of_invalidSize {byte : Word}
    (binds : LooseWord.bind store (.whole coinsWidth) coins = .ok (.ofWord byte))
    (invalid : byte.value < 2 ∨ 64 < byte.value) :
    schedule.normalizedFee store coins amount = ⟨.ok none, [.invalidPoolSize coins]⟩ := by
  have isByte : byte.width.bits = coinsWidth := by
    have bits_eq := LooseWord.bits_of_bind binds
    omega
  have noDivisor : ¬(2 ≤ byte.value ∧ byte.value ≤ 64) := by omega
  simp only [normalizedFee, Pool.ofValue_of_bind binds, Pool.ofWord?, Pool.divisor?_eq isByte,
    noDivisor, if_false, Option.map_none]

/-- For a size with a divisor the scaled numerator is present and the second quotient decides. -/
theorem normalizedFee_of_size {byte : Word}
    (binds : LooseWord.bind store (.whole coinsWidth) coins = .ok (.ofWord byte))
    (several : 2 ≤ byte.value) (few : byte.value ≤ 64) :
    schedule.normalizedFee store coins amount =
      .noting
        (.normalizedFeeAbsent coins amount (schedule.adjustedNumerator byte.value)
          schedule.trade.denominator)
        (store.mulDiv MulDiv.balanced amount (.whole (schedule.adjustedNumerator byte.value))
          (.whole schedule.trade.denominator.toNat)) := by
  have isByte : byte.width.bits = coinsWidth := by
    have bits_eq := LooseWord.bits_of_bind binds
    omega
  have amountCapacity : capacity MulDiv.amountWidth = 18446744073709551616 := rfl
  have numeratorFits : Fits MulDiv.amountWidth schedule.trade.numerator.toNat :=
    schedule.trade.numerator.toNat_lt
  have sizeFits : Fits MulDiv.amountWidth byte.value := by
    unfold Fits
    omega
  have divisorFits : Fits MulDiv.amountWidth (4 * (byte.value - 1)) := by
    unfold Fits
    omega
  have notZero : 4 * (byte.value - 1) ≠ 0 := by omega
  have adjusted_eq :
      MulDiv.compute MulDiv.balanced (.whole schedule.trade.numerator.toNat) (.whole byte.value)
          (.whole ((4 * (byte.value - 1) : Nat) : Int)) =
        .ok (some (schedule.adjustedNumerator byte.value)) := by
    rw [Store.compute_eq_scaled? MulDiv.balanced numeratorFits sizeFits divisorFits,
      MulDiv.scaled?_of_fits notZero (numeratorFits.of_le (schedule.adjustedNumerator_le several))]
    rfl
  have hasDivisor : 2 ≤ byte.value ∧ byte.value ≤ 64 := ⟨several, few⟩
  simp only [normalizedFee, Pool.ofValue_of_bind binds, Pool.ofWord?, Pool.divisor?_eq isByte,
    hasDivisor, if_true, and_self, Option.map_some, adjusted_eq]
  rfl

/-- For a size with a divisor the fee on an amount is the exact quotient for the scaled
numerator. -/
theorem normalizedFee_of_denotes {size number : Nat} (coinsDenote : store.Denotes coins size)
    (several : 2 ≤ size) (few : size ≤ 64) (amountDenotes : store.Denotes amount number)
    (fits : Fits MulDiv.amountWidth number) :
    schedule.normalizedFee store coins amount =
      .noting
        (.normalizedFeeAbsent coins amount (schedule.adjustedNumerator size)
          schedule.trade.denominator)
        (.ok (MulDiv.scaled? number (schedule.adjustedNumerator size)
          schedule.trade.denominator.toNat)) := by
  have isByte : Fits coinsWidth size := Nat.lt_of_le_of_lt few (by decide)
  have coinsBind : LooseWord.bind store (.whole coinsWidth) coins =
      .ok (.ofWord ⟨Pool.sizeWidth, size, isByte⟩) :=
    Store.bind_of_fits (Pool.holds_sizeWidth store) coinsDenote isByte
  have adjustedFits : Fits MulDiv.amountWidth (schedule.adjustedNumerator size) :=
    Fits.of_le schedule.trade.numerator.toNat_lt (schedule.adjustedNumerator_le several)
  rw [normalizedFee_of_size coinsBind several few,
    Store.mulDiv_eq_scaled? _ (Store.bind_amount amountDenotes fits)
      (Store.bind_amount (.inl rfl) adjustedFits)
      (Store.bind_amount (.inl rfl) schedule.trade.denominator.toNat_lt)]

/-- The outcome of the normalized fee, in the order of the checks: the number of coins has to be
one, it has to have a divisor, the amount has to be one, and then the fee is the exact quotient.
A loose word that is accepted counts if an integer is in it. -/
theorem normalizedFee_result (schedule : Schedule) (store : Store) (coins amount : Value) :
    match store.bindWord (.whole coinsWidth) coins with
    | .error fault => (schedule.normalizedFee store coins amount).result = .error fault
    | .ok _ => store.HoldsInteger coins → ∃ size : Nat, store.Denotes coins size ∧
        if size < 2 ∨ 64 < size then
          (schedule.normalizedFee store coins amount).result = .ok none
        else
          match store.bindWord (.whole MulDiv.amountWidth) amount with
          | .error fault => (schedule.normalizedFee store coins amount).result = .error fault
          | .ok _ => store.HoldsInteger amount → ∃ number : Nat, store.Denotes amount number ∧
              (schedule.normalizedFee store coins amount).result =
                .ok (MulDiv.scaled? number
                  (schedule.trade.numerator.toNat * size / (4 * (size - 1)))
                  schedule.trade.denominator.toNat) := by
  cases coins_eq : store.bindWord (.whole coinsWidth) coins with
  | error fault =>
      have refused := Store.bind_eq_error_of_bindWord coins_eq
      simp only [normalizedFee_of_refused refused, Traced.silent]
  | ok boundCoins =>
      intro coinsHold
      rcases Store.bind_eq_ok_of_bindWord coinsHold coins_eq with ⟨byte, byteDenoted, binds⟩
      refine ⟨byte.value, byteDenoted, ?_⟩
      split
      · rename_i invalid
        rw [normalizedFee_of_invalidSize binds invalid]
      · rename_i valid
        have several : 2 ≤ byte.value := by omega
        have few : byte.value ≤ 64 := by omega
        rw [normalizedFee_of_size binds several few, Traced.noting_result]
        cases amount_eq : store.bindWord (.whole MulDiv.amountWidth) amount with
        | error fault =>
            exact Store.mulDiv_eq_error_of_left _ (Store.bind_eq_error_of_bindWord amount_eq)
        | ok boundAmount =>
            intro amountHolds
            rcases Store.bind_eq_ok_of_bindWord amountHolds amount_eq with
              ⟨bound, boundDenoted, amountBinds⟩
            have adjustedFits :
                Fits MulDiv.amountWidth (schedule.adjustedNumerator byte.value) :=
              Fits.of_le schedule.trade.numerator.toNat_lt (schedule.adjustedNumerator_le several)
            refine ⟨bound.value, boundDenoted, ?_⟩
            exact Store.mulDiv_eq_scaled? _ amountBinds (Store.bind_amount (.inl rfl) adjustedFits)
              (Store.bind_amount (.inl rfl) schedule.trade.denominator.toNat_lt)

/-- With three coins a rate of 100 to 10000 is scaled to 37 to 10000. -/
theorem normalizedFee_of_three_coins :
    (normalizedFee ⟨⟨0, 0⟩, ⟨0, 0⟩, ⟨100, 10000⟩, ⟨0, 0⟩⟩ .empty (.whole 3)
      (.word ⟨⟨32, by decide⟩, 100000, by decide⟩ [])).result = .ok (some 370) := by
  have outcome := normalizedFee_result ⟨⟨0, 0⟩, ⟨0, 0⟩, ⟨100, 10000⟩, ⟨0, 0⟩⟩ .empty (.whole 3)
      (.word ⟨⟨32, by decide⟩, 100000, by decide⟩ [])
  rcases outcome (fun loose => nomatch loose) with ⟨size, sizeDenoted, outcome⟩
  rcases sizeDenoted with same | ⟨_, found⟩
  · cases same
    rcases outcome (fun loose => nomatch loose) with ⟨number, numberDenoted, outcome⟩
    rcases numberDenoted with same | ⟨_, found⟩
    · cases same
    · cases found
      exact outcome
  · cases found
end Schedule

end PoolFees
