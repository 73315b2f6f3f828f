import PoolFees.Word

/-!
# Words that fit

Facts about widths and the operations on words that do not depend on where the operands come from: a
number that fits a width fits every wider one, products need the bits of both factors together, and
quotients always fit. Each operation of `Word` has one statement here that says what it gives.
-/

namespace PoolFees

theorem Fits.of_le {bits value smaller : Nat} (fits : Fits bits value) (le : smaller ≤ value) :
    Fits bits smaller :=
  Nat.lt_of_le_of_lt le fits

theorem Fits.mono {bits wider value : Nat} (fits : Fits bits value) (le : bits ≤ wider) :
    Fits wider value :=
  Nat.lt_of_lt_of_le fits (Nat.pow_le_pow_right (by decide) le)

/-- The bits of a product are at most those of its factors together. -/
theorem Fits.mul {leftBits rightBits left right : Nat} (leftFits : Fits leftBits left)
    (rightFits : Fits rightBits right) : Fits (leftBits + rightBits) (left * right) := by
  have split_capacity : capacity (leftBits + rightBits) = capacity leftBits * capacity rightBits :=
    Nat.pow_add 2 leftBits rightBits
  unfold Fits
  rw [split_capacity]
  exact Nat.mul_lt_mul'' leftFits rightFits

theorem Width.eq_of_bits {left right : Width} (same : left.bits = right.bits) : left = right := by
  rcases left with ⟨leftBits, leftCounted⟩
  rcases right with ⟨rightBits, rightCounted⟩
  simpa using same

namespace Word

theorem ofNat?_eq (width : Width) {value : Nat} (fits : Fits width.bits value) :
    ofNat? width value = some ⟨width, value, fits⟩ := by
  simp only [ofNat?, fits, dite_true]

theorem ofNat?_eq_none (width : Width) {value : Nat} (large : ¬Fits width.bits value) :
    ofNat? width value = none :=
  dif_neg large

theorem ofNat?_eq_some {width : Width} {value : Nat} {word : Word}
    (bound : ofNat? width value = some word) : word.width = width ∧ word.value = value := by
  by_cases fits : Fits width.bits value
  · rw [ofNat?_eq width fits] at bound
    cases bound
    exact ⟨rfl, rfl⟩
  · rw [ofNat?_eq_none width fits] at bound
    cases bound

/-- The same number at a width that is at least that of the word. -/
def promote (word : Word) (wide : Width) (wider : word.width.bits ≤ wide.bits) : Word :=
  ⟨wide, word.value, word.fits.mono wider⟩

/-- A wider width takes a word over as it is. -/
theorem widenTo_eq_ok {word : Word} (width : Width) (wider : word.width.bits ≤ width.bits) :
    word.widenTo width = .ok (word.promote width wider) := by
  simp only [widenTo, Nat.not_lt.2 wider, if_false]
  exact ofIntAt_value (word.promote width wider)

theorem width_of_widenTo {word wide : Word} {width : Width}
    (widened : word.widenTo width = .ok wide) : wide.width = width := by
  unfold widenTo at widened
  split at widened
  · simp [refuse] at widened
  · exact (ofIntAt_eq_ok widened).1

theorem calculate?_sub {word : Word} {operand : Nat} (le : operand ≤ word.value) :
    word.calculate? .sub operand =
      some ⟨word.width, word.value - operand, word.fits.of_le (Nat.sub_le _ _)⟩ := by
  simp only [calculate?, Arithmetic.result?, le, if_true, Option.bind_some,
    ofNat?_eq _ (word.fits.of_le (Nat.sub_le word.value operand))]

theorem calculate?_sub_eq_none {word : Word} {operand : Nat} (above : word.value < operand) :
    word.calculate? .sub operand = none := by
  simp only [calculate?, Arithmetic.result?, Nat.not_le.2 above, if_false, Option.bind_none]

theorem calculate?_mul (word : Word) (operand : Nat) :
    word.calculate? .mul operand = ofNat? word.width (word.value * operand) := rfl

theorem calculate?_div (word : Word) (operand : Nat) :
    word.calculate? .div operand =
      if operand = 0 then none
      else some ⟨word.width, word.value / operand, word.fits.of_le (Nat.div_le_self _ _)⟩ := by
  by_cases isZero : operand = 0
  · simp only [calculate?, Arithmetic.result?, isZero, if_true, Option.bind_none]
  · have fits : Fits word.width.bits (word.value / operand) :=
      word.fits.of_le (Nat.div_le_self _ _)
    simp only [calculate?, Arithmetic.result?, isZero, if_false, Option.bind_some, ofNat?_eq _ fits]

theorem width_of_calculate? {operation : Arithmetic} {word result : Word} {operand : Nat}
    (present : word.calculate? operation operand = some result) : result.width = word.width := by
  rcases Option.bind_eq_some_iff.1 present with ⟨value, _, bound⟩
  exact (ofNat?_eq_some bound).1

end Word

end PoolFees
