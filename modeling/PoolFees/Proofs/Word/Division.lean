import PoolFees.Proofs.Word.Combination

/-!
# Quotients and products

Dividing a word rounds down, and what was lost is found again: the quotient times the divisor is at
most the word, so that product is present, and what is left of the word is below the divisor.
Multiplying first loses nothing, so a product that is present is divided back to the word.

Whatever is computed from a word on this way is at most the number in it. It fits the width of the
word for that reason alone, and no step needs a check of its own.

Both words may be held in the store, if their parts go together. Of loose words with other parts
nothing is said here.
-/

namespace PoolFees

namespace Word

variable {word : Word}

/-- A smaller number at the width of a word. -/
def reduce (word : Word) (number : Nat) (le : number ≤ word.value) : Word :=
  ⟨word.width, number, word.fits.of_le le⟩

theorem calculate?_div_reduce {operand : Nat} (notZero : operand ≠ 0) :
    word.calculate? .div operand =
      some (word.reduce (word.value / operand) (Nat.div_le_self _ _)) := by
  rw [calculate?_div, if_neg notZero]
  rfl

theorem calculate?_mul_reduce {number operand : Nat} (le : number ≤ word.value)
    (productLe : number * operand ≤ word.value) :
    (word.reduce number le).calculate? .mul operand =
      some (word.reduce (number * operand) productLe) :=
  ofNat?_eq word.width (word.fits.of_le productLe)

theorem calculate?_sub_reduce {number left : Nat} (sum : number + left = word.value) :
    word.calculate? .sub number = some (word.reduce left (by omega)) := by
  have difference : word.value - number = left := by omega
  rw [calculate?_sub (by omega)]
  simp only [difference, reduce]

/-- A product that fits is divided back to its first factor. -/
theorem calculate?_div_of_mul {product : Word} {operand : Nat} (notZero : operand ≠ 0)
    (present : word.calculate? .mul operand = some product) :
    product.calculate? .div operand = some word := by
  rw [calculate?_mul] at present
  rcases product with ⟨width, value, fits⟩
  obtain ⟨rfl, rfl⟩ : width = word.width ∧ value = word.value * operand := ofNat?_eq_some present
  rw [calculate?_div, if_neg notZero]
  simp only [Nat.mul_div_cancel _ (Nat.pos_of_ne_zero notZero)]

end Word

namespace WordOperation

variable {store : Store} {receiver operand : Value} {word other : Word}

/-- A word is divided by another one of its width, the quotient is multiplied and the product is
subtracted again without any of them being absent. What is left is below the divisor, and together
with the product it makes up the word. A product of the two words that is present is divided back.
-/
theorem perform_division (wordHeld : store.memory.Holds word.width)
    (holds : store.Holds receiver word) (otherHolds : store.Holds operand other)
    (sameWidth : other.width = word.width) (notZero : other.value ≠ 0) :
    (∃ quotient product remainder : Word,
      perform store (.combine .div) [receiver, operand] = .ok (.ofWord quotient) ∧
      (∀ held, store.Holds held quotient →
        perform store (.combine .mul) [held, operand] = .ok (.ofWord product)) ∧
      (∀ held, store.Holds held product →
        perform store (.combine .sub) [receiver, held] = .ok (.ofWord remainder)) ∧
      remainder.value < other.value ∧
      word.value = quotient.value * other.value + remainder.value) ∧
    ∀ product : Word, perform store (.combine .mul) [receiver, operand] = .ok (.ofWord product) →
      ∀ held, store.Holds held product →
        perform store (.combine .div) [held, operand] = .ok (.ofWord word) := by
  constructor
  · have quotientLe : word.value / other.value ≤ word.value := Nat.div_le_self _ _
    have productLe : word.value / other.value * other.value ≤ word.value := Nat.div_mul_le_self _ _
    have division := Nat.div_add_mod' word.value other.value
    have remainderLt := Nat.mod_lt word.value (Nat.pos_of_ne_zero notZero)
    refine ⟨word.reduce _ quotientLe, word.reduce _ productLe, word.reduce _ (Nat.mod_le _ _),
      ?_, ?_, ?_, remainderLt, division.symm⟩
    · rw [perform_combine_eq_word_iff wordHeld holds otherHolds sameWidth]
      exact Word.calculate?_div_reduce notZero
    · intro held heldHolds
      have quotientHeld : store.memory.Holds (word.reduce _ quotientLe).width := wordHeld
      rw [perform_combine_eq_word_iff quotientHeld heldHolds otherHolds sameWidth]
      exact Word.calculate?_mul_reduce quotientLe productLe
    · intro held heldHolds
      rw [perform_combine_eq_word_iff wordHeld holds heldHolds rfl]
      exact Word.calculate?_sub_reduce division
  · intro product multiplies held heldHolds
    rw [perform_combine_eq_word_iff wordHeld holds otherHolds sameWidth] at multiplies
    have width_eq : product.width = word.width := Word.width_of_calculate? multiplies
    have productHeld : store.memory.Holds product.width := width_eq ▸ wordHeld
    rw [perform_combine_eq_word_iff productHeld heldHolds otherHolds
      (sameWidth.trans width_eq.symm)]
    exact Word.calculate?_div_of_mul notZero multiplies

/-- At eight bits 200 is divided by 7 with the quotient 28 and 4 left. -/
theorem perform_division_of_shared :
    let store : Store := ⟨[⟨.whole 200, .whole 8⟩], [], [], .usual⟩
    let seven : Value := .word ⟨⟨8, by decide⟩, 7, by decide⟩ []
    ∃ quotient product remainder : Word,
      perform store (.combine .div) [.sharedWord 0, seven] = .ok (.ofWord quotient) ∧
      perform store (.combine .mul) [.ofWord quotient, seven] = .ok (.ofWord product) ∧
      perform store (.combine .sub) [.sharedWord 0, .ofWord product] = .ok (.ofWord remainder) ∧
      200 = quotient.value * 7 + remainder.value ∧ remainder.value < 7 := by
  intro store seven
  have holds : store.Holds (.sharedWord 0) ⟨⟨8, by decide⟩, 200, by decide⟩ := rfl
  have sevenHolds : store.Holds seven ⟨⟨8, by decide⟩, 7, by decide⟩ := rfl
  rcases (perform_division (by decide) holds sevenHolds rfl (by decide)).1 with
    ⟨quotient, product, remainder, divides, multiplies, subtracts, remainderLt, sum⟩
  exact ⟨quotient, product, remainder, divides, multiplies _ rfl, subtracts _ rfl, sum, remainderLt⟩

end WordOperation

end PoolFees
