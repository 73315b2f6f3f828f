/-!
# Written integers

An integer is written in base ten, with a minus sign when it is negative and without leading zeros.
Numerals are limited to `maxDigits` digits: a longer one is neither written nor read. The limit
keeps the cost of both directions bounded, and it is visible, because a message that would have to
hold a longer numeral cannot be produced.
-/

namespace PoolFees.Numeral

/-- The largest number of digits, the sign not counted, that a numeral may have. -/
def maxDigits : Nat := 4300

/-- A number is writable when its numeral has no more than `maxDigits` digits. -/
def Writable (number : Int) : Prop := number.natAbs < Nat.pow 10 maxDigits

instance : DecidablePred Writable := fun _ => Nat.decLt _ _

/-- The base-ten digits of a natural number, the most significant first. -/
def digits (number : Nat) : List Char := Nat.toDigits 10 number

/-- The numeral of an integer. -/
def write : Int → String
  | .ofNat number => number.repr
  | .negSucc number => "-" ++ (number + 1).repr

/-- The first digit of a positive number is not zero. -/
theorem digits_head {number : Nat} (positive : number ≠ 0) :
    ∃ first rest, digits number = first :: rest ∧ first ≠ '0' := by
  induction number using Nat.strongRecOn with
  | ind number ih =>
      rw [digits, Nat.toDigits_eq_if (by decide)]
      by_cases small : number < 10
      · have notZero : ∀ digit < 10, digit ≠ 0 → Nat.digitChar digit ≠ '0' := by decide
        exact ⟨_, [], if_pos small, notZero number small positive⟩
      · rcases ih (number / 10) (by omega) (by omega) with ⟨first, rest, digits_eq, notZero⟩
        refine ⟨first, rest ++ [Nat.digitChar (number % 10)], ?_, notZero⟩
        rw [digits] at digits_eq
        rw [if_neg small, digits_eq, List.cons_append]

theorem isDigit_of_mem_digits {number : Nat} {character : Char}
    (member : character ∈ digits number) : character.isDigit = true :=
  Nat.isDigit_of_mem_toDigits (by decide) (by decide) member

theorem ofDigitChars_digits (number : Nat) : Nat.ofDigitChars 10 (digits number) 0 = number :=
  Nat.ofDigitChars_ten_toDigits

/-- Only the numeral of zero starts with a zero. -/
theorem eq_zero_of_head? {number : Nat} (startsWithZero : (digits number).head? = some '0') :
    number = 0 := by
  by_cases isZero : number = 0
  · exact isZero
  · rcases digits_head isZero with ⟨first, rest, digits_eq, notZero⟩
    rw [digits_eq, List.head?_cons, Option.some.injEq] at startsWithZero
    exact absurd startsWithZero notZero

theorem toList_write_ofNat (number : Nat) : (write number).toList = digits number := by
  change number.repr.toList = _
  simp [Nat.repr, digits]

theorem writable_iff_length_digits {number : Nat} :
    Writable number ↔ (digits number).length ≤ maxDigits := by
  rw [Writable, Int.natAbs_natCast, Nat.pow_eq, digits,
    Nat.length_toDigits_le_iff (by decide) (by decide)]

theorem writable_of_lt_pow {number count : Nat} (below : number < Nat.pow 10 count)
    (few : count ≤ maxDigits) : Writable number := by
  have more : Nat.pow 10 count ≤ Nat.pow 10 maxDigits := by
    rw [Nat.pow_eq, Nat.pow_eq]
    exact Nat.pow_le_pow_right (by decide) few
  exact Nat.lt_of_lt_of_le below more

end PoolFees.Numeral
