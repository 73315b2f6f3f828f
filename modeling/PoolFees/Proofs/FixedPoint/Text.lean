import PoolFees.FixedPoint

/-!
# Digits with a point

The text of a fixed-point number is made of the digits of its magnitude. Either they are split by
the point, or they are filled up with zeros behind a zero and the point. In both cases the digits
around the point read as the magnitude, and the number of digits behind it is the count of decimal
places. So nothing is lost: the text determines both.
-/

namespace PoolFees

namespace FixedPoint

/-- A text of digits and one point, with as many digits behind the point as there are places and at
least one before it, none of them a zero that could be left out. Without the point the text reads as
a number. -/
structure Writes (number places : Nat) (text : List Char) : Prop where
  onePoint : text.count '.' = 1
  digits : ∀ character ∈ text, character = '.' ∨ character.isDigit = true
  parts : ∃ whole fraction, text = whole ++ '.' :: fraction ∧ fraction.length = places ∧
    whole ≠ [] ∧ (whole.head? = some '0' → whole = ['0'])
  number_eq : Nat.ofDigitChars 10 (text.filter (· != '.')) 0 = number

/-- The digits are split by the point, or they are filled up with zeros. -/
theorem insertPoint_parts (digits : List Char) (places : Nat) :
    ∃ whole fraction, insertPoint digits places = whole ++ '.' :: fraction ∧
      fraction.length = places ∧
      (whole ≠ [] ∧ whole ++ fraction = digits ∨
        ∃ count, whole = ['0'] ∧ fraction = List.replicate count '0' ++ digits) := by
  unfold insertPoint
  split
  · rename_i short
    refine ⟨['0'], List.replicate (places - digits.length) '0' ++ digits, rfl, ?_,
      .inr ⟨_, rfl, rfl⟩⟩
    rw [List.length_append, List.length_replicate]
    omega
  · rename_i long
    refine ⟨_, _, rfl, ?_, .inl ⟨?_, List.take_append_drop _ _⟩⟩
    · rw [List.length_drop]
      omega
    · rw [Ne, ← List.length_eq_zero_iff, List.length_take]
      omega

section Parts

variable {number places : Nat} {whole fraction : List Char}

theorem filter_point (noPoint : '.' ∉ whole ++ fraction) :
    (whole ++ '.' :: fraction).filter (· != '.') = whole ++ fraction := by
  rw [List.mem_append, not_or] at noPoint
  have kept : ∀ part : List Char, '.' ∉ part → part.filter (· != '.') = part := by
    intro part noPoint
    rw [List.filter_eq_self]
    intro character member
    rw [bne_iff_ne]
    rintro rfl
    exact noPoint member
  rw [List.filter_append, List.filter_cons_of_neg (by decide), kept whole noPoint.1,
    kept fraction noPoint.2]

theorem head?_of_digits (digits_eq : whole ++ fraction = Numeral.digits number)
    (notEmpty : whole ≠ []) (startsWithZero : whole.head? = some '0') : whole = ['0'] := by
  rcases List.exists_cons_of_ne_nil notEmpty with ⟨first, rest, rfl⟩
  have isZero : number = 0 := Numeral.eq_zero_of_head? (by rw [← digits_eq]; exact startsWithZero)
  rw [isZero] at digits_eq
  have zero_digits : Numeral.digits 0 = ['0'] := rfl
  rw [zero_digits, List.cons_append, List.cons.injEq, List.append_eq_nil_iff] at digits_eq
  rw [digits_eq.1, digits_eq.2.1]

theorem writes_of_parts (areDigits : ∀ character ∈ whole ++ fraction, character.isDigit = true)
    (length_eq : fraction.length = places) (notEmpty : whole ≠ [])
    (noZero : whole.head? = some '0' → whole = ['0'])
    (number_eq : Nat.ofDigitChars 10 (whole ++ fraction) 0 = number) :
    Writes number places (whole ++ '.' :: fraction) := by
  have noPoint : '.' ∉ whole ++ fraction := fun member => absurd (areDigits _ member) (by decide)
  constructor
  · have count_eq := List.count_eq_zero.2 noPoint
    rw [List.count_append] at count_eq
    rw [List.count_append, List.count_cons_self]
    omega
  · intro character member
    rw [List.mem_append, List.mem_cons] at member
    rcases member with inWhole | isPoint | inFraction
    · exact .inr (areDigits character (List.mem_append_left _ inWhole))
    · exact .inl isPoint
    · exact .inr (areDigits character (List.mem_append_right _ inFraction))
  · exact ⟨whole, fraction, rfl, length_eq, notEmpty, noZero⟩
  · rw [filter_point noPoint, number_eq]

end Parts

theorem ofDigitChars_replicate_zero (count : Nat) (digits : List Char) :
    Nat.ofDigitChars 10 (List.replicate count '0' ++ digits) 0 = Nat.ofDigitChars 10 digits 0 := by
  induction count with
  | zero => rfl
  | succ count ih =>
      rw [List.replicate_succ, List.cons_append, Nat.ofDigitChars_cons]
      exact ih

theorem writes_insertPoint (number places : Nat) :
    Writes number places (insertPoint (Numeral.digits number) places) := by
  rcases insertPoint_parts (Numeral.digits number) places with
    ⟨whole, fraction, text_eq, length_eq, ⟨notEmpty, digits_eq⟩ | ⟨count, rfl, fraction_eq⟩⟩
  · rw [text_eq]
    refine writes_of_parts ?_ length_eq notEmpty (head?_of_digits digits_eq notEmpty) ?_
    · rw [digits_eq]
      exact fun character member => Numeral.isDigit_of_mem_digits member
    · rw [digits_eq, Numeral.ofDigitChars_digits]
  · rw [text_eq]
    refine writes_of_parts ?_ length_eq (by decide) (fun _ => rfl) ?_
    · intro character member
      rw [fraction_eq, List.mem_append, List.mem_append, List.mem_singleton] at member
      rcases member with rfl | filled | isDigit
      · rfl
      · rw [List.eq_of_mem_replicate filled]
        rfl
      · exact Numeral.isDigit_of_mem_digits isDigit
    · rw [fraction_eq]
      have filled_eq := ofDigitChars_replicate_zero (count + 1) (Numeral.digits number)
      exact filled_eq.trans (Numeral.ofDigitChars_digits number)

end FixedPoint

end PoolFees
