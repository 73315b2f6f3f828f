import PoolFees.MulDiv
import PoolFees.Proofs.Word

/-!
# The two routes

The product of two amounts divided by a third is exact: `MulDiv.scaled?` is the quotient rounded
down whenever the divisor is not zero and the quotient is an amount. Both routes give it.

The wide route is exact because the product of two amounts always has 128 bits. The narrow route
works at the width of the factors and hands over to the wide one when the product does not fit;
otherwise the quotient is at most the product, so it needs no check. Hence the limits that choose a
route do not affect the result.

For each route there is one statement on its whole record, the steps and the outcome.
-/

namespace PoolFees.MulDiv

/-- The product of two numbers divided by a third and rounded down, if it is an amount. -/
def scaled? (left right divisor : Nat) : Option Nat :=
  if divisor ≠ 0 ∧ Fits amountWidth (left * right / divisor) then some (left * right / divisor)
  else none

theorem scaled?_comm (left right divisor : Nat) :
    scaled? left right divisor = scaled? right left divisor := by
  simp only [scaled?, Nat.mul_comm]

@[simp]
theorem scaled?_zero_divisor (left right : Nat) : scaled? left right 0 = none := by
  simp [scaled?]

theorem scaled?_of_fits {left right divisor : Nat} (notZero : divisor ≠ 0)
    (fits : Fits amountWidth (left * right / divisor)) :
    scaled? left right divisor = some (left * right / divisor) := by
  simp only [scaled?, ne_eq, notZero, not_false_iff, fits, and_self, if_true]

section Records

variable {left right divisor product : Word}

theorem exists_widenTo (held : left.width.bits ≤ productWidth) :
    ∃ wide : Word, left.widenTo doubled = .ok wide ∧ wide.width = doubled ∧
      wide.value = left.value :=
  ⟨_, Word.widenTo_eq_ok doubled held, rfl, rfl⟩

theorem widen_words {wide : Word} (widens : left.widenTo doubled = .ok wide) :
    widen words left = ⟨[.widened (.ok ())], .ok wide⟩ := by
  have widened : words.widen left = .ok wide := widens
  rw [widen, widened]
  rfl

theorem combine_words (route : Route) (operation : Word.Arithmetic) {receiver operand : Word}
    (same : operand.width = receiver.width) :
    combine words route operation receiver operand =
      ⟨[.paired (.ok ()),
        .combined route operation (.ok (receiver.calculate? operation operand.value).isSome)],
        .ok (receiver.calculate? operation operand.value)⟩ := by
  have counts : words.operand receiver operand = .ok operand.value := if_pos same
  rw [combine, counts]
  rfl

/-- The steps of the wide route up to the product of its factors. -/
def wideSteps (present : Bool) : List Step :=
  [.entered .wide, .widened (.ok ()), .widened (.ok ()), .paired (.ok ()),
    .combined .wide .mul (.ok present)]

/-- The steps of the narrow route up to the product of its factors. -/
def narrowSteps (present : Bool) : List Step :=
  [.entered .narrow, .paired (.ok ()), .combined .narrow .mul (.ok present)]

/-- Without a product at the width of products the wide route has no result. -/
theorem wide_of_absent (leftHeld : left.width.bits ≤ productWidth)
    (rightHeld : right.width.bits ≤ productWidth)
    (absent : Word.ofNat? doubled (left.value * right.value) = none) :
    wide words left right divisor = ⟨wideSteps false, .ok none⟩ := by
  rcases exists_widenTo leftHeld with ⟨wideLeft, leftWidens, leftWidth, leftValue⟩
  rcases exists_widenTo rightHeld with ⟨wideRight, rightWidens, rightWidth, rightValue⟩
  have multiplied : wideLeft.calculate? .mul wideRight.value = none := by
    rw [Word.calculate?_mul, leftWidth, leftValue, rightValue, absent]
  have combines := combine_words .wide .mul (rightWidth.trans leftWidth.symm)
  simp only [wide, Recorded.enter, widen_words leftWidens, widen_words rightWidens,
    Recorded.ok_bind, combines, multiplied]
  rfl

/-- A product at the width of products is divided there, and its quotient has to be an amount. -/
theorem wide_of_present (leftHeld : left.width.bits ≤ productWidth)
    (rightHeld : right.width.bits ≤ productWidth) (divisorHeld : divisor.width.bits ≤ productWidth)
    (present : Word.ofNat? doubled (left.value * right.value) = some product) :
    wide words left right divisor =
      ⟨wideSteps true ++ [.widened (.ok ()), .paired (.ok ()),
        .combined .wide .div (.ok (product.calculate? .div divisor.value).isSome)],
        .ok ((product.calculate? .div divisor.value).bind (Word.resize? · amount))⟩ := by
  rcases exists_widenTo leftHeld with ⟨wideLeft, leftWidens, leftWidth, leftValue⟩
  rcases exists_widenTo rightHeld with ⟨wideRight, rightWidens, rightWidth, rightValue⟩
  rcases exists_widenTo divisorHeld with ⟨wideDivisor, divisorWidens, divisorWidth, divisorValue⟩
  have productWidth_eq := (Word.ofNat?_eq_some present).1
  have multiplied : wideLeft.calculate? .mul wideRight.value = some product := by
    rw [Word.calculate?_mul, leftWidth, leftValue, rightValue, present]
  have combines := combine_words .wide .mul (rightWidth.trans leftWidth.symm)
  have divides := combine_words .wide .div (divisorWidth.trans productWidth_eq.symm)
  rw [divisorValue] at divides
  simp only [wide, Recorded.enter, widen_words leftWidens, widen_words rightWidens,
    widen_words divisorWidens, Recorded.ok_bind, combines, multiplied, divides]
  cases product.calculate? .div divisor.value with
  | none => rfl
  | some quotient => rfl

/-- Without a product at the common width the same words are taken to the wide route. -/
theorem narrow_of_absent (rightSame : right.width = left.width)
    (absent : left.calculate? .mul right.value = none) :
    narrow words left right divisor =
      (wide words left right divisor).after (narrowSteps false) := by
  simp only [narrow, Recorded.enter, Recorded.ok_bind, combine_words .narrow .mul rightSame, absent]
  rfl

/-- A product at the common width is divided at once. -/
theorem narrow_of_present (rightSame : right.width = left.width)
    (divisorSame : divisor.width = left.width)
    (present : left.calculate? .mul right.value = some product) :
    narrow words left right divisor =
      ⟨narrowSteps true ++ [.paired (.ok ()),
        .combined .narrow .div (.ok (product.calculate? .div divisor.value).isSome)],
        .ok (product.calculate? .div divisor.value)⟩ := by
  have productWidth_eq := Word.width_of_calculate? present
  have divides := combine_words .narrow .div (divisorSame.trans productWidth_eq.symm)
  simp only [narrow, Recorded.enter, Recorded.ok_bind, combine_words .narrow .mul rightSame,
    present, divides]
  rfl

/-- The limits choose the route by the numbers in the factors. -/
theorem route_words (limits : Limits) :
    route words limits left right divisor =
      if limits.left < left.value ∨ limits.right < right.value then
        wide words left right divisor
      else narrow words left right divisor := by
  have large_eq : isLarge words limits left right =
      .ok (decide (limits.left < left.value ∨ limits.right < right.value)) := by
    by_cases leftIsLarge : limits.left < left.value
    · simp [isLarge, words, leftIsLarge, Bind.bind, Except.bind]
    · simp [isLarge, words, leftIsLarge, Bind.bind, Except.bind]
  rw [route, large_eq, Recorded.unseen_bind]
  simp only [decide_eq_true_eq]

end Records

/-- The number that is found without the steps that led to it. -/
def Recorded.found (recorded : Recorded (Option Word)) : Except Fault (Option Nat) :=
  (recorded.mapResult fun quotient => quotient.bind words.number?).outcome

section Found

variable {left right divisor : Word}

/-- At 128 bits only the product and the quotient are checked. -/
theorem found_wide (leftHeld : left.width.bits ≤ productWidth)
    (rightHeld : right.width.bits ≤ productWidth)
    (divisorHeld : divisor.width.bits ≤ productWidth) :
    (wide words left right divisor).found =
      .ok (if Fits productWidth (left.value * right.value) then
        scaled? left.value right.value divisor.value else none) := by
  by_cases productFits : Fits productWidth (left.value * right.value)
  · rw [if_pos productFits,
      wide_of_present leftHeld rightHeld divisorHeld (Word.ofNat?_eq doubled productFits),
      Word.calculate?_div]
    by_cases isZero : divisor.value = 0
    · rw [if_pos isZero, isZero, scaled?_zero_divisor]
      rfl
    · rw [if_neg isZero, Option.bind_some, Word.resize?]
      dsimp only
      by_cases quotientFits : Fits amountWidth (left.value * right.value / divisor.value)
      · rw [Word.ofNat?_eq amount quotientFits, scaled?_of_fits isZero quotientFits]
        rfl
      · rw [Word.ofNat?_eq_none amount quotientFits, scaled?,
          if_neg fun both => quotientFits both.2]
        rfl
  · have tooLarge := Word.ofNat?_eq_none doubled productFits
    rw [if_neg productFits, wide_of_absent leftHeld rightHeld tooLarge]
    rfl

/-- At the width of the factors the quotient of a product that fits is not checked any more. -/
theorem found_narrow (rightSame : right.width = left.width)
    (divisorSame : divisor.width = left.width) :
    (narrow words left right divisor).found =
      if Fits left.width.bits (left.value * right.value) then
        .ok (if divisor.value = 0 then none else some (left.value * right.value / divisor.value))
      else (wide words left right divisor).found := by
  by_cases productFits : Fits left.width.bits (left.value * right.value)
  · rw [if_pos productFits,
      narrow_of_present rightSame divisorSame (Word.ofNat?_eq left.width productFits),
      Word.calculate?_div]
    by_cases isZero : divisor.value = 0
    · rw [if_pos isZero, if_pos isZero]
      rfl
    · rw [if_neg isZero, if_neg isZero]
      rfl
  · rw [if_neg productFits,
      narrow_of_absent rightSame (Word.ofNat?_eq_none left.width productFits)]
    rfl

/-- At 128 bits no product of amounts is lost. -/
theorem found_wide_eq_scaled? (leftHeld : left.width.bits ≤ amountWidth)
    (rightHeld : right.width.bits ≤ amountWidth) (divisorHeld : divisor.width.bits ≤ productWidth) :
    (wide words left right divisor).found =
      .ok (scaled? left.value right.value divisor.value) := by
  have productFits : Fits productWidth (left.value * right.value) :=
    (left.fits.mul right.fits).mono (Nat.add_le_add leftHeld rightHeld)
  have widths : amountWidth ≤ productWidth := by decide
  rw [found_wide (Nat.le_trans leftHeld widths) (Nat.le_trans rightHeld widths) divisorHeld,
    if_pos productFits]

/-- Up to the width of amounts the narrow route is exact too. -/
theorem found_narrow_eq_scaled? (leftHeld : left.width.bits ≤ amountWidth)
    (rightSame : right.width = left.width) (divisorSame : divisor.width = left.width) :
    (narrow words left right divisor).found =
      .ok (scaled? left.value right.value divisor.value) := by
  rw [found_narrow rightSame divisorSame]
  by_cases productFits : Fits left.width.bits (left.value * right.value)
  · rw [if_pos productFits]
    by_cases isZero : divisor.value = 0
    · simp [isZero]
    · have quotientFits : Fits amountWidth (left.value * right.value / divisor.value) :=
        (productFits.of_le (Nat.div_le_self _ _)).mono leftHeld
      simp only [isZero, if_false, scaled?_of_fits isZero quotientFits]
  · have widths : amountWidth ≤ productWidth := by decide
    rw [if_neg productFits]
    exact found_wide_eq_scaled? leftHeld (rightSame ▸ leftHeld)
      (Nat.le_trans (divisorSame ▸ leftHeld) widths)

/-- The limits choose between two routes with the same result. -/
theorem found_route_eq_scaled? (limits : Limits) (leftHeld : left.width.bits ≤ amountWidth)
    (rightSame : right.width = left.width) (divisorSame : divisor.width = left.width) :
    (route words limits left right divisor).found =
      .ok (scaled? left.value right.value divisor.value) := by
  have widths : amountWidth ≤ productWidth := by decide
  rw [route_words]
  split
  · exact found_wide_eq_scaled? leftHeld (rightSame ▸ leftHeld)
      (Nat.le_trans (divisorSame ▸ leftHeld) widths)
  · exact found_narrow_eq_scaled? leftHeld rightSame divisorSame

end Found

end PoolFees.MulDiv
