import PoolFees.Proofs.MulDiv.StepKinds

/-!
# Handing over to the wide route

The narrow route hands over when the product of the factors does not fit the width of amounts. It is
entered only by factors up to the limits, and the product of the limits is the first number that is
too large: 2 to the power of 64 for both pairs. So it hands over for the limits themselves and for
no other factors, however large one of them is beside the other.
-/

namespace PoolFees.MulDiv

/-- Up to limits whose product is the first number that is too large, only the product of the limits
is too large. -/
theorem not_fits_mul_iff {limits : Limits}
    (tight : limits.left * limits.right = capacity amountWidth) {left right : Nat}
    (leftBelow : left ≤ limits.left) (rightBelow : right ≤ limits.right) :
    ¬Fits amountWidth (left * right) ↔ left = limits.left ∧ right = limits.right := by
  have positive : 0 < limits.left * limits.right := by
    rw [tight]
    decide
  unfold Fits
  rw [← tight]
  constructor
  -- One factor below its limit brings the product below that of the limits.
  · intro large
    constructor
    · rcases Nat.lt_or_eq_of_le leftBelow with less | same
      · have positiveRight := Nat.pos_of_mul_pos_left positive
        exact (large (Nat.mul_lt_mul_of_lt_of_le less rightBelow positiveRight)).elim
      · exact same
    · rcases Nat.lt_or_eq_of_le rightBelow with less | same
      · have positiveLeft := Nat.pos_of_mul_pos_right positive
        exact (large (Nat.mul_lt_mul_of_le_of_lt leftBelow less positiveLeft)).elim
      · exact same
  · rintro ⟨left_eq, right_eq⟩
    rw [left_eq, right_eq]
    exact Nat.lt_irrefl _

/-- The routes of two factors that are small or not, and that hand over or not. Only in the last
case the narrow route has no product. The wide route has one whenever it is entered. -/
structure TakesRoutes (isSmall handsOver : Prop) (steps : List Step) : Prop where
  narrowEntered : .entered .narrow ∈ steps ↔ isSmall
  absentProduct : .combined .narrow .mul (.ok false) ∈ steps ↔ handsOver
  wideEntered : .entered .wide ∈ steps ↔ ¬isSmall ∨ handsOver
  wideProduct : .combined .wide .mul (.ok true) ∈ steps ↔ ¬isSmall ∨ handsOver

theorem TakesRoutes.congr {isSmall handsOver otherSmall otherHandsOver : Prop} {steps : List Step}
    (takes : TakesRoutes isSmall handsOver steps) (small_iff : isSmall ↔ otherSmall)
    (handsOver_iff : handsOver ↔ otherHandsOver) :
    TakesRoutes otherSmall otherHandsOver steps := by
  rwa [← propext small_iff, ← propext handsOver_iff]

section Words

variable {left right divisor : Word} (leftIsAmount : left.width = amount)
  (rightIsAmount : right.width = amount) (divisorIsAmount : divisor.width = amount)

include leftIsAmount rightIsAmount divisorIsAmount

/-- The product of two amounts is present on the wide route. -/
theorem wide_of_amounts :
    ∃ outcome, (wide words left right divisor).steps =
      wideSteps true ++ [.widened (.ok ()), .paired (.ok ()), .combined .wide .div outcome] := by
  have held : ∀ {word : Word}, word.width = amount → word.width.bits ≤ productWidth := by
    intro word isAmount
    rw [isAmount]
    decide
  have fits : ∀ {word : Word}, word.width = amount → Fits amountWidth word.value := by
    intro word isAmount
    have bits_eq : word.width.bits = amountWidth := congrArg Width.bits isAmount
    rw [← bits_eq]
    exact word.fits
  have productFits : Fits doubled.bits (left.value * right.value) :=
    (fits leftIsAmount).mul (fits rightIsAmount)
  rw [wide_of_present (held leftIsAmount) (held rightIsAmount) (held divisorIsAmount)
    (Word.ofNat?_eq doubled productFits)]
  exact ⟨_, rfl⟩

theorem takesRoutes_wide : TakesRoutes False False (wide words left right divisor).steps := by
  rcases wide_of_amounts leftIsAmount rightIsAmount divisorIsAmount with ⟨outcome, steps_eq⟩
  rw [steps_eq]
  constructor <;> simp [wideSteps]

/-- The narrow route hands over exactly when it has no product. -/
theorem takesRoutes_narrow :
    TakesRoutes True (¬Fits amountWidth (left.value * right.value))
      (narrow words left right divisor).steps := by
  have rightSame : right.width = left.width := rightIsAmount.trans leftIsAmount.symm
  have divisorSame : divisor.width = left.width := divisorIsAmount.trans leftIsAmount.symm
  have multiplied : left.calculate? .mul right.value =
      Word.ofNat? amount (left.value * right.value) := by
    rw [Word.calculate?_mul, leftIsAmount]
  by_cases productFits : Fits amountWidth (left.value * right.value)
  · rw [Word.ofNat?_eq amount productFits] at multiplied
    rw [narrow_of_present rightSame divisorSame multiplied]
    constructor <;> simp [narrowSteps, productFits]
  · rw [Word.ofNat?_eq_none amount productFits] at multiplied
    rcases wide_of_amounts leftIsAmount rightIsAmount divisorIsAmount with ⟨outcome, steps_eq⟩
    rw [narrow_of_absent rightSame multiplied, Recorded.after, steps_eq]
    constructor <;> simp [narrowSteps, wideSteps, productFits]

end Words

/-- Limits whose product is the first number that is too large are the only factors for which the
narrow route hands over. -/
theorem takesRoutes_recordMulDiv {store : Store} {limits : Limits}
    (tight : limits.left * limits.right = capacity amountWidth) {left right divisor : Value}
    {leftNumber rightNumber divisorNumber : Nat}
    (leftDenotes : store.Denotes left leftNumber) (rightDenotes : store.Denotes right rightNumber)
    (divisorDenotes : store.Denotes divisor divisorNumber)
    (leftFits : Fits amountWidth leftNumber) (rightFits : Fits amountWidth rightNumber)
    (divisorFits : Fits amountWidth divisorNumber) :
    TakesRoutes (leftNumber ≤ limits.left ∧ rightNumber ≤ limits.right)
      (leftNumber = limits.left ∧ rightNumber = limits.right)
      (store.recordMulDiv limits left right divisor).steps := by
  rw [Store.recordMulDiv_of_bind limits (Store.bind_amount leftDenotes leftFits)
    (Store.bind_amount rightDenotes rightFits) (Store.bind_amount divisorDenotes divisorFits),
    route_words]
  by_cases isLarge : limits.left < leftNumber ∨ limits.right < rightNumber
  -- A factor above its limit is not the limit, and the narrow route is not entered.
  · rw [if_pos isLarge]
    refine (takesRoutes_wide rfl rfl rfl).congr ?_ ?_
    · exact iff_of_false id (by omega)
    · exact iff_of_false id (by omega)
  · rw [if_neg isLarge]
    rw [not_or, Nat.not_lt, Nat.not_lt] at isLarge
    exact (takesRoutes_narrow rfl rfl rfl).congr (iff_of_true trivial isLarge)
      (not_fits_mul_iff tight isLarge.1 isLarge.2)

/-- In every call all operands have the width they are compared with and the product is present at
the width of products, and all operands are widened unless one of them holds no integer. Among
amounts the narrow route has no product, and hands over, for two factors of 2 to the power of 32
under the balanced limits and for those of 48 and 16 under the imbalanced ones, and for no others.
-/
theorem steps_of_call (store : Store) (left right divisor : Value) :
    (∀ limits, PassesChecks (∀ operand ∈ [left, right, divisor], store.HoldsInteger operand)
      (store.recordMulDiv limits left right divisor).steps) ∧
    ∀ leftNumber rightNumber divisorNumber : Nat,
      store.Denotes left leftNumber → store.Denotes right rightNumber →
      store.Denotes divisor divisorNumber →
      Fits amountWidth leftNumber → Fits amountWidth rightNumber →
      Fits amountWidth divisorNumber →
        TakesRoutes (leftNumber ≤ 2 ^ 32 ∧ rightNumber ≤ 2 ^ 32)
          (leftNumber = 2 ^ 32 ∧ rightNumber = 2 ^ 32)
          (store.recordMulDiv balanced left right divisor).steps ∧
        TakesRoutes (leftNumber ≤ 2 ^ 48 ∧ rightNumber ≤ 2 ^ 16)
          (leftNumber = 2 ^ 48 ∧ rightNumber = 2 ^ 16)
          (store.recordMulDiv imbalanced left right divisor).steps := by
  refine ⟨?_, ?_⟩
  · intro limits
    exact passesChecks_recordMulDiv store limits left right divisor
  · intro leftNumber rightNumber divisorNumber leftDenotes rightDenotes divisorDenotes leftFits
      rightFits divisorFits
    have balancedTight : balanced.left * balanced.right = capacity amountWidth := by decide
    have imbalancedTight : imbalanced.left * imbalanced.right = capacity amountWidth := by decide
    constructor
    · exact takesRoutes_recordMulDiv balancedTight leftDenotes rightDenotes divisorDenotes leftFits
        rightFits divisorFits
    · exact takesRoutes_recordMulDiv imbalancedTight leftDenotes rightDenotes divisorDenotes
        leftFits rightFits divisorFits

/-- One of two equal factors of 33 bits is in a word to the width of which a text was assigned.
Under the balanced limits their product is absent on the narrow route, and under the imbalanced ones
the narrow route is not entered at all. -/
theorem steps_of_call_at_limit :
    let store : Store := ⟨[⟨.whole 4294967296, .text "wide"⟩], [], [], .usual⟩
    TakesRoutes True True
      (store.recordMulDiv balanced (.sharedWord 0) (.whole 4294967296) (.whole 2)).steps ∧
    TakesRoutes False False
      (store.recordMulDiv imbalanced (.sharedWord 0) (.whole 4294967296) (.whole 2)).steps ∧
    ∀ outcome, .widened outcome ∈
      (store.recordMulDiv balanced (.sharedWord 0) (.whole 4294967296) (.whole 2)).steps →
        outcome = .ok () := by
  intro store
  have factorFits : Fits amountWidth 4294967296 := by decide
  have divisorFits : Fits amountWidth 2 := by decide
  have denotes : store.Denotes (.sharedWord 0) 4294967296 := .inr ⟨_, rfl⟩
  have allIntegers : ∀ operand ∈ [.sharedWord 0, .whole 4294967296, .whole 2],
      store.HoldsInteger operand := by
    rw [List.forall_mem_cons, List.forall_mem_cons, List.forall_mem_singleton]
    exact ⟨fun _ => ⟨_, denotes⟩, fun _ => ⟨_, .inl rfl⟩, fun _ => ⟨_, .inl rfl⟩⟩
  rcases steps_of_call store (.sharedWord 0) (.whole 4294967296) (.whole 2) with ⟨calls, amounts⟩
  rcases amounts 4294967296 4294967296 2 denotes (.inl rfl) (.inl rfl) factorFits factorFits
    divisorFits with ⟨ofBalanced, ofImbalanced⟩
  refine ⟨?_, ?_, ?_⟩
  · exact ofBalanced.congr (iff_of_true (by decide) trivial) (iff_of_true ⟨rfl, rfl⟩ trivial)
  · exact ofImbalanced.congr (iff_of_false (by decide) id) (iff_of_false (by decide) id)
  · exact (calls balanced).widened allIntegers

end PoolFees.MulDiv
