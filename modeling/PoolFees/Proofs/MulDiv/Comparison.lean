import PoolFees.Operation.Perform
import PoolFees.Proofs.MulDiv.Exactness

/-!
# The routes compared

The narrow route is the cheaper one. Up to the width of amounts it gives what the wide route gives,
for all factors and divisors, so that the limits that choose between them decide about the cost
alone.

Between the width of amounts and that of products the routes still agree when the product does not
fit the common width, because then the narrow one hands over, and when the divisor is zero. What is
left is a product that fits. Its quotient is checked on the wide route and not on the narrow one, so
the routes differ exactly when it is no amount.
-/

namespace PoolFees

namespace MulDiv

section Comparison

variable {left right divisor : Word}

/-- The product fits the common width, and its quotient is no amount. -/
def HasLargeQuotient (left right divisor : Word) : Prop :=
  divisor.value ≠ 0 ∧ Fits left.width.bits (left.value * right.value) ∧
    ¬Fits amountWidth (left.value * right.value / divisor.value)

/-- A product that fits the width of amounts has no larger quotient. -/
theorem not_hasLargeQuotient (held : left.width.bits ≤ amountWidth) :
    ¬HasLargeQuotient left right divisor := by
  rintro ⟨_, productFits, large⟩
  exact large ((productFits.of_le (Nat.div_le_self _ _)).mono held)

/-- A product that fits the common width is not lost on the wide route. -/
theorem found_wide_of_fits (held : left.width.bits ≤ productWidth)
    (rightSame : right.width = left.width) (divisorSame : divisor.width = left.width)
    (productFits : Fits left.width.bits (left.value * right.value)) :
    (wide words left right divisor).found =
      .ok (scaled? left.value right.value divisor.value) := by
  rw [found_wide held (rightSame ▸ held) (divisorSame ▸ held), if_pos (productFits.mono held)]

theorem found_narrow_eq_wide (held : left.width.bits ≤ productWidth)
    (rightSame : right.width = left.width) (divisorSame : divisor.width = left.width)
    (notLarge : ¬HasLargeQuotient left right divisor) :
    (narrow words left right divisor).found = (wide words left right divisor).found := by
  rw [found_narrow rightSame divisorSame]
  by_cases productFits : Fits left.width.bits (left.value * right.value)
  · rw [if_pos productFits, found_wide_of_fits held rightSame divisorSame productFits]
    by_cases isZero : divisor.value = 0
    · rw [if_pos isZero, isZero, scaled?_zero_divisor]
    · by_cases quotientFits : Fits amountWidth (left.value * right.value / divisor.value)
      · rw [if_neg isZero, scaled?_of_fits isZero quotientFits]
      · exact absurd ⟨isZero, productFits, quotientFits⟩ notLarge
  · rw [if_neg productFits]

/-- Only the narrow route gives a quotient that is no amount. -/
theorem found_of_hasLargeQuotient (held : left.width.bits ≤ productWidth)
    (rightSame : right.width = left.width) (divisorSame : divisor.width = left.width)
    (large : HasLargeQuotient left right divisor) :
    (narrow words left right divisor).found =
        .ok (some (left.value * right.value / divisor.value)) ∧
      (wide words left right divisor).found = .ok none := by
  rcases large with ⟨notZero, productFits, quotientLarge⟩
  constructor
  · rw [found_narrow rightSame divisorSame, if_pos productFits, if_neg notZero]
  · rw [found_wide_of_fits held rightSame divisorSame productFits]
    simp only [scaled?, quotientLarge, and_false, if_false]

end Comparison

end MulDiv

namespace MulDiv.Recorded

/-- A quotient of words is answered as its number, in both representations. -/
theorem map_content_ofWord (recorded : Recorded (Option Word)) :
    (recorded.mapResult (Option.map .ofWord)).outcome.map (Value.ofOption LooseWord.content) =
      recorded.found.map .ofFee := by
  rcases recorded with ⟨steps, fault | _ | quotient⟩
  · rfl
  · rfl
  · rfl

theorem map_value (recorded : Recorded (Option Word)) :
    recorded.outcome.map (Value.ofOption fun quotient => .whole quotient.value) =
      recorded.found.map .ofFee := by
  rcases recorded with ⟨steps, fault | _ | quotient⟩
  · rfl
  · rfl
  · rfl

end MulDiv.Recorded

namespace MulDivOperation

/-- The route that an operation names, if it names one. -/
def route? : MulDivOperation → Option (Word → Word → Word → MulDiv.Recorded (Option Word))
  | compute _ => none
  | wide => some (MulDiv.wide MulDiv.words)
  | narrow => some (MulDiv.narrow MulDiv.words)

variable {store : Store} {left right divisor : Value} {leftWord rightWord divisorWord : Word}

/-- A value that is a word has that word as its parts. -/
theorem words_of_parts {first second third : Word} {origin secondOrigin thirdOrigin : Origin}
    (leftParts : store.word? left = some (.ofWord leftWord))
    (rightParts : store.word? right = some (.ofWord rightWord))
    (divisorParts : store.word? divisor = some (.ofWord divisorWord))
    (same : [left, right, divisor] =
      [.word first origin, .word second secondOrigin, .word third thirdOrigin]) :
    first = leftWord ∧ second = rightWord ∧ third = divisorWord := by
  cases same
  exact ⟨LooseWord.ofWord_injective (Option.some.inj leftParts),
    LooseWord.ofWord_injective (Option.some.inj rightParts),
    LooseWord.ofWord_injective (Option.some.inj divisorParts)⟩

/-- An operation that names a route takes it with the words that its operands are. -/
theorem perform_of_route {operation : MulDivOperation}
    {route : Word → Word → Word → MulDiv.Recorded (Option Word)}
    (named : operation.route? = some route) (held : store.memory.Holds leftWord.width)
    (leftParts : store.word? left = some (.ofWord leftWord))
    (rightParts : store.word? right = some (.ofWord rightWord))
    (divisorParts : store.word? divisor = some (.ofWord divisorWord)) :
    operation.perform store [left, right, divisor] =
      (route leftWord rightWord divisorWord).found.map .ofFee := by
  unfold perform
  split
  -- An operation that chooses by limits names no route.
  case h_1 => cases named
  -- All operands are words that were never assigned to.
  case h_2 properWords =>
    cases named
    rcases words_of_parts leftParts rightParts divisorParts properWords with ⟨rfl, rfl, rfl⟩
    exact MulDiv.Recorded.map_value _
  case h_3 properWords =>
    cases named
    rcases words_of_parts leftParts rightParts divisorParts properWords with ⟨rfl, rfl, rfl⟩
    exact MulDiv.Recorded.map_value _
  -- One of the operands is held in the store or is loose, so the loose route is taken.
  case h_4 arguments_eq =>
    cases named
    cases arguments_eq
    simp only [leftParts, rightParts, divisorParts]
    rw [MulDiv.wide_ofWord, MulDiv.Recorded.map_content_ofWord]
  case h_5 arguments_eq =>
    cases named
    cases arguments_eq
    simp only [leftParts, rightParts, divisorParts]
    rw [MulDiv.narrow_ofWord held, MulDiv.Recorded.map_content_ofWord]
  -- There are no other operations.
  case h_6 other _ _ notCompute _ _ notWide notNarrow =>
    cases other with
    | compute limits => exact absurd rfl (notCompute limits _ _ _ rfl)
    | wide => exact absurd rfl (notWide _ _ _ rfl)
    | narrow => exact absurd rfl (notNarrow _ _ _ rfl)

/-- Up to the width of amounts it makes no difference by which limits a route is chosen. -/
theorem perform_compute_eq_wide (limits : MulDiv.Limits)
    (leftParts : store.word? left = some (.ofWord leftWord))
    (rightParts : store.word? right = some (.ofWord rightWord))
    (divisorParts : store.word? divisor = some (.ofWord divisorWord))
    (leftHeld : leftWord.width.bits ≤ MulDiv.amountWidth)
    (rightHeld : rightWord.width.bits ≤ MulDiv.amountWidth)
    (divisorHeld : divisorWord.width.bits ≤ MulDiv.amountWidth) :
    (compute limits).perform store [left, right, divisor] =
      wide.perform store [left, right, divisor] := by
  have computed := Store.mulDiv_eq_scaled? limits
    (Store.bind_amount (.inr ⟨_, leftParts⟩) (leftWord.fits.mono leftHeld))
    (Store.bind_amount (.inr ⟨_, rightParts⟩) (rightWord.fits.mono rightHeld))
    (Store.bind_amount (.inr ⟨_, divisorParts⟩) (divisorWord.fits.mono divisorHeld))
  have widths : MulDiv.amountWidth ≤ MulDiv.productWidth := by decide
  have wide_named : wide.route? = some (MulDiv.wide MulDiv.words) := rfl
  have held : store.memory.Holds leftWord.width :=
    store.memory.holds_of_le (Nat.le_trans leftHeld widths)
  rw [perform_of_route wide_named held leftParts rightParts divisorParts,
    MulDiv.found_wide_eq_scaled? leftHeld rightHeld (Nat.le_trans divisorHeld widths)]
  exact congrArg (Except.map Value.ofFee) computed

/-- On words of one width the two routes never fail up to the width of products. Up to the width of
amounts they agree, with each other and with the operation that chooses between them by any limits.
Above it they differ exactly when the product fits and its quotient is no amount; then the quotient
is the result of the narrow route alone. -/
theorem routes_of_common_width (leftParts : store.word? left = some (.ofWord leftWord))
    (rightParts : store.word? right = some (.ofWord rightWord))
    (divisorParts : store.word? divisor = some (.ofWord divisorWord))
    (rightSame : rightWord.width = leftWord.width)
    (divisorSame : divisorWord.width = leftWord.width)
    (held : leftWord.width.bits ≤ MulDiv.productWidth) :
    let bits := leftWord.width.bits
    let product := leftWord.value * rightWord.value
    let quotient := product / divisorWord.value
    let fromNarrow := narrow.perform store [left, right, divisor]
    let fromWide := wide.perform store [left, right, divisor]
    (∃ result, fromNarrow = .ok (.ofFee result)) ∧ (∃ result, fromWide = .ok (.ofFee result)) ∧
      (bits ≤ MulDiv.amountWidth → fromNarrow = fromWide ∧
        ∀ limits, (compute limits).perform store [left, right, divisor] = fromWide) ∧
      (MulDiv.amountWidth < bits →
        (fromNarrow ≠ fromWide ↔ divisorWord.value ≠ 0 ∧ Fits bits product ∧
          ¬Fits MulDiv.amountWidth quotient) ∧
        (fromNarrow ≠ fromWide → fromNarrow = .ok (.whole quotient) ∧ fromWide = .ok .absent)) := by
  intro bits product quotient fromNarrow fromWide
  have memoryHolds : store.memory.Holds leftWord.width := store.memory.holds_of_le held
  have narrow_eq : fromNarrow =
      (MulDiv.narrow MulDiv.words leftWord rightWord divisorWord).found.map .ofFee :=
    perform_of_route rfl memoryHolds leftParts rightParts divisorParts
  have wide_eq : fromWide =
      (MulDiv.wide MulDiv.words leftWord rightWord divisorWord).found.map .ofFee :=
    perform_of_route rfl memoryHolds leftParts rightParts divisorParts
  have agree : ¬MulDiv.HasLargeQuotient leftWord rightWord divisorWord →
      fromNarrow = fromWide := by
    intro notLarge
    rw [narrow_eq, wide_eq, MulDiv.found_narrow_eq_wide held rightSame divisorSame notLarge]
  have differ : MulDiv.HasLargeQuotient leftWord rightWord divisorWord →
      fromNarrow = .ok (.whole quotient) ∧ fromWide = .ok .absent := by
    intro large
    rcases MulDiv.found_of_hasLargeQuotient held rightSame divisorSame large with
      ⟨narrowResult, wideResult⟩
    rw [narrow_eq, wide_eq, narrowResult, wideResult]
    exact ⟨rfl, rfl⟩
  have wideSucceeds : ∃ result, fromWide = .ok (.ofFee result) := by
    rw [wide_eq, MulDiv.found_wide held (rightSame ▸ held) (divisorSame ▸ held)]
    exact ⟨_, rfl⟩
  refine ⟨?_, wideSucceeds, ?_, ?_⟩
  · by_cases large : MulDiv.HasLargeQuotient leftWord rightWord divisorWord
    · exact ⟨some quotient, (differ large).1⟩
    · rw [agree large]
      exact wideSucceeds
  · intro isAmount
    refine ⟨agree (MulDiv.not_hasLargeQuotient isAmount), ?_⟩
    intro limits
    exact perform_compute_eq_wide limits leftParts rightParts divisorParts isAmount
      (rightSame ▸ isAmount) (divisorSame ▸ isAmount)
  · intro above
    have large_of_ne : fromNarrow ≠ fromWide →
        MulDiv.HasLargeQuotient leftWord rightWord divisorWord := by
      intro differs
      exact Classical.byContradiction fun notLarge => differs (agree notLarge)
    refine ⟨⟨large_of_ne, ?_⟩, fun differs => differ (large_of_ne differs)⟩
    intro large
    rcases differ large with ⟨narrowResult, wideResult⟩
    rw [narrowResult, wideResult]
    exact fun same => nomatch same

/-- A factor of 65 bits, held by a word to which it was assigned, is no amount and only given back
by the narrow route. At eight bits the product of 16 and 16 does not fit, and both routes give half
of it. -/
theorem routes_of_assigned_factor :
    let store : Store := ⟨[⟨.whole 18446744073709551616, .whole 65⟩], [], [], .usual⟩
    let one : Value := .word ⟨⟨65, by decide⟩, 1, by decide⟩ []
    let byte (value : Nat) (fits : Fits 8 value) : Value := .word ⟨⟨8, by decide⟩, value, fits⟩ []
    let bytes : List Value := [byte 16 (by decide), byte 16 (by decide), byte 2 (by decide)]
    (narrow.perform store [.sharedWord 0, one, one] = .ok (.whole 18446744073709551616) ∧
      wide.perform store [.sharedWord 0, one, one] = .ok .absent) ∧
    narrow.perform store bytes = wide.perform store bytes ∧
      wide.perform store bytes = .ok (.whole 128) := by
  intro store one byte bytes
  constructor
  · have compared := @routes_of_common_width store (.sharedWord 0) one one
      ⟨⟨65, by decide⟩, 18446744073709551616, by decide⟩ ⟨⟨65, by decide⟩, 1, by decide⟩
      ⟨⟨65, by decide⟩, 1, by decide⟩ rfl rfl rfl rfl rfl (by decide)
    rcases compared.2.2.2 (by decide) with ⟨differs_iff, results⟩
    exact results (differs_iff.2 (by decide))
  · have compared := @routes_of_common_width store (byte 16 (by decide)) (byte 16 (by decide))
      (byte 2 (by decide)) _ _ _ rfl rfl rfl rfl rfl (by decide)
    exact ⟨(compared.2.2.1 (by decide)).1, rfl⟩

end MulDivOperation

end PoolFees
