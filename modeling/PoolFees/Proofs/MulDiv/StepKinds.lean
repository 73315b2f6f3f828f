import PoolFees.Proofs.MulDiv.Exactness
import PoolFees.Proofs.Word.Combination

/-!
# Kinds of steps

What a route can do is said once, by the kinds of steps that it takes: `MulDiv.OnNarrow` and
`MulDiv.OnWide`. Every call takes steps of these kinds only, whatever its operands are, and from the
kinds one reads off which checks never fail.

Each operand was bound to the width of amounts, so its width is never above the width it is moved
to, and both sides of an operation always have the same width. A product of two amounts fits the
width of products. A refusal is left only for a word to which something was assigned that is no
integer: it is bound as it is at first, and looked at when it is widened.
-/

namespace PoolFees

namespace MulDiv

/-- What a word can hold that was bound to the width of amounts: a number that fits or, on a
condition, a content that is neither an integer nor a word. -/
inductive IsBound (store : Store) (condition : Prop) : LooseWord → Prop where
  | number {number : Nat} (fits : Fits amountWidth number) :
      IsBound store condition (.ofWord ⟨amount, number, fits⟩)
  | other (allowed : condition) {content : Value} (notWord : store.word? content = none)
      (notWhole : ∀ number, content ≠ .whole number) :
      IsBound store condition ⟨content, .whole amountWidth⟩

namespace IsBound

variable {store : Store} {condition weaker : Prop} {word : LooseWord}

theorem mono (bound : IsBound store condition word) (weakens : condition → weaker) :
    IsBound store weaker word := by
  cases bound with
  | number fits => exact .number fits
  | other allowed notWord notWhole => exact .other (weakens allowed) notWord notWhole

theorem width_eq (bound : IsBound store condition word) : word.width = .whole amountWidth := by
  cases bound with
  | number fits => rfl
  | other allowed notWord notWhole => rfl

end IsBound

end MulDiv

namespace Store

variable {store : Store} {left right : Value} {flag : Bool}

/-- A word is never found to be below what is no word. -/
theorem word?_of_relates_below (notWord : store.word? right = none)
    (compares : store.relates .below left right = .ok flag) : store.word? left = none := by
  cases found : store.word? left with
  | none => rfl
  | some word =>
      change store.relatesTo (999 + 1) _ _ _ = _ at compares
      simp [relatesTo, found, notWord, refuse] at compares

end Store

namespace LooseWord

variable {store : Store} {value width : Value} {word operand result : LooseWord}

theorem word?_of_bindContent (binds : bindContent store width value = .ok word) :
    store.word? value = none := by
  rcases Except.bind_eq_ok_iff.1 binds with ⟨isBelow, compares, _⟩
  exact Store.word?_of_relates_below rfl compares

/-- A word that is put together from parts has these parts. -/
theorem word?_toValue (store : Store) (word : LooseWord) :
    store.word? word.toValue = some word := by
  rcases word with ⟨content, width⟩
  unfold toValue
  split
  · rename_i number bits content_eq width_eq
    cases content_eq
    cases width_eq
    cases bound_eq : Word.ofParts? bits number with
    | none => rfl
    | some bound =>
        rcases Word.ofParts?_eq_some bound_eq with ⟨rfl, rfl⟩
        rfl
  · rfl

/-- Only what was assigned to a word can be bound without being an integer. -/
theorem isBound_of_bind (binds : bind store (.whole MulDiv.amountWidth) value = .ok word) :
    MulDiv.IsBound store (¬store.HoldsInteger value) word := by
  -- An integer has to fit. Anything else is only bound if it was assigned to a word before.
  by_cases isInteger : ∃ number : Int, store.Denotes value number
  · rcases isInteger with ⟨number, denotes⟩
    rcases denotes.isInRange MulDiv.amountWidth binds with ⟨natural, rfl, fits⟩
    rw [Store.bind_amount denotes fits] at binds
    cases binds
    exact .number fits
  · cases found : store.word? value with
    | none =>
        rcases fits_of_bind found binds with ⟨number, rfl, _⟩
        exact (isInteger ⟨number, .inl rfl⟩).elim
    | some parts =>
        have isLoose : value.isLoose = true := by
          cases value with
          | word bound origin => exact (isInteger ⟨bound.value, .inr ⟨_, rfl⟩⟩).elim
          | looseWord | sharedWord => rfl
          | _ => cases found
        have notWhole : ∀ number, parts.content ≠ .whole number := by
          intro number content_eq
          exact isInteger ⟨number, .inr ⟨parts.width, by rw [found, ← content_eq]⟩⟩
        simp only [bind, found] at binds
        rw [bindContent_eq_ok binds]
        exact .other (fun holds => isInteger (holds isLoose)) (word?_of_bindContent binds) notWhole

/-- A word of the same width is an operand by its content, whatever it holds. -/
theorem operand_toValue {receiver : LooseWord} {bits : Int}
    (receiverWidth : receiver.width = .whole bits) (operandWidth : operand.width = .whole bits) :
    receiver.operand store operand.toValue = .ok operand.content := by
  simp only [LooseWord.operand, word?_toValue, receiverWidth, operandWidth, Store.equals_whole,
    BEq.rfl, Bind.bind, Except.bind, if_true]

theorem width_of_calculate {receiver : LooseWord} {operation : Word.Arithmetic} {content : Value}
    (ends : receiver.calculate store operation content = .ok (some result)) :
    result.width = receiver.width := by
  have width_eq : ∀ {value : Value},
      (bind store receiver.width value).map some = .ok (some result) →
        result.width = receiver.width := by
    intro value binds
    rcases Except.map_eq_ok_iff.1 binds with ⟨bound, bound_eq, same⟩
    cases same
    exact width_of_bind bound_eq
  cases operation with
  | sub =>
      rcases Except.bind_eq_ok_iff.1 ends with ⟨_, _, ends⟩
      rcases Except.bind_eq_ok_iff.1 ends with ⟨isBelow, _, ends⟩
      cases isBelow with
      | true => cases ends
      | false => exact width_eq ends
  | mul =>
      rcases Except.bind_eq_ok_iff.1 ends with ⟨_, _, ends⟩
      rcases Except.bind_eq_ok_iff.1 ends with ⟨_, _, ends⟩
      rcases Except.bind_eq_ok_iff.1 ends with ⟨isLarge, _, ends⟩
      cases isLarge with
      | true => cases ends
      | false => exact width_eq ends
  | div =>
      rcases Except.bind_eq_ok_iff.1 ends with ⟨isZero, _, ends⟩
      cases isZero with
      | true => cases ends
      | false =>
          rcases Except.bind_eq_ok_iff.1 ends with ⟨_, _, ends⟩
          exact width_eq ends

end LooseWord

namespace MulDiv

namespace Recorded

variable {α β γ : Type}

/-- Only steps of a kind are taken. -/
def Only (kind : Step → Prop) (recorded : Recorded α) : Prop := ∀ step ∈ recorded.steps, kind step

theorem only_unseen (kind : Step → Prop) (outcome : Except Fault α) : (unseen outcome).Only kind :=
  List.forall_mem_nil kind

theorem only_seen {kind : Step → Prop} {step : Except Fault β → Step} {shown : α → β}
    {outcome : Except Fault α} (isOfKind : kind (step (outcome.map shown))) :
    (seen step shown outcome).Only kind :=
  List.forall_mem_singleton.2 isOfKind

theorem only_enter {kind : Step → Prop} {route : Route} (isOfKind : kind (.entered route)) :
    (enter route).Only kind :=
  List.forall_mem_singleton.2 isOfKind

theorem only_pair {kind : Step → Prop} {first second : Step} {outcome : Except Fault α}
    (firstIsOfKind : kind first) (secondIsOfKind : kind second) :
    Only kind ⟨[first, second], outcome⟩ :=
  List.forall_mem_cons.2 ⟨firstIsOfKind, List.forall_mem_singleton.2 secondIsOfKind⟩

/-- The steps are those of what is done first and of what follows its result. -/
theorem Only.bind {kind : Step → Prop} {recorded : Recorded α} {next : α → Recorded β}
    (first : recorded.Only kind)
    (rest : ∀ result, recorded.outcome = .ok result → (next result).Only kind) :
    (recorded >>= next).Only kind := by
  cases ends : recorded.outcome with
  | error fault =>
      rw [bind_of_error next ends]
      exact first
  | ok result =>
      rw [bind_of_ok next ends]
      exact List.forall_mem_append.2 ⟨first, rest result ends⟩

end Recorded

/-- The steps that are taken on the wide route. A word is refused only on a condition. -/
inductive OnWide (condition : Prop) : Step → Prop where
  | entered : OnWide condition (.entered .wide)
  | widened : OnWide condition (.widened (.ok ()))
  | notWidened (allowed : condition) (fault : Fault) : OnWide condition (.widened (.error fault))
  | paired : OnWide condition (.paired (.ok ()))
  | multiplied : OnWide condition (.combined .wide .mul (.ok true))
  | divided (outcome : Except Fault Bool) : OnWide condition (.combined .wide .div outcome)

/-- The steps that are taken on the narrow route before it ends or hands over. -/
inductive OnNarrow : Step → Prop where
  | entered : OnNarrow (.entered .narrow)
  | paired : OnNarrow (.paired (.ok ()))
  | combined (operation : Word.Arithmetic) (outcome : Except Fault Bool) :
      OnNarrow (.combined .narrow operation outcome)

section Kinds

open Recorded LooseWord

variable {store : Store} {condition : Prop} {word left right divisor result : LooseWord}

/-- A word is widened as the number that it holds, or it holds no integer. -/
theorem widen_cases (bound : IsBound store condition word) :
    (∃ number held, Fits amountWidth number ∧
      word.widen store (.whole productWidth) = .ok (.ofWord ⟨doubled, number, held⟩)) ∨
    condition ∧ ∃ fault, word.widen store (.whole productWidth) = .error fault := by
  cases bound with
  | @number number fits =>
      have wider : amount.bits ≤ doubled.bits := by decide
      have widens : Word.widen store.memory ⟨amount, number, fits⟩ productWidth =
          .ok ⟨doubled, number, fits.mono wider⟩ :=
        (Word.widen_of_holds (holds_doubled store) _).trans (Word.widenTo_eq_ok doubled wider)
      refine .inl ⟨number, fits.mono wider, fits, ?_⟩
      rw [LooseWord.widen_ofWord, widens]
      rfl
  | @other allowed content notWord notWhole =>
      -- The width is large enough, but the content is bound bare now and has to be an integer.
      have notBelow : store.relates .below (.whole productWidth) (.whole amountWidth) =
          .ok false := by
        rw [Store.relates_whole, Relation.admits_below]
        rfl
      have refused : LooseWord.bind store (.whole productWidth) content =
          refuse (.notInteger content.typeName) := by
        unfold LooseWord.bind
        rw [notWord]
        cases content with
        | whole number => exact (notWhole number rfl).elim
        | _ => rfl
      refine .inr ⟨allowed, (Fault.notInteger content.typeName).reported, ?_⟩
      simp only [LooseWord.widen, notBelow, Bind.bind, Except.bind, Bool.false_eq_true, if_false]
      exact refused

theorem onWide_widen (bound : IsBound store condition word) :
    (widen (representation store) word).Only (OnWide condition) := by
  apply only_seen
  change OnWide condition (.widened ((word.widen store (.whole productWidth)).map fun _ => ()))
  rcases widen_cases bound with ⟨number, held, _, widened⟩ | ⟨allowed, fault, refused⟩
  · rw [widened]
    exact .widened
  · rw [refused]
    exact .notWidened allowed fault

theorem exists_of_widen (bound : IsBound store condition word)
    (ends : (widen (representation store) word).outcome = .ok result) :
    ∃ number held, Fits amountWidth number ∧ result = .ofWord ⟨doubled, number, held⟩ := by
  change word.widen store (.whole productWidth) = .ok result at ends
  rcases widen_cases bound with ⟨number, held, fits, widened⟩ | ⟨_, fault, refused⟩
  · rw [widened] at ends
    cases ends
    exact ⟨number, held, fits, rfl⟩
  · rw [refused] at ends
    cases ends

/-- Words of one width are combined by their contents, and their widths are not refused. -/
theorem combine_of_sameWidth (store : Store) (route : Route) (operation : Word.Arithmetic)
    {receiver operand : LooseWord} {bits : Int} (receiverWidth : receiver.width = .whole bits)
    (operandWidth : operand.width = .whole bits) :
    combine (representation store) route operation receiver operand =
      ⟨[.paired (.ok ()),
        .combined route operation
          ((receiver.calculate store operation operand.content).map Option.isSome)],
        receiver.calculate store operation operand.content⟩ := by
  have paired : (representation store).operand receiver operand = .ok operand.content :=
    @LooseWord.operand_toValue store operand receiver _ receiverWidth operandWidth
  rw [combine, paired]
  rfl

/-- At the width of products no product of amounts is lost. -/
theorem exists_product (store : Store) {leftNumber rightNumber : Nat}
    (leftHeld : Fits doubled.bits leftNumber) (leftFits : Fits amountWidth leftNumber)
    (rightFits : Fits amountWidth rightNumber) :
    ∃ product : Word, product.width = doubled ∧
      (LooseWord.ofWord ⟨doubled, leftNumber, leftHeld⟩).calculate store .mul
        (.whole rightNumber) = .ok (some (.ofWord product)) := by
  have productFits : Fits doubled.bits (leftNumber * rightNumber) := leftFits.mul rightFits
  refine ⟨⟨doubled, leftNumber * rightNumber, productFits⟩, rfl, ?_⟩
  rw [LooseWord.calculate_ofWord (holds_doubled store), Word.calculate?_mul,
    Word.ofNat?_eq doubled productFits]
  rfl

theorem onWide_wide (leftBound : IsBound store condition left)
    (rightBound : IsBound store condition right) (divisorBound : IsBound store condition divisor) :
    (wide (representation store) left right divisor).Only (OnWide condition) := by
  refine (only_enter .entered).bind ?_
  intro _ _
  refine (onWide_widen leftBound).bind ?_
  intro wideLeft leftEnds
  rcases exists_of_widen leftBound leftEnds with ⟨leftNumber, leftHeld, leftFits, rfl⟩
  refine (onWide_widen rightBound).bind ?_
  intro wideRight rightEnds
  rcases exists_of_widen rightBound rightEnds with ⟨rightNumber, rightHeld, rightFits, rfl⟩
  -- What could be widened are two amounts, so their product is present.
  rcases exists_product store leftHeld leftFits rightFits with ⟨product, width_eq, multiplied⟩
  rw [combine_of_sameWidth store .wide .mul rfl rfl, ofWord_content, multiplied]
  refine (only_pair .paired .multiplied).bind ?_
  rintro _ ⟨⟩
  refine (onWide_widen divisorBound).bind ?_
  intro wideDivisor divisorEnds
  rcases exists_of_widen divisorBound divisorEnds with ⟨divisorNumber, divisorHeld, _, rfl⟩
  have productWidth_eq : (LooseWord.ofWord product).width = .whole productWidth := by
    rw [LooseWord.ofWord, width_eq]
    rfl
  rw [combine_of_sameWidth store .wide .div productWidth_eq rfl]
  refine (only_pair .paired (.divided _)).bind ?_
  rintro (_ | quotient) _
  · exact only_unseen _ _
  · exact only_unseen _ _

/-- On the narrow route all widths are those of amounts, so no operand is refused. -/
theorem onNarrow_combine (operation : Word.Arithmetic) {receiver operand : LooseWord}
    (receiverWidth : receiver.width = .whole amountWidth)
    (operandWidth : operand.width = .whole amountWidth) :
    (combine (representation store) .narrow operation receiver operand).Only OnNarrow := by
  rw [combine_of_sameWidth store .narrow operation receiverWidth operandWidth]
  exact only_pair .paired (.combined _ _)

theorem width_of_combine_loose {route : Route} {operation : Word.Arithmetic}
    {receiver operand : LooseWord}
    (ends : (combine (representation store) route operation receiver operand).outcome =
      .ok (some result)) : result.width = receiver.width := by
  rw [combine, outcome_bind] at ends
  rcases Except.bind_eq_ok_iff.1 ends with ⟨content, _, calculated⟩
  exact LooseWord.width_of_calculate calculated

theorem only_narrow (leftBound : IsBound store condition left)
    (rightBound : IsBound store condition right) (divisorBound : IsBound store condition divisor) :
    (narrow (representation store) left right divisor).Only
      fun step => OnNarrow step ∨ OnWide condition step := by
  refine (only_enter (.inl .entered)).bind ?_
  intro _ _
  have multiplying := @onNarrow_combine store .mul _ _ leftBound.width_eq rightBound.width_eq
  refine Only.bind (fun step member => .inl (multiplying step member)) ?_
  -- Only without a product the steps are those of the other route.
  rintro (_ | product) multiplied
  · intro step member
    exact .inr (onWide_wide leftBound rightBound divisorBound step member)
  · intro step member
    have width_eq : product.width = .whole amountWidth := by
      rw [width_of_combine_loose multiplied, leftBound.width_eq]
    exact .inl (onNarrow_combine .div width_eq divisorBound.width_eq step member)

/-- Every step of a calculation is one of the narrow or of the wide route, whatever the operands
are. A condition for words that hold no integer is a condition for refusing to widen them. -/
theorem only_recordMulDiv (limits : Limits) {left right divisor : Value}
    (leftAllows : ¬store.HoldsInteger left → condition)
    (rightAllows : ¬store.HoldsInteger right → condition)
    (divisorAllows : ¬store.HoldsInteger divisor → condition) :
    (store.recordMulDiv limits left right divisor).Only fun step =>
      OnNarrow step ∨ OnWide condition step := by
  rw [Store.recordMulDiv_eq_loose]
  change (call (representation store) limits left right divisor).Only _
  refine (only_unseen _ _).bind ?_
  intro leftParts leftBinds
  refine (only_unseen _ _).bind ?_
  intro rightParts rightBinds
  refine (only_unseen _ _).bind ?_
  intro divisorParts divisorBinds
  have leftBound := (isBound_of_bind leftBinds).mono leftAllows
  have rightBound := (isBound_of_bind rightBinds).mono rightAllows
  have divisorBound := (isBound_of_bind divisorBinds).mono divisorAllows
  refine (only_unseen _ _).bind ?_
  rintro (_ | _) _
  · exact only_narrow leftBound rightBound divisorBound
  · intro step member
    exact .inr (onWide_wide leftBound rightBound divisorBound step member)

end Kinds

/-- What could go wrong and never does: a product that is lost at the width of products, operands of
different widths and, if all operands are integers, a word that is not widened. -/
structure PassesChecks (allIntegers : Prop) (steps : List Step) : Prop where
  hasProduct : ∀ outcome, .combined .wide .mul outcome ∈ steps → outcome = .ok true
  samePaired : ∀ outcome, .paired outcome ∈ steps → outcome = .ok ()
  widened : allIntegers → ∀ outcome, .widened outcome ∈ steps → outcome = .ok ()

theorem passesChecks_recordMulDiv (store : Store) (limits : Limits) (left right divisor : Value) :
    PassesChecks (∀ operand ∈ [left, right, divisor], store.HoldsInteger operand)
      (store.recordMulDiv limits left right divisor).steps := by
  have only := @only_recordMulDiv store
    (¬∀ operand ∈ [left, right, divisor], store.HoldsInteger operand) limits left right divisor
    (fun notHeld allHeld => notHeld (allHeld left (by simp)))
    (fun notHeld allHeld => notHeld (allHeld right (by simp)))
    (fun notHeld allHeld => notHeld (allHeld divisor (by simp)))
  constructor
  · intro outcome member
    rcases only _ member with onNarrow | onWide
    · cases onNarrow
    · cases onWide
      rfl
  · intro outcome member
    rcases only _ member with onNarrow | onWide
    · cases onNarrow
      rfl
    · cases onWide
      rfl
  · intro allIntegers outcome member
    rcases only _ member with onNarrow | onWide
    · cases onNarrow
    · cases onWide with
      | widened => rfl
      | notWidened allowed fault => exact (allowed allIntegers).elim

end MulDiv

end PoolFees
