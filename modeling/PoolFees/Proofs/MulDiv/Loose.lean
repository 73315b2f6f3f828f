import PoolFees.Proofs.Denotation
import PoolFees.Proofs.MulDiv.Routes

/-!
# Routes of loose words

Loose words are multiplied and divided on the same routes as words that fit, but every step works on
parts that need not go together. Words that fit have parts too. On them both representations take
the same steps to the same outcome, as long as there is memory for the width of the factors, which
is read again for the parts.

So it does not matter whether an operand was loose before it was bound, and everything that is known
about the routes holds for it. In particular the calculation for loose operands gives what is
computed for all others, so no proof has to tell the two apart.
-/

namespace PoolFees

namespace Relation

theorem admits_above (left right : Int) :
    above.admits (compare left right) = decide (right < left) := by
  by_cases isAbove : right < left
  · simp [admits, isAbove, Int.compare_eq_gt.2 isAbove]
  · simp only [isAbove, decide_false]
    cases ordering : compare left right with
    | gt => exact absurd (Int.compare_eq_gt.1 ordering) isAbove
    | eq | lt => rfl

end Relation

namespace LooseWord

theorem ofWord_content (word : Word) : (ofWord word).content = .whole word.value := rfl

@[simp]
theorem number?_ofWord (word : Word) : (ofWord word).number? = some word.value := rfl

end LooseWord

namespace MulDiv

namespace Recorded

variable {α β γ : Type}

theorem unseen_map (change : α → β) (outcome : Except Fault α) :
    unseen (outcome.map change) = (unseen outcome).mapResult change := rfl

theorem seen_map (step : Except Fault γ → Step) (shown : β → γ) (change : α → β)
    (outcome : Except Fault α) :
    seen step shown (outcome.map change) =
      (seen step (fun result => shown (change result)) outcome).mapResult change := by
  cases outcome <;> rfl

end Recorded

section Words

variable {store : Store} {left right divisor : Word}

theorem holds_doubled (store : Store) : store.memory.Holds doubled :=
  store.memory.holds_of_le (by decide)

theorem holds_amount (store : Store) : store.memory.Holds amount :=
  store.memory.holds_of_le (by decide)

theorem widen_ofWord (word : Word) :
    widen (LooseWord.representation store) (.ofWord word) =
      (widen words word).mapResult .ofWord := by
  have widens : (LooseWord.ofWord word).widen store (.whole productWidth) =
      (word.widenTo doubled).map .ofWord := by
    rw [LooseWord.widen_ofWord]
    exact congrArg (Except.map LooseWord.ofWord) (Word.widen_of_holds (holds_doubled store) word)
  exact (congrArg (Recorded.seen Step.widened fun _ => ()) widens).trans
    (Recorded.seen_map _ _ _ _)

theorem combine_ofWord (route : Route) (operation : Word.Arithmetic) {receiver : Word}
    (held : store.memory.Holds receiver.width) (operand : Word) :
    combine (LooseWord.representation store) route operation (.ofWord receiver) (.ofWord operand) =
      (combine words route operation receiver operand).mapResult (Option.map .ofWord) := by
  have counts : (LooseWord.representation store).operand (.ofWord receiver) (.ofWord operand) =
      (words.operand receiver operand).map fun number => .whole number := by
    change (LooseWord.ofWord receiver).operand store (LooseWord.ofWord operand).toValue = _
    rw [LooseWord.toValue_ofWord]
    exact LooseWord.operand_ofWord held rfl
  rw [combine, combine, counts, Recorded.seen_map, Recorded.bind_mapResult,
    Recorded.mapResult_bind]
  apply Recorded.bind_congr_of_outcome
  intro number _
  have calculates : (LooseWord.representation store).calculate operation (.ofWord receiver)
      (.whole number) = (words.calculate operation receiver number).map (Option.map .ofWord) :=
    LooseWord.calculate_ofWord held operation number
  rw [calculates, Recorded.seen_map]
  simp only [Option.isSome_map]

theorem width_of_combine {route : Route} {operation : Word.Arithmetic}
    {receiver operand result : Word}
    (combines : (combine words route operation receiver operand).outcome = .ok (some result)) :
    result.width = receiver.width := by
  rw [combine, Recorded.outcome_bind, Except.bind_eq_ok_iff] at combines
  rcases combines with ⟨number, _, calculates⟩
  exact Word.width_of_calculate? (Except.ok.inj calculates)

theorem wide_ofWord (left right divisor : Word) :
    wide (LooseWord.representation store) (.ofWord left) (.ofWord right) (.ofWord divisor) =
      (wide words left right divisor).mapResult (Option.map .ofWord) := by
  -- Whatever is combined on this route has the width of products.
  have doubled_eq : ∀ {word wide : Word}, (widen words word).outcome = .ok wide →
      wide.width = doubled := Word.width_of_widenTo
  have held : ∀ {word : Word}, word.width = doubled → store.memory.Holds word.width := by
    intro word width_eq
    rw [width_eq]
    exact holds_doubled store
  rw [wide, wide, Recorded.mapResult_bind]
  apply Recorded.bind_congr_of_outcome
  intro _ _
  rw [widen_ofWord, Recorded.bind_mapResult, Recorded.mapResult_bind]
  apply Recorded.bind_congr_of_outcome
  intro wideLeft leftWidens
  rw [widen_ofWord, Recorded.bind_mapResult, Recorded.mapResult_bind]
  apply Recorded.bind_congr_of_outcome
  intro wideRight _
  rw [combine_ofWord .wide .mul (held (doubled_eq leftWidens)), Recorded.bind_mapResult,
    Recorded.mapResult_bind]
  apply Recorded.bind_congr_of_outcome
  rintro (_ | product) multiplies
  · rfl
  · have product_eq := (width_of_combine multiplies).trans (doubled_eq leftWidens)
    dsimp only [Option.map_some]
    rw [widen_ofWord, Recorded.bind_mapResult, Recorded.mapResult_bind]
    apply Recorded.bind_congr_of_outcome
    intro wideDivisor _
    rw [combine_ofWord .wide .div (held product_eq), Recorded.bind_mapResult,
      Recorded.mapResult_bind]
    apply Recorded.bind_congr_of_outcome
    rintro (_ | quotient) _
    · rfl
    · have narrows : (LooseWord.ofWord quotient).narrow store (.whole amountWidth) =
          (words.narrow quotient).map (Option.map .ofWord) := by
        rw [LooseWord.narrow_ofWord]
        exact congrArg (Except.map (Option.map LooseWord.ofWord))
          (Word.narrow_of_holds (holds_amount store) quotient)
      exact congrArg Recorded.unseen narrows

theorem narrow_ofWord (held : store.memory.Holds left.width) :
    narrow (LooseWord.representation store) (.ofWord left) (.ofWord right) (.ofWord divisor) =
      (narrow words left right divisor).mapResult (Option.map .ofWord) := by
  rw [narrow, narrow, Recorded.mapResult_bind]
  apply Recorded.bind_congr_of_outcome
  intro _ _
  rw [combine_ofWord .narrow .mul held, Recorded.bind_mapResult, Recorded.mapResult_bind]
  apply Recorded.bind_congr_of_outcome
  rintro (_ | product) multiplies
  · exact wide_ofWord left right divisor
  · have productHeld : store.memory.Holds product.width := by
      rw [width_of_combine multiplies]
      exact held
    exact combine_ofWord .narrow .div productHeld divisor

theorem route_ofWord (limits : Limits) (held : store.memory.Holds left.width) :
    route (LooseWord.representation store) limits (.ofWord left) (.ofWord right)
        (.ofWord divisor) =
      (route words limits left right divisor).mapResult (Option.map .ofWord) := by
  have isAbove_eq : ∀ (word : Word) limit,
      (LooseWord.representation store).isAbove (.ofWord word) limit = words.isAbove word limit := by
    intro word limit
    change store.relates .above (LooseWord.ofWord word).content (.whole limit) = _
    rw [LooseWord.ofWord_content, Store.relates_whole, Relation.admits_above]
    simp only [words, Int.ofNat_lt]
  have isLarge_eq : isLarge (LooseWord.representation store) limits (.ofWord left) (.ofWord right) =
      isLarge words limits left right := by
    simp only [isLarge, isAbove_eq]
  rw [route, route, isLarge_eq, Recorded.mapResult_bind]
  apply Recorded.bind_congr_of_outcome
  rintro (_ | _) _
  · exact narrow_ofWord held
  · exact wide_ofWord left right divisor

/-- A quotient has the same number in both representations. -/
theorem mapResult_ofWord (store : Store) (recorded : Recorded (Option Word)) :
    (recorded.mapResult (Option.map .ofWord)).mapResult
        (fun quotient => quotient.bind (LooseWord.representation store).number?) =
      recorded.mapResult fun quotient => quotient.bind words.number? := by
  rcases recorded with ⟨steps, fault | _ | quotient⟩
  · rfl
  · rfl
  · rfl

end Words

section Values

variable {store : Store} {left right divisor : Value}

theorem bind_of_proper {value : Value} (proper : value.isLoose = false) :
    (LooseWord.representation store).bind value = (words.bind value).map .ofWord :=
  LooseWord.bind_width (holds_amount store) proper

/-- Values that are not loose lead to the same record as words and as loose words. -/
theorem find_of_proper (limits : Limits) (leftProper : left.isLoose = false)
    (rightProper : right.isLoose = false) (divisorProper : divisor.isLoose = false) :
    find (LooseWord.representation store) limits left right divisor =
      find words limits left right divisor := by
  have call_eq : call (LooseWord.representation store) limits left right divisor =
      (call words limits left right divisor).mapResult (Option.map .ofWord) := by
    rw [call, call, bind_of_proper leftProper, bind_of_proper rightProper,
      bind_of_proper divisorProper, Recorded.unseen_map, Recorded.unseen_map, Recorded.unseen_map,
      Recorded.bind_mapResult, Recorded.mapResult_bind]
    apply Recorded.bind_congr_of_outcome
    intro leftWord leftBinds
    rw [Recorded.bind_mapResult, Recorded.mapResult_bind]
    apply Recorded.bind_congr_of_outcome
    intro rightWord _
    rw [Recorded.bind_mapResult, Recorded.mapResult_bind]
    apply Recorded.bind_congr_of_outcome
    intro divisorWord _
    have leftWidth : leftWord.width = amount := Word.width_of_ofValueAt leftBinds
    exact route_ofWord limits (by rw [leftWidth]; exact holds_amount store)
  rw [find, find, call_eq, mapResult_ofWord]

end Values

end MulDiv

namespace Store

variable {store : Store} {left right divisor : Value}

/-- Operands that are not loose are computed apart from the others, but as loose ones would be. -/
theorem recordMulDiv_eq_loose (store : Store) (limits : MulDiv.Limits)
    (left right divisor : Value) :
    store.recordMulDiv limits left right divisor =
      MulDiv.find (LooseWord.representation store) limits left right divisor := by
  by_cases anyLoose : (left.isLoose || right.isLoose || divisor.isLoose) = true
  · rw [recordMulDiv, if_pos anyLoose]
  · rw [recordMulDiv, if_neg anyLoose]
    simp only [Bool.or_eq_true, not_or, Bool.not_eq_true] at anyLoose
    exact (MulDiv.find_of_proper limits anyLoose.1.1 anyLoose.1.2 anyLoose.2).symm

/-- Values that are bound to amounts are multiplied and divided as those amounts are. -/
theorem recordMulDiv_of_bind (limits : MulDiv.Limits) {leftWord rightWord divisorWord : Word}
    (leftBinds : LooseWord.bind store (.whole MulDiv.amountWidth) left = .ok (.ofWord leftWord))
    (rightBinds : LooseWord.bind store (.whole MulDiv.amountWidth) right = .ok (.ofWord rightWord))
    (divisorBinds :
      LooseWord.bind store (.whole MulDiv.amountWidth) divisor = .ok (.ofWord divisorWord)) :
    store.recordMulDiv limits left right divisor =
      (MulDiv.route MulDiv.words limits leftWord rightWord divisorWord).mapResult
        fun quotient => quotient.bind MulDiv.words.number? := by
  have leftWidth : leftWord.width = MulDiv.amount :=
    Width.eq_of_bits (Int.ofNat.inj (LooseWord.bits_of_bind leftBinds))
  have leftHeld : store.memory.Holds leftWord.width := by
    rw [leftWidth]
    exact MulDiv.holds_amount store
  have leftRead : (LooseWord.representation store).bind left = .ok (.ofWord leftWord) := leftBinds
  have rightRead : (LooseWord.representation store).bind right = .ok (.ofWord rightWord) :=
    rightBinds
  have divisorRead : (LooseWord.representation store).bind divisor = .ok (.ofWord divisorWord) :=
    divisorBinds
  rw [recordMulDiv_eq_loose, MulDiv.find, MulDiv.call, leftRead, rightRead, divisorRead,
    MulDiv.Recorded.unseen_bind, MulDiv.Recorded.unseen_bind, MulDiv.Recorded.unseen_bind,
    MulDiv.route_ofWord limits leftHeld, MulDiv.mapResult_ofWord]

end Store

end PoolFees
