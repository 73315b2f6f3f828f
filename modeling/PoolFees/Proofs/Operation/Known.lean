import PoolFees.Proofs.Denotation
import PoolFees.Proofs.FixedPoint.Parts
import PoolFees.Proofs.Operation.Change
import PoolFees.Proofs.Value.Known

/-!
# What operations know

No operation makes up an identity: every value with one in its result comes from its arguments or
from the store, save for the form that it adds. Most results hold no such value at all. The others
are parts of the arguments or of the store, or new lists, records and words made of such parts.

An assignment puts its value into the store. `Effect.Carries` says what is known after an effect
that may have moved something, and `Assignment.Does.isKnown` that the store is.
-/

namespace PoolFees

variable {known : Identity → Value → Prop} {store : Store}

namespace Value

variable {left right result : Value}

theorem ofOption_isKnown {α : Type} {wrap : α → Value} {result : Option α}
    (wrapIn : ∀ content ∈ result, (wrap content).IsKnown known) :
    (ofOption wrap result).IsKnown known := by
  cases result with
  | none => exact .plain rfl rfl
  | some content => exact wrapIn content rfl

theorem ofFee_isKnown (fee : Option Nat) : (ofFee fee).IsKnown known := by
  apply ofOption_isKnown
  intro content _
  exact .plain rfl rfl

theorem difference_isKnown (subtracts : left.difference right = .ok result) :
    result.IsKnown known := by
  rw [difference, Except.bind_eq_ok_iff] at subtracts
  rcases subtracts with ⟨operands, _, subtracts⟩
  cases operands with
  | whole | real =>
      cases subtracts
      exact .plain rfl rfl
  | scientific =>
      rcases Except.map_eq_ok_iff.1 subtracts with ⟨number, _, rfl⟩
      exact .plain rfl rfl

/-- A product is a number, or a sequence that stands for its repetition. -/
theorem product_isKnown (leftIn : left.IsKnown known) (rightIn : right.IsKnown known)
    (multiplies : left.product right = .ok result) : result.IsKnown known := by
  unfold product at multiplies
  split at multiplies
  · rcases Except.map_eq_ok_iff.1 multiplies with ⟨_, _, rfl⟩
    exact leftIn
  · rcases Except.map_eq_ok_iff.1 multiplies with ⟨_, _, rfl⟩
    exact rightIn
  · rw [Except.bind_eq_ok_iff] at multiplies
    rcases multiplies with ⟨operands, _, multiplies⟩
    cases operands with
    | whole | real =>
        cases multiplies
        exact .plain rfl rfl
    | scientific =>
        rcases Except.map_eq_ok_iff.1 multiplies with ⟨number, _, rfl⟩
        exact .plain rfl rfl

end Value

namespace LooseWord

variable {word receiver left right divisor result : LooseWord} {value width content : Value}

theorem bind_isKnown (storeIn : store.IsKnown known) (widthIn : width.IsKnown known)
    (valueIn : value.IsKnown known) (binds : bind store width value = .ok result) :
    result.IsKnown known := by
  unfold bind at binds
  split at binds
  · rename_i word found
    rw [bindContent_eq_ok binds]
    exact ⟨(storeIn.word? valueIn found).content, widthIn⟩
  · rw [bindContent_eq_ok binds]
    exact ⟨.plain rfl rfl, widthIn⟩
  · cases binds

theorem toValue_isKnown (wordIn : word.IsKnown known) : word.toValue.IsKnown known := by
  unfold toValue
  split
  · split
    · exact .plain rfl rfl
    · exact .pair rfl rfl (.plain rfl rfl) (.plain rfl rfl)
  · exact .pair rfl rfl wordIn.content wordIn.width

theorem ofOption_toValue_isKnown {result : Option LooseWord}
    (resultIn : ∀ word ∈ result, word.IsKnown known) :
    (Value.ofOption toValue result).IsKnown known := by
  apply Value.ofOption_isKnown
  intro word found
  exact toValue_isKnown (resultIn word found)

theorem ofOption_content_isKnown {outcome : Except Fault (Option LooseWord)} {value : Value}
    (outcomeIn : ∀ {result}, outcome = .ok result → ∀ word ∈ result, word.IsKnown known)
    (computes : outcome.map (.ofOption LooseWord.content) = .ok value) : value.IsKnown known := by
  rcases Except.map_eq_ok_iff.1 computes with ⟨result, computed, rfl⟩
  apply Value.ofOption_isKnown
  intro word found
  exact (outcomeIn computed word found).content

section Operations

variable (storeIn : store.IsKnown known)

include storeIn

theorem operand_isKnown (receiverIn : receiver.IsKnown known) (valueIn : value.IsKnown known)
    {operand : Value} (counts : receiver.operand store value = .ok operand) :
    operand.IsKnown known := by
  unfold LooseWord.operand at counts
  split at counts
  · rename_i word found
    rcases Except.bind_eq_ok_iff.1 counts with ⟨_, _, counts⟩
    split at counts
    · cases counts
      exact (storeIn.word? valueIn found).content
    · rcases Except.bind_eq_ok_iff.1 counts with ⟨_, _, counts⟩
      rcases Except.bind_eq_ok_iff.1 counts with ⟨_, _, counts⟩
      cases counts
  · rcases Except.map_eq_ok_iff.1 counts with ⟨bound, binds, rfl⟩
    exact (bind_isKnown storeIn receiverIn.width valueIn binds).content

theorem some_bind_isKnown (widthIn : width.IsKnown known) (valueIn : value.IsKnown known)
    {result : Option LooseWord} (binds : (bind store width value).map some = .ok result) :
    ∀ word ∈ result, word.IsKnown known := by
  rcases Except.map_eq_ok_iff.1 binds with ⟨bound, isBound, rfl⟩
  rintro _ ⟨⟩
  exact bind_isKnown storeIn widthIn valueIn isBound

theorem calculate_isKnown (receiverIn : receiver.IsKnown known) {operand : Value}
    (operandIn : operand.IsKnown known) {operation : Word.Arithmetic} {result : Option LooseWord}
    (calculates : receiver.calculate store operation operand = .ok result) :
    ∀ word ∈ result, word.IsKnown known := by
  cases operation with
  | sub =>
      rcases Except.bind_eq_ok_iff.1 calculates with ⟨difference, subtracts, calculates⟩
      rcases Except.bind_eq_ok_iff.1 calculates with ⟨isNegative, _, calculates⟩
      split at calculates
      · cases calculates
        rintro _ ⟨⟩
      · exact some_bind_isKnown storeIn receiverIn.width
          (Value.difference_isKnown subtracts) calculates
  | mul =>
      rcases Except.bind_eq_ok_iff.1 calculates with ⟨product, multiplies, calculates⟩
      rcases Except.bind_eq_ok_iff.1 calculates with ⟨_, _, calculates⟩
      rcases Except.bind_eq_ok_iff.1 calculates with ⟨isTooLarge, _, calculates⟩
      split at calculates
      · cases calculates
        rintro _ ⟨⟩
      · exact some_bind_isKnown storeIn receiverIn.width
          (Value.product_isKnown receiverIn.content operandIn multiplies) calculates
  | div =>
      rcases Except.bind_eq_ok_iff.1 calculates with ⟨isZero, _, calculates⟩
      split at calculates
      · cases calculates
        rintro _ ⟨⟩
      · rcases Except.bind_eq_ok_iff.1 calculates with ⟨quotient, _, calculates⟩
        exact some_bind_isKnown storeIn receiverIn.width (.plain rfl rfl) calculates

theorem combine_isKnown (receiverIn : receiver.IsKnown known)
    (valueIn : value.IsKnown known) {operation : Word.Arithmetic} {result : Option LooseWord}
    (combines : receiver.combine store operation value = .ok result) :
    ∀ word ∈ result, word.IsKnown known := by
  rcases Except.bind_eq_ok_iff.1 combines with ⟨operand, counts, calculates⟩
  exact calculate_isKnown storeIn receiverIn
    (operand_isKnown storeIn receiverIn valueIn counts) calculates

theorem widen_isKnown (wordIn : word.IsKnown known) (widthIn : width.IsKnown known)
    (widens : word.widen store width = .ok result) : result.IsKnown known := by
  rcases Except.bind_eq_ok_iff.1 widens with ⟨isNarrower, _, widens⟩
  split at widens
  · rcases Except.bind_eq_ok_iff.1 widens with ⟨_, _, widens⟩
    rcases Except.bind_eq_ok_iff.1 widens with ⟨_, _, widens⟩
    cases widens
  · exact bind_isKnown storeIn widthIn wordIn.content widens

theorem narrow_isKnown (wordIn : word.IsKnown known) (widthIn : width.IsKnown known)
    {result : Option LooseWord} (narrows : word.narrow store width = .ok result) :
    ∀ word ∈ result, word.IsKnown known := by
  rcases Except.bind_eq_ok_iff.1 narrows with ⟨_, _, narrows⟩
  rcases Except.bind_eq_ok_iff.1 narrows with ⟨isTooLarge, _, narrows⟩
  split at narrows
  · cases narrows
    rintro _ ⟨⟩
  · exact some_bind_isKnown storeIn widthIn wordIn.content narrows

theorem combine_record_isKnown (receiverIn : receiver.IsKnown known)
    {operand : LooseWord} (operandIn : operand.IsKnown known) {route : MulDiv.Route}
    {operation : Word.Arithmetic} {result : Option LooseWord}
    (combines : (MulDiv.combine (representation store) route operation receiver operand).outcome =
      .ok result) : ∀ word ∈ result, word.IsKnown known := by
  rcases MulDiv.Recorded.outcome_bind_eq_ok_iff.1 combines with ⟨content, counts, calculates⟩
  exact calculate_isKnown storeIn receiverIn
    (operand_isKnown storeIn receiverIn (toValue_isKnown operandIn) counts) calculates

theorem wide_isKnown (leftIn : left.IsKnown known) (rightIn : right.IsKnown known)
    (divisorIn : divisor.IsKnown known) {result : Option LooseWord}
    (computes : (MulDiv.wide (representation store) left right divisor).outcome = .ok result) :
    ∀ word ∈ result, word.IsKnown known := by
  rcases MulDiv.Recorded.outcome_bind_eq_ok_iff.1 computes with ⟨_, _, computes⟩
  rcases MulDiv.Recorded.outcome_bind_eq_ok_iff.1 computes with ⟨wideLeft, leftWidens, computes⟩
  rcases MulDiv.Recorded.outcome_bind_eq_ok_iff.1 computes with ⟨wideRight, rightWidens, computes⟩
  rcases MulDiv.Recorded.outcome_bind_eq_ok_iff.1 computes with ⟨product, multiplies, computes⟩
  have wideLeftIn := widen_isKnown storeIn leftIn (.plain rfl rfl) leftWidens
  have wideRightIn := widen_isKnown storeIn rightIn (.plain rfl rfl) rightWidens
  have productIn := combine_record_isKnown storeIn wideLeftIn wideRightIn multiplies
  cases product with
  | none =>
      cases computes
      rintro _ ⟨⟩
  | some product =>
      rcases MulDiv.Recorded.outcome_bind_eq_ok_iff.1 computes with
        ⟨wideDivisor, divisorWidens, computes⟩
      rcases MulDiv.Recorded.outcome_bind_eq_ok_iff.1 computes with ⟨quotient, divides, computes⟩
      have wideDivisorIn := widen_isKnown storeIn divisorIn (.plain rfl rfl) divisorWidens
      have quotientIn := combine_record_isKnown storeIn (productIn product rfl) wideDivisorIn
        divides
      cases quotient with
      | none =>
          cases computes
          rintro _ ⟨⟩
      | some quotient =>
          exact narrow_isKnown storeIn (quotientIn quotient rfl) (.plain rfl rfl) computes

theorem narrow_record_isKnown (leftIn : left.IsKnown known) (rightIn : right.IsKnown known)
    (divisorIn : divisor.IsKnown known) {result : Option LooseWord}
    (computes : (MulDiv.narrow (representation store) left right divisor).outcome = .ok result) :
    ∀ word ∈ result, word.IsKnown known := by
  rcases MulDiv.Recorded.outcome_bind_eq_ok_iff.1 computes with ⟨_, _, computes⟩
  rcases MulDiv.Recorded.outcome_bind_eq_ok_iff.1 computes with ⟨product, multiplies, computes⟩
  have productIn := combine_record_isKnown storeIn leftIn rightIn multiplies
  cases product with
  | none => exact wide_isKnown storeIn leftIn rightIn divisorIn computes
  | some product =>
      exact combine_record_isKnown storeIn (productIn product rfl) divisorIn computes

end Operations

end LooseWord

namespace WordOperation

variable {operation : WordOperation} {value : Value}

theorem performOn_isKnown {memory : Memory} {receiver : Word} {operands : List Value}
    (performs : operation.performOn memory receiver operands = .ok value) :
    value.IsKnown known := by
  have ofOption (result : Option Word) : (Value.ofOption .ofWord result).IsKnown known := by
    cases result <;> exact .plain rfl rfl
  unfold performOn at performs
  split at performs
  case h_1 | h_3 =>
    rcases Except.map_eq_ok_iff.1 performs with ⟨result, _, rfl⟩
    exact ofOption result
  case h_2 =>
    rcases Except.map_eq_ok_iff.1 performs with ⟨result, _, rfl⟩
    exact .plain rfl rfl
  case h_4 =>
    cases performs
    exact ofOption _
  case h_5 | h_6 | h_7 | h_8 =>
    cases performs
    exact .plain rfl rfl
  case h_9 => cases performs

theorem compareWord_isKnown {receiver operand : Value}
    (compares : compareWord store receiver operand operation = .ok value) :
    value.IsKnown known := by
  unfold compareWord at compares
  split at compares
  case h_1 =>
    rcases Except.map_eq_ok_iff.1 compares with ⟨result, _, rfl⟩
    exact .plain rfl rfl
  case h_2 =>
    split at compares
    · rcases Except.map_eq_ok_iff.1 compares with ⟨result, _, rfl⟩
      exact .plain rfl rfl
    · cases compares
  all_goals cases compares

end WordOperation

theorem Comparison.perform_isKnown {operation : Comparison} {arguments : List Value} {value : Value}
    (performs : operation.perform store arguments = .ok value) : value.IsKnown known := by
  unfold perform at performs
  split at performs
  case h_5 => cases performs
  all_goals
    rcases Except.map_eq_ok_iff.1 performs with ⟨result, _, rfl⟩
    exact .plain rfl rfl

section Operations

variable {arguments : List Value} {value : Value} (storeIn : store.IsKnown known)

include storeIn

theorem Store.bindWord_isKnown {width content : Value} (widthIn : width.IsKnown known)
    (contentIn : content.IsKnown known) (binds : store.bindWord width content = .ok value) :
    value.IsKnown known := by
  unfold bindWord at binds
  split at binds
  · rcases Except.map_eq_ok_iff.1 binds with ⟨bound, _, rfl⟩
    exact .plain rfl rfl
  · rcases Except.map_eq_ok_iff.1 binds with ⟨word, isBound, rfl⟩
    exact LooseWord.toValue_isKnown (LooseWord.bind_isKnown storeIn widthIn contentIn isBound)

namespace WordOperation

variable {operation : WordOperation} {operands : List Value}

theorem performLoose_isKnown {receiver : LooseWord} (receiverIn : receiver.IsKnown known)
    (operandsIn : ∀ operand ∈ operands, operand.IsKnown known)
    (performs : operation.performLoose store receiver operands = .ok value) :
    value.IsKnown known := by
  unfold performLoose at performs
  split at performs
  case h_1 =>
    rcases Except.map_eq_ok_iff.1 performs with ⟨result, combines, rfl⟩
    exact LooseWord.ofOption_toValue_isKnown
      (LooseWord.combine_isKnown storeIn receiverIn (operandsIn _ List.mem_cons_self) combines)
  case h_2 =>
    rcases Except.map_eq_ok_iff.1 performs with ⟨result, widens, rfl⟩
    exact LooseWord.toValue_isKnown
      (LooseWord.widen_isKnown storeIn receiverIn (operandsIn _ List.mem_cons_self) widens)
  case h_3 =>
    rcases Except.map_eq_ok_iff.1 performs with ⟨result, narrows, rfl⟩
    exact LooseWord.ofOption_toValue_isKnown
      (LooseWord.narrow_isKnown storeIn receiverIn (operandsIn _ List.mem_cons_self) narrows)
  case h_4 =>
    rcases Except.map_eq_ok_iff.1 performs with ⟨result, narrows, rfl⟩
    exact LooseWord.ofOption_toValue_isKnown
      (LooseWord.narrow_isKnown storeIn receiverIn (.plain rfl rfl) narrows)
  case h_5 =>
    cases performs
    exact receiverIn.content
  case h_6 =>
    cases performs
    exact receiverIn.width
  case h_7 | h_8 =>
    rcases Except.map_eq_ok_iff.1 performs with ⟨result, _, rfl⟩
    exact .plain rfl rfl
  case h_9 => cases performs

theorem performWith_isKnown {receiver : Value} (receiverIn : receiver.IsKnown known)
    (operandsIn : ∀ operand ∈ operands, operand.IsKnown known)
    (performs : operation.performWith store receiver operands = .ok value) :
    value.IsKnown known := by
  unfold performWith at performs
  split at performs
  · cases performs
  · rename_i parts found
    have partsIn : parts.IsKnown known := storeIn.word? receiverIn found
    split at performs
    · exact compareWord_isKnown performs
    · split at performs
      · exact performLoose_isKnown storeIn partsIn operandsIn performs
      · exact performOn_isKnown performs
    · exact performLoose_isKnown storeIn partsIn operandsIn performs

theorem perform_isKnown (argumentsIn : ∀ argument ∈ arguments, argument.IsKnown known)
    (performs : operation.perform store arguments = .ok value) : value.IsKnown known := by
  unfold perform at performs
  split at performs
  case h_1 | h_3 | h_4 =>
    have valueIn := argumentsIn _ List.mem_cons_self
    exact Store.bindWord_isKnown storeIn (.plain rfl rfl) valueIn performs
  case h_2 =>
    rw [List.forall_mem_cons, List.forall_mem_singleton] at argumentsIn
    exact Store.bindWord_isKnown storeIn argumentsIn.2 argumentsIn.1 performs
  case h_5 =>
    rcases Except.map_eq_ok_iff.1 performs with ⟨width, _, rfl⟩
    exact .plain rfl rfl
  case h_6 =>
    rw [List.forall_mem_cons] at argumentsIn
    exact performWith_isKnown storeIn argumentsIn.1 argumentsIn.2 performs
  case h_7 => cases performs

end WordOperation

theorem MulDivOperation.perform_isKnown {operation : MulDivOperation}
    (argumentsIn : ∀ argument ∈ arguments, argument.IsKnown known)
    (performs : operation.perform store arguments = .ok value) : value.IsKnown known := by
  unfold perform at performs
  split at performs
  case h_1 =>
    rcases Except.map_eq_ok_iff.1 performs with ⟨fee, _, rfl⟩
    exact Value.ofFee_isKnown fee
  case h_2 | h_3 =>
    rcases Except.map_eq_ok_iff.1 performs with ⟨result, _, rfl⟩
    apply Value.ofOption_isKnown
    intro quotient _
    exact .plain rfl rfl
  case h_4 =>
    rw [List.forall_mem_cons, List.forall_mem_cons, List.forall_mem_singleton] at argumentsIn
    rcases argumentsIn with ⟨leftIn, rightIn, divisorIn⟩
    split at performs
    · rename_i leftFound rightFound divisorFound
      exact LooseWord.ofOption_content_isKnown
        (LooseWord.wide_isKnown storeIn (storeIn.word? leftIn leftFound)
          (storeIn.word? rightIn rightFound) (storeIn.word? divisorIn divisorFound)) performs
    · cases performs
  case h_5 =>
    rw [List.forall_mem_cons, List.forall_mem_cons, List.forall_mem_singleton] at argumentsIn
    rcases argumentsIn with ⟨leftIn, rightIn, divisorIn⟩
    split at performs
    · rename_i leftFound rightFound divisorFound
      exact LooseWord.ofOption_content_isKnown
        (LooseWord.narrow_record_isKnown storeIn (storeIn.word? leftIn leftFound)
          (storeIn.word? rightIn rightFound) (storeIn.word? divisorIn divisorFound)) performs
    · cases performs
  case h_6 => cases performs

end Operations

section Fees

variable {calculator coins amount operation value : Value}

theorem Calculator.rateFee_isKnown {fee : RateFee}
    (calculatorIn : calculator.IsKnown known)
    (charges : (rateFee store calculator fee amount).result = .ok value) :
    value.IsKnown known := by
  unfold rateFee at charges
  split at charges
  · rcases Except.map_eq_ok_iff.1 charges with ⟨fee, _, rfl⟩
    exact Value.ofFee_isKnown fee
  · cases charges
    exact calculatorIn.answer _
  · cases charges

theorem Calculator.normalizedFee_isKnown (calculatorIn : calculator.IsKnown known)
    (charges : (normalizedFee store calculator coins amount).result = .ok value) :
    value.IsKnown known := by
  unfold normalizedFee at charges
  split at charges
  · rcases Except.map_eq_ok_iff.1 charges with ⟨fee, _, rfl⟩
    exact Value.ofFee_isKnown fee
  · cases charges
    exact calculatorIn.answer _
  · cases charges

theorem requireFee_isKnown {fee : Value} {shown : Except Fault String}
    (feeIn : fee.IsKnown known) (requires : (requireFee fee operation shown).result = .ok value) :
    value.IsKnown known := by
  unfold requireFee at requires
  split at requires
  · rcases Except.bind_eq_ok_iff.1 requires with ⟨_, _, requires⟩
    cases requires
  · cases requires
    exact feeIn

theorem ScheduleOperation.perform_isKnown {operation : ScheduleOperation} {arguments : List Value}
    (argumentsIn : ∀ argument ∈ arguments, argument.IsKnown known)
    (performs : (operation.perform store arguments).result = .ok value) :
    value.IsKnown known := by
  unfold perform at performs
  split at performs
  case h_1 =>
    split at performs
    · rcases Except.map_eq_ok_iff.1 performs with ⟨schedule, _, rfl⟩
      exact .plain rfl rfl
    · cases performs
  case h_2 => exact Calculator.rateFee_isKnown (argumentsIn _ List.mem_cons_self) performs
  case h_3 => exact Calculator.normalizedFee_isKnown (argumentsIn _ List.mem_cons_self) performs
  case h_4 =>
    rcases Except.map_eq_ok_iff.1 performs with ⟨offers, _, rfl⟩
    exact .plain rfl rfl
  case h_5 => exact requireFee_isKnown (argumentsIn _ List.mem_cons_self) performs
  case h_6 => cases performs

end Fees

theorem TextOperation.perform_isKnown {operation : TextOperation} {arguments : List Value}
    {value : Value} (argumentsIn : ∀ argument ∈ arguments, argument.IsKnown known)
    (performs : operation.perform store arguments = .ok value) : value.IsKnown known := by
  have textIn {text : Except Fault String} {value : Value}
      (shows : text.map .text = .ok value) : value.IsKnown known := by
    rcases Except.map_eq_ok_iff.1 shows with ⟨text, _, rfl⟩
    exact .plain rfl rfl
  unfold perform at performs
  split at performs
  case h_1 magnitude places =>
    rw [List.forall_mem_cons, List.forall_mem_singleton] at argumentsIn
    unfold Store.pairFixedPoint at performs
    split at performs
    · rcases Except.bind_eq_ok_iff.1 performs with ⟨_, _, performs⟩
      rcases Except.bind_eq_ok_iff.1 performs with ⟨_, _, performs⟩
      cases performs
      exact .pair rfl rfl argumentsIn.1 argumentsIn.2
    · rcases Except.map_eq_ok_iff.1 performs with ⟨number, pairs, rfl⟩
      rcases FixedPoint.ofValues_eq_ok_iff.1 pairs with ⟨rfl, rfl⟩
      exact .pair rfl rfl argumentsIn.1 argumentsIn.2
  case h_2 =>
    split at performs
    · exact textIn performs
    · cases performs
  case h_3 =>
    split at performs
    · exact textIn performs
    · exact textIn performs
    · split at performs
      · exact textIn performs
      · cases performs
  case h_4 =>
    split at performs
    · rcases Except.bind_eq_ok_iff.1 performs with ⟨_, _, performs⟩
      rcases Except.bind_eq_ok_iff.1 performs with ⟨_, _, performs⟩
      cases performs
      exact .plain rfl rfl
    · cases performs
  case h_5 => cases performs

/-- What holds of the result of every step holds of all results. -/
theorem forall_mem_mapM {State α β : Type} {P : β → Prop} {items : List α}
    {step : α → StateM State β}
    (each : ∀ item ∈ items, ∀ state, P ((step item).run state).1) (state : State) :
    ∀ result ∈ ((items.mapM step).run state).1, P result := by
  induction items generalizing state with
  | nil =>
      intro result member
      rw [List.mapM_nil] at member
      cases member
  | cons item rest ih =>
      rw [List.forall_mem_cons] at each
      rw [List.mapM_cons]
      intro result member
      rcases List.mem_cons.1 member with rfl | member
      · exact each.1 state
      · exact ih each.2 _ result member

theorem Schedule.entries_isKnown (schedule : Schedule) : schedule.entries.IsKnown known := by
  rw [Schedule.entries, Entries.IsKnown, List.forall_mem_map]
  intro field _
  exact .plain rfl rfl

theorem Value.partEntries_isKnown {magnitude places : Value}
    (magnitudeIn : magnitude.IsKnown known) (placesIn : places.IsKnown known) :
    Entries.IsKnown known (magnitude.partEntries places) := by
  rw [Value.partEntries, Entries.IsKnown, List.forall_mem_cons, List.forall_mem_singleton]
  exact ⟨magnitudeIn, placesIn⟩

theorem Entries.IsKnown.label {entries : Entries} (entriesIn : entries.IsKnown known)
    (naming : Naming) : (naming.label entries).IsKnown known := by
  rw [Naming.label, Entries.IsKnown, List.forall_mem_map]
  intro entry member
  rcases List.mem_filterMap.1 member with ⟨own, ownMember, isField⟩
  rcases Option.map_eq_some_iff.1 isField with ⟨field, _, rfl⟩
  exact entriesIn own ownMember

namespace Validation

variable {labelled : Entries → Entries} (storeIn : store.IsKnown known)
  (labelledIn : ∀ {entries : Entries}, entries.IsKnown known → (labelled entries).IsKnown known)

include storeIn labelledIn

/-- A record takes over values of the store and what they are written as. -/
theorem recorded_isKnown {depth : Nat} {within : List Identity} {value : Value}
    (valueIn : value.IsKnown known) (tooDeep : List Identity) :
    ((recorded labelled store depth within value).run tooDeep).1.IsKnown known := by
  induction depth generalizing within value tooDeep with
  | zero =>
      unfold recorded
      simp only [StateT.run_bind, StateT.run_get, pure_bind]
      split
      · exact valueIn
      · exact valueIn
  | succ depth ih =>
      have entriesIn {entries : Entries} (entriesIn : entries.IsKnown known)
          (within tooDeep : List Identity) :
          Entries.IsKnown known (((entries.mapM fun entry => return (entry.1,
            ← recorded labelled store depth within entry.2) :
              StateM (List Identity) Entries).run tooDeep).1) := by
        refine forall_mem_mapM ?_ tooDeep
        intro entry member state
        exact ih (entriesIn entry member) state
      unfold recorded
      simp only [StateT.run_bind, StateT.run_get, pure_bind]
      split
      · exact valueIn
      · split
        · refine .new rfl (forall_mem_mapM ?_ tooDeep)
          intro item member state
          exact ih (valueIn.within item member) state
        · exact .record (Schedule.entries_isKnown _)
        · rcases valueIn.both rfl with ⟨magnitudeIn, placesIn⟩
          exact .record (Value.partEntries_isKnown magnitudeIn placesIn)
        · rcases valueIn.both rfl with ⟨magnitudeIn, placesIn⟩
          exact .record (Value.partEntries_isKnown (ih magnitudeIn _) (ih placesIn _))
        · split
          · exact valueIn
          · rename_i entries found
            exact .record (entriesIn (labelledIn (storeIn.entries? found)) _ tooDeep)
        · split
          · rename_i entries found
            exact .record (entriesIn (storeIn.record? valueIn found) _ tooDeep)
          · exact valueIn

theorem recordOf_isKnown {entries : Entries} (entriesIn : entries.IsKnown known) :
    (recordOf labelled store entries).IsKnown known := by
  unfold recordOf
  refine forall_mem_mapM ?_ []
  rintro ⟨label, entry⟩ member state
  have entryIn : ((recorded labelled store maxDepth [] entry).run state).1.IsKnown known :=
    recorded_isKnown storeIn labelledIn (labelledIn entriesIn _ member) state
  exact entryIn

end Validation

theorem Store.recordOf_isKnown (storeIn : store.IsKnown known) {entries : Entries}
    (entriesIn : entries.IsKnown known) (naming : Naming) :
    (store.recordOf naming entries).IsKnown known :=
  Validation.recordOf_isKnown storeIn (fun known => known.label naming) entriesIn

namespace FormOperation

theorem entriesOf_eq_ok {handle : Nat} {entries : Entries}
    (found : entriesOf store handle = .ok entries) : store.entries? handle = some entries := by
  unfold entriesOf at found
  split at found
  · rename_i same
    cases found
    exact same
  · cases found

variable {operation : FormOperation} {arguments : List Value} {value : Value}
  {outcome : Traced Value}

/-- A form that is filled is never without an effect on the store. -/
theorem keep_ne_pure {read : Except Report Entries} (keeps : keep store read = .pure store outcome)
    (shows : outcome.result = .ok value) : False := by
  cases read with
  | error =>
      cases keeps
      cases shows
  | ok entries =>
      have sameForms : store.forms.length = (store.addForm entries).forms.length :=
        congrArg (fun effect => effect.store.forms.length) keeps.symm
      rw [Store.addForm, List.length_append, List.length_singleton] at sameForms
      omega

theorem perform_isKnown (storeIn : store.IsKnown known)
    (argumentsIn : ∀ argument ∈ arguments, argument.IsKnown known)
    (performs : operation.perform store arguments = .pure store outcome)
    (shows : outcome.result = .ok value) : value.IsKnown known := by
  unfold perform at performs
  split at performs
  case h_1 content =>
    cases performs
    cases read : Amount.ofValue content with
    | ok amount =>
        rw [read] at shows
        cases shows
        exact .plain rfl rfl
    | error =>
        rw [read] at shows
        cases shows
  case h_2 content =>
    cases performs
    cases read : Amount.ofList content with
    | ok amounts =>
        rw [read] at shows
        cases shows
        refine .new rfl ?_
        rw [Value.parts, List.forall_mem_map]
        intro amount _
        exact .plain rfl rfl
    | error =>
        rw [read] at shows
        cases shows
  case h_3 content =>
    unfold fillFrom at performs
    split at performs
    · exact (keep_ne_pure performs shows).elim
    · cases performs
      cases shows
      exact argumentsIn _ List.mem_cons_self
    · cases performs
      cases shows
  case h_4 =>
    split at performs
    · exact (keep_ne_pure performs shows).elim
    · cases performs
      cases shows
  case h_5 | h_6 => exact (keep_ne_pure performs shows).elim
  case h_7 =>
    cases performs
    cases shows
  case h_8 handle =>
    cases performs
    rcases Except.bind_eq_ok_iff.1 shows with ⟨entries, _, shows⟩
    rcases Except.map_eq_ok_iff.1 shows with ⟨schedule, _, rfl⟩
    exact .plain rfl rfl
  case h_9 =>
    cases performs
    rcases Except.map_eq_ok_iff.1 shows with ⟨schedule, _, rfl⟩
    exact .plain rfl rfl
  case h_10 naming handle =>
    cases performs
    rcases Except.bind_eq_ok_iff.1 shows with ⟨entries, found, shows⟩
    rcases Except.bind_eq_ok_iff.1 shows with ⟨_, _, shows⟩
    cases shows
    have entriesIn := storeIn.entries? (entriesOf_eq_ok found)
    exact .record (Store.recordOf_isKnown storeIn entriesIn _)
  case h_11 =>
    cases performs
    rcases Except.bind_eq_ok_iff.1 shows with ⟨entries, _, shows⟩
    rcases Except.bind_eq_ok_iff.1 shows with ⟨_, _, shows⟩
    rcases Except.map_eq_ok_iff.1 shows with ⟨text, _, rfl⟩
    exact .plain rfl rfl
  case h_12 =>
    cases performs
    rcases Except.map_eq_ok_iff.1 shows with ⟨field, _, rfl⟩
    exact .plain rfl rfl
  case h_13 =>
    cases performs
    rcases Except.bind_eq_ok_iff.1 shows with ⟨field, _, found⟩
    exact storeIn.fieldValue found
  case h_14 receiver name content =>
    have ends : (Assignment.perform store name content receiver).outcome.result = .ok value := by
      rw [performs]
      exact shows
    rw [(Assignment.perform_does store name content receiver).eq_absent ends]
    exact .plain rfl rfl
  case h_15 =>
    cases performs
    cases shows

end FormOperation

theorem Inquiry.answer_isKnown (inquiry : Inquiry) : inquiry.answer.IsKnown known := by
  cases inquiry with
  | constants =>
      refine .record ?_
      simp only [Constants.all, List.forall_mem_cons]
      refine ⟨.plain rfl rfl, .plain rfl rfl, .plain rfl rfl, .plain rfl rfl, .plain rfl rfl,
        .plain rfl rfl, .plain rfl rfl, .new rfl ?_, .plain rfl rfl, fun _ member => nomatch member⟩
      rw [Value.parts, List.forall_mem_map]
      intro name _
      exact .plain rfl rfl
  | isKind => exact .plain rfl rfl

/-- An operation that leaves the store as it is makes up no identity. -/
theorem Operation.perform_isKnown {operation : Operation} {arguments : List Value} {value : Value}
    {outcome : Traced Value} (storeIn : store.IsKnown known)
    (argumentsIn : ∀ argument ∈ arguments, argument.IsKnown known)
    (performs : operation.perform store arguments = .pure store outcome)
    (shows : outcome.result = .ok value) : value.IsKnown known := by
  cases operation with
  | form => exact FormOperation.perform_isKnown storeIn argumentsIn performs shows
  | word =>
      cases performs
      exact WordOperation.perform_isKnown storeIn argumentsIn shows
  | compare =>
      cases performs
      exact Comparison.perform_isKnown shows
  | mulDiv =>
      cases performs
      exact MulDivOperation.perform_isKnown storeIn argumentsIn shows
  | text =>
      cases performs
      exact TextOperation.perform_isKnown argumentsIn shows
  | schedule =>
      cases performs
      exact ScheduleOperation.perform_isKnown argumentsIn shows
  | inquire inquiry =>
      cases performs
      cases shows
      exact inquiry.answer_isKnown

/-- What was known before an effect is known after it. When something was moved, everything that
was known is replaced. -/
structure Effect.Carries (effect : Effect) (known all : Identity → Value → Prop) : Prop where
  unmoved : effect.moved = none → ∀ identity value, known identity value → all identity value
  moved : ∀ replacement ∈ effect.moved, replacement.handle.IsKnown all ∧
    ∀ identity value, known identity value → all identity (replacement.apply value)

namespace Assignment

variable {all : Identity → Value → Prop} {receiver value : Value} {name : String} {effect : Effect}

theorem Word.assign?_isKnown {word changed : LooseWord} (wordIn : word.IsKnown known)
    (valueIn : value.IsKnown known) (changes : assign? word name value = some changed) :
    changed.IsKnown known := by
  unfold assign? at changes
  split at changes
  · cases changes
    exact ⟨valueIn, wordIn.width⟩
  · split at changes
    · cases changes
      exact ⟨wordIn.content, valueIn⟩
    · cases changes

theorem Form.assignReserved_isKnown (storeIn : store.IsKnown known)
    (valueIn : value.IsKnown known) (handle : Nat) (name : String) :
    (assignReserved store handle name value).IsKnown known := by
  unfold assignReserved
  split
  · refine storeIn.modifyForm ?_ handle
    intro form formIn
    exact ⟨valueIn, formIn.additional, formIn.observer⟩
  · split
    · refine storeIn.modifyForm ?_ handle
      intro form formIn
      exact ⟨formIn.hidden, valueIn, formIn.observer⟩
    · split
      · refine storeIn.modifyForm ?_ handle
        intro form formIn
        refine ⟨formIn.hidden, formIn.additional, ?_⟩
        rintro _ ⟨⟩
        exact valueIn
      · exact storeIn.put valueIn handle name

/-- An assignment puts only its value into the store, or a word that was known before. -/
theorem Does.isKnown (does : Does store value receiver name effect)
    (storeIn : store.IsKnown known) (receiverIn : receiver.IsKnown known)
    (valueIn : value.IsKnown known) (carries : effect.Carries known all) :
    effect.store.IsKnown all := by
  rcases carries with ⟨unmoved, moved⟩
  have setEntriesIn {store : Store} (storeIn : store.IsKnown known) (handle shared : Nat) :
      (store.modifyForm handle fun form => { form with entries := shared }).IsKnown known := by
    refine storeIn.modifyForm ?_ handle
    intro form formIn
    exact ⟨formIn.hidden, formIn.additional, formIn.observer⟩
  cases does with
  | refuse => exact storeIn.mono (unmoved rfl)
  | moveWord origin found changes =>
      rcases moved _ rfl with ⟨handleIn, keeps⟩
      have wordIn := storeIn.word? receiverIn found
      exact (storeIn.addWord (Word.assign?_isKnown wordIn valueIn changes)).replace handleIn keeps
  | setWord found changes =>
      have wordIn := storeIn.words _ (List.mem_of_getElem? found)
      exact (storeIn.setWord (Word.assign?_isKnown wordIn valueIn changes) _).mono (unmoved rfl)
  | setField handle field =>
      have puts := storeIn.put valueIn handle field.name
      simp only [Form.assignField] at unmoved ⊢
      split
      · rename_i told
        rw [told] at unmoved
        exact puts.mono (unmoved rfl)
      · rename_i untold
        rw [untold] at unmoved
        exact puts.mono (unmoved rfl)
  | setEntries handle =>
      cases value with
      | record entries origin =>
          rcases moved _ rfl with ⟨handleIn, keeps⟩
          have entriesIn := List.forall_mem_map.1 valueIn.within
          exact (setEntriesIn (storeIn.addRecord entriesIn) handle _).replace handleIn keeps
      | sharedRecord shared => exact (setEntriesIn storeIn handle shared).mono (unmoved rfl)
      | _ => exact storeIn.mono (unmoved rfl)
  | setReserved handle =>
      exact (Form.assignReserved_isKnown storeIn valueIn handle name).mono (unmoved rfl)

end Assignment

end PoolFees
