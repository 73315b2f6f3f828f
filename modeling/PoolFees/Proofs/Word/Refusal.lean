import PoolFees.LooseWord.Agreement
import PoolFees.Operation.Perform
import PoolFees.Proofs.Outcome
import PoolFees.Proofs.MulDiv.Routes

/-!
# What operations on words refuse

An operation on a word checks its operand or its width before anything is computed, and binds the
result to a width again afterwards. The second check never fails: a result that is left after the
first one fits. So an operation refuses exactly the operands that cannot be bound to the width of
the word, and exactly the widths that are too narrow or negative, that numbers cannot have or for
which there is no memory.
-/

namespace PoolFees

/-- A width is refused when it is negative, when numbers cannot have it and when there is no memory
for it. -/
theorem Width.ofInt_fails_iff {memory : Memory} {bits : Int} :
    (∃ fault, ofInt memory bits = .error fault) ↔
      bits < 0 ∨ maxLimbs < limbs bits.toNat ∨ (memory.widest : Int) < bits := by
  unfold ofInt
  split
  case isTrue negative => exact iff_of_true ⟨_, rfl⟩ (.inl negative)
  case isFalse natural =>
    split
    case isFalse uncounted => exact iff_of_true ⟨_, rfl⟩ (.inr (.inl (Nat.lt_of_not_le uncounted)))
    case isTrue counted =>
      split
      · refine iff_of_false ?_ (by omega)
        rintro ⟨fault, refused⟩
        cases refused
      · exact iff_of_true ⟨_, rfl⟩ (by omega)

namespace Word

variable {memory : Memory} {word : Word} {bits : Int}

theorem widen_fails_iff :
    (∃ fault, word.widen memory bits = .error fault) ↔
      bits < word.width.bits ∨ Width.maxLimbs < Width.limbs bits.toNat ∨
        (memory.widest : Int) < bits := by
  by_cases narrower : bits < word.width.bits
  · simp [widen, narrower, refuse]
  · have natural : ¬bits < 0 := by omega
    have fails_iff := @Width.ofInt_fails_iff memory bits
    simp only [natural, false_or] at fails_iff
    simp only [narrower, false_or, ← fails_iff]
    cases read : Width.ofInt memory bits with
    | ok width =>
        rcases Width.ofInt_eq_ok read with ⟨rfl, held⟩
        have wider : word.width.bits ≤ width.bits := by omega
        simp [widen_of_holds held, widenTo_eq_ok width wider]
    | error fault =>
        have notNegative : ¬(word.value : Int) < 0 := by omega
        simp [widen, narrower, ofInt, notNegative, read, Bind.bind, Except.bind]

theorem narrow_fails_iff :
    (∃ fault, word.narrow memory bits = .error fault) ↔
      bits < 0 ∨ Width.maxLimbs < Width.limbs bits.toNat ∨ (memory.widest : Int) < bits := by
  simp only [narrow, Except.map_eq_error_iff, Width.ofInt_fails_iff]

end Word

namespace WordOperation

variable {store : Store} {receiver : Word} {origin : Origin}

theorem perform_combine_eq_error_iff {operation : Word.Arithmetic} {operand : Value} {fault : Fault}
    (proper : operand.isLoose = false) :
    perform store (.combine operation) [.word receiver origin, operand] = .error fault ↔
      receiver.operand operand = .error fault := by
  have performs : perform store (.combine operation) [.word receiver origin, operand] =
      (receiver.combine operation operand).map (.ofOption .ofWord) := by
    simp [perform, performWith, Store.word?, isComparison, proper, widthIsWhole, performOn]
  rw [performs, Except.map_eq_error_iff, Word.combine, Except.map_eq_error_iff]

theorem perform_widen_fails_iff {bits : Int} :
    (∃ fault, perform store .widen [.word receiver origin, .whole bits] = .error fault) ↔
      bits < receiver.width.bits ∨ Width.maxLimbs < Width.limbs bits.toNat ∨
        (store.memory.widest : Int) < bits := by
  have performs : perform store .widen [.word receiver origin, .whole bits] =
      (receiver.widen store.memory bits).map .ofWord := rfl
  simp only [performs, Except.map_eq_error_iff, Word.widen_fails_iff]

theorem perform_narrow_fails_iff {bits : Int} :
    (∃ fault, perform store .narrow [.word receiver origin, .whole bits] = .error fault) ↔
      bits < 0 ∨ Width.maxLimbs < Width.limbs bits.toNat ∨ (store.memory.widest : Int) < bits := by
  have performs : perform store .narrow [.word receiver origin, .whole bits] =
      (receiver.narrow store.memory bits).map (.ofOption .ofWord) := rfl
  simp only [performs, Except.map_eq_error_iff, Word.narrow_fails_iff]

end WordOperation

namespace Word

/-- An operation on a word is refused for its operand or its width and for nothing else: neither the
checks that bind a result again nor the largest number of the width are ever refused. -/
structure RefusesOnlyArguments (store : Store) (receiver : Word) (origin : Origin) : Prop where
  combine : ∀ operation (operand : Value) fault, operand.isLoose = false →
    (WordOperation.perform store (.combine operation) [.word receiver origin, operand] =
      .error fault ↔ receiver.operand operand = .error fault)
  widen : ∀ bits : Int,
    (∃ fault, WordOperation.perform store .widen [.word receiver origin, .whole bits] =
      .error fault) ↔
      bits < receiver.width.bits ∨ Width.maxLimbs < Width.limbs bits.toNat ∨
        (store.memory.widest : Int) < bits
  narrow : ∀ bits : Int,
    (∃ fault, WordOperation.perform store .narrow [.word receiver origin, .whole bits] =
      .error fault) ↔
      bits < 0 ∨ Width.maxLimbs < Width.limbs bits.toNat ∨ (store.memory.widest : Int) < bits
  narrowToAmount :
    ∃ result, WordOperation.perform store .narrowToAmount [.word receiver origin] = .ok result
  combined : ∀ operation (number : Nat),
    ∃ result, (LooseWord.ofWord receiver).calculate store operation (.whole number) = .ok result
  resized : ∀ width : Width, store.memory.Holds width → Fits width.bits receiver.value →
    ∃ bound, LooseWord.bind store (.whole width.bits) (.whole receiver.value) = .ok bound
  width : Width.ofInt store.memory receiver.width.bits = .ok receiver.width
  largest : WordOperation.perform store .largest [.word receiver origin] =
    .ok (.whole (Word.largest receiver.width))

theorem refusesOnlyArguments {store : Store} {receiver : Word}
    (held : store.memory.Holds receiver.width) (origin : Origin) :
    receiver.RefusesOnlyArguments store origin where
  combine _ _ _ proper := WordOperation.perform_combine_eq_error_iff proper
  widen _ := WordOperation.perform_widen_fails_iff
  narrow _ := WordOperation.perform_narrow_fails_iff
  narrowToAmount := ⟨_, rfl⟩
  combined operation number := ⟨_, LooseWord.calculate_ofWord held operation number⟩
  resized _ widthHeld fits := ⟨_, LooseWord.bind_fits widthHeld fits⟩
  width := Width.ofInt_bits held
  largest := rfl

end Word

end PoolFees
