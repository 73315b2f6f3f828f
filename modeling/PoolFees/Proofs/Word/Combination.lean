import Mathlib.Algebra.Group.Nat.Defs
import PoolFees.Operation.Perform
import PoolFees.Proofs.Denotation
import PoolFees.Proofs.Word

/-!
# Combining words

A word is combined with an operand of any type. What the operand is decides in this order: a word of
another width is refused, whatever it holds; what is no word is bound to the width first, and
refused with the fault of that; and what is left is a number, from which there is an exact result or
none.

The result is bound to the width of the word again. This never fails. A difference or a quotient is
at most the number in the word, and a product that does not fit was found to be absent before.

The word may be held in the store, if its parts go together and there is memory for its width. Of
the operand only what is looked at has to be known: the width when it differs, and the number when
it does not. Of loose words with other parts, as the receiver or with the same width as an operand,
nothing is said here.
-/

namespace PoolFees

/-- Widths are short enough to be written. -/
theorem Width.writable_bits (width : Width) : Numeral.Writable width.bits := by
  have counted := width.counted
  have limit : maxLimbs = 2305843009213693945 := rfl
  have below : width.bits < Nat.pow 10 20 := by
    have power : Nat.pow 10 20 = 100000000000000000000 := rfl
    rw [limbs, limbBits] at counted
    omega
  exact Numeral.writable_of_lt_pow below (by decide)

theorem fits_iff_le {bits number : Nat} : Fits bits number ↔ number ≤ 2 ^ bits - 1 := by
  have positive : 0 < 2 ^ bits := Nat.two_pow_pos bits
  have capacity_eq : capacity bits = 2 ^ bits := rfl
  unfold Fits
  omega

namespace LooseWord

variable {store : Store} {word : Word} {value : Value}

/-- A word of another width is refused before its content is looked at. -/
theorem operand_of_otherWidth {width : Width} {content : Value}
    (found : store.word? value = some ⟨content, .whole width.bits⟩) (differs : width ≠ word.width) :
    (ofWord word).operand store value =
      .error (.widthMismatch (.whole width.bits) (.whole word.width.bits)) := by
  have bitsDiffer : ((width.bits : Int) == word.width.bits) = false := by
    rw [beq_eq_false_iff_ne]
    intro same
    exact differs (Width.eq_of_bits (Int.ofNat.inj same))
  have reported : (Fault.widthMismatch (.whole width.bits) (.whole word.width.bits)).reported =
      .widthMismatch (.whole width.bits) (.whole word.width.bits) := by
    apply if_pos
    intro number member
    simp only [Fault.numerals, Shown.numerals, List.cons_append, List.nil_append, List.mem_cons,
      List.not_mem_nil, or_false] at member
    rcases member with rfl | rfl
    · exact width.writable_bits
    · exact word.width.writable_bits
  simp only [operand, found, ofWord, Store.equals_whole, bitsDiffer, Store.shown_whole, Bind.bind,
    Except.bind, Bool.false_eq_true, if_false, refuse, reported]

/-- A word of the same width is an operand by its content. -/
theorem operand_of_sameWidth {content : Value}
    (found : store.word? value = some ⟨content, .whole word.width.bits⟩) :
    (ofWord word).operand store value = .ok content := by
  simp only [operand, found, ofWord, Store.equals_whole, BEq.rfl, Bind.bind, Except.bind, if_true]

/-- What is no word is bound to the width of the word. -/
theorem operand_of_notWord (notWord : store.word? value = none) :
    (ofWord word).operand store value =
      (bind store (.whole word.width.bits) value).map content := by
  simp only [operand, notWord, ofWord]

/-- Beside words only numbers that fit are bound. -/
theorem fits_of_bind {bits : Nat} {parts : LooseWord} (notWord : store.word? value = none)
    (binds : bind store (.whole bits) value = .ok parts) :
    ∃ number : Nat, value = .whole number ∧ Fits bits number := by
  unfold bind at binds
  rw [notWord] at binds
  split at binds
  case h_1 found => cases found
  case h_2 number _ =>
    have bound := bindContent_whole store bits number
    rw [binds] at bound
    rcases Except.map_eq_ok_iff.1 bound.symm with ⟨word, read, _⟩
    rcases Word.fits_of_ofInt_eq_ok read with ⟨natural, fits⟩
    exact ⟨number.toNat, by rw [Int.toNat_of_nonneg natural], fits⟩
  case h_3 => simp [refuse] at binds

end LooseWord

namespace WordOperation

variable {store : Store} {receiver operand : Value} {word : Word}

/-- A receiver that is a word is combined as its parts are, wherever they are held. -/
theorem perform_combine (wordHeld : store.memory.Holds word.width)
    (holds : store.Holds receiver word) (operation : Word.Arithmetic) (operand : Value) :
    perform store (.combine operation) [receiver, operand] =
      ((LooseWord.ofWord word).combine store operation operand).map
        (.ofOption LooseWord.toValue) := by
  have parts : store.word? receiver = some (.ofWord word) := holds
  cases receiver with
  | word bound origin =>
      obtain rfl := LooseWord.ofWord_injective (Option.some.inj parts)
      cases loose : operand.isLoose with
      | true =>
          simp [perform, performWith, Store.word?, isComparison, loose, performLoose]
      | false =>
          have performs : perform store (.combine operation) [.word bound origin, operand] =
              (bound.combine operation operand).map (.ofOption .ofWord) := by
            simp [perform, performWith, Store.word?, isComparison, loose, widthIsWhole, performOn]
          rw [performs, LooseWord.combine_ofWord wordHeld operation loose]
          rcases bound.combine operation operand with fault | _ | result
          · rfl
          · rfl
          · simp only [Except.map, Option.map_some, Value.ofOption, LooseWord.toValue_ofWord]
  | looseWord | sharedWord =>
      simp only [perform, performWith, parts, isComparison, performLoose]
  | _ => cases parts

theorem perform_combine_of_refused (wordHeld : store.memory.Holds word.width)
    (holds : store.Holds receiver word) (operation : Word.Arithmetic) {fault : Fault}
    (refused : (LooseWord.ofWord word).operand store operand = .error fault) :
    perform store (.combine operation) [receiver, operand] = .error fault := by
  rw [perform_combine wordHeld holds, LooseWord.combine, refused]
  rfl

/-- A number is combined exactly, and the result is a word unless it is absent. -/
theorem perform_combine_of_number (wordHeld : store.memory.Holds word.width)
    (holds : store.Holds receiver word) (operation : Word.Arithmetic) {number : Nat}
    (counts : (LooseWord.ofWord word).operand store operand = .ok (.whole number)) :
    perform store (.combine operation) [receiver, operand] =
      .ok (.ofOption .ofWord (word.calculate? operation number)) := by
  rw [perform_combine wordHeld holds, LooseWord.combine, counts]
  simp only [Bind.bind, Except.bind, LooseWord.calculate_ofWord wordHeld]
  cases word.calculate? operation number with
  | none => rfl
  | some result =>
      simp only [Except.map, Option.map_some, Value.ofOption, LooseWord.toValue_ofWord]

/-- Two words of one width are combined by their numbers. -/
theorem perform_combine_words (wordHeld : store.memory.Holds word.width)
    (holds : store.Holds receiver word) {other : Word} (otherHolds : store.Holds operand other)
    (sameWidth : other.width = word.width) (operation : Word.Arithmetic) :
    perform store (.combine operation) [receiver, operand] =
      .ok (.ofOption .ofWord (word.calculate? operation other.value)) := by
  have otherParts : store.word? operand = some ⟨.whole other.value, .whole word.width.bits⟩ := by
    rw [← sameWidth]
    exact otherHolds
  have counts := LooseWord.operand_of_sameWidth otherParts
  exact perform_combine_of_number wordHeld holds operation counts

theorem ofOption_eq_ofWord_iff {result : Option Word} :
    Value.ofOption .ofWord result = .ofWord word ↔ result = some word := by
  cases result with
  | none => simp [Value.ofOption, Value.ofWord]
  | some => simp [Value.ofOption, Value.ofWord]

theorem perform_combine_eq_word_iff (wordHeld : store.memory.Holds word.width)
    (holds : store.Holds receiver word) {other result : Word}
    (otherHolds : store.Holds operand other) (sameWidth : other.width = word.width)
    {operation : Word.Arithmetic} :
    perform store (.combine operation) [receiver, operand] = .ok (.ofWord result) ↔
      word.calculate? operation other.value = some result := by
  rw [perform_combine_words wordHeld holds otherHolds sameWidth, Except.ok.injEq,
    ofOption_eq_ofWord_iff]

/-- An outcome that is absent on a condition, and otherwise a word of a width with a value. -/
structure GivesUnless (condition : Prop) (width : Width) (value : Nat)
    (outcome : Except Fault Value) : Prop where
  absent : condition → outcome = .ok .absent
  present : ¬condition →
    ∃ result : Word, outcome = .ok (.ofWord result) ∧ result.width = width ∧ result.value = value

section Number

variable {number : Nat}

theorem perform_sub (wordHeld : store.memory.Holds word.width) (holds : store.Holds receiver word)
    (counts : (LooseWord.ofWord word).operand store operand = .ok (.whole number)) :
    GivesUnless (word.value < number) word.width (word.value - number)
      (perform store (.combine .sub) [receiver, operand]) := by
  rw [perform_combine_of_number wordHeld holds .sub counts]
  constructor
  · intro above
    rw [Word.calculate?_sub_eq_none above]
    rfl
  · intro notAbove
    rw [Word.calculate?_sub (Nat.le_of_not_lt notAbove)]
    exact ⟨_, rfl, rfl, rfl⟩

theorem perform_mul (wordHeld : store.memory.Holds word.width) (holds : store.Holds receiver word)
    (counts : (LooseWord.ofWord word).operand store operand = .ok (.whole number)) :
    GivesUnless (2 ^ word.width.bits - 1 < word.value * number) word.width (word.value * number)
      (perform store (.combine .mul) [receiver, operand]) := by
  rw [perform_combine_of_number wordHeld holds .mul counts, Word.calculate?_mul]
  constructor
  · intro above
    have large : ¬Fits word.width.bits (word.value * number) := by
      rw [fits_iff_le]
      exact Nat.not_le.2 above
    rw [Word.ofNat?_eq_none word.width large]
    rfl
  · intro notAbove
    rw [Word.ofNat?_eq word.width (fits_iff_le.2 (Nat.le_of_not_lt notAbove))]
    exact ⟨_, rfl, rfl, rfl⟩

theorem perform_div (wordHeld : store.memory.Holds word.width) (holds : store.Holds receiver word)
    (counts : (LooseWord.ofWord word).operand store operand = .ok (.whole number)) :
    GivesUnless (number = 0) word.width (word.value / number)
      (perform store (.combine .div) [receiver, operand]) := by
  rw [perform_combine_of_number wordHeld holds .div counts, Word.calculate?_div]
  constructor
  · intro isZero
    rw [if_pos isZero]
    rfl
  · intro notZero
    rw [if_neg notZero]
    exact ⟨_, rfl, rfl, rfl⟩

end Number

/-- The outcomes of combining a word with an operand of any type. A word of another width is refused
whatever it holds; what is neither a word nor a number that fits is refused with the fault that
binding it to the width has; and a number, bare or in a word of the same width, is combined exactly.
Then the result is a word of that width, and it is absent only when it is below zero, above the
width or a division by zero. -/
theorem perform_combine_outcome (wordHeld : store.memory.Holds word.width)
    (holds : store.Holds receiver word) (operand : Value) :
    let combined (operation : Word.Arithmetic) :=
      perform store (.combine operation) [receiver, operand]
    let bits := word.width.bits
    (∀ (width : Width) content, store.word? operand = some ⟨content, .whole width.bits⟩ →
      width ≠ word.width → ∀ operation,
        combined operation = .error (.widthMismatch (.whole width.bits) (.whole bits))) ∧
    (store.word? operand = none →
      (¬∃ number : Nat, operand = .whole number ∧ number ≤ 2 ^ bits - 1) →
      ∃ fault, perform store .bind [operand, .whole bits] = .error fault ∧
        ∀ operation, combined operation = .error fault) ∧
    ∀ number : Nat,
      operand = .whole number ∧ number ≤ 2 ^ bits - 1 ∨
        store.word? operand = some ⟨.whole number, .whole bits⟩ →
      GivesUnless (word.value < number) word.width (word.value - number) (combined .sub) ∧
      GivesUnless (2 ^ bits - 1 < word.value * number) word.width (word.value * number)
        (combined .mul) ∧
      GivesUnless (number = 0) word.width (word.value / number) (combined .div) := by
  intro combined bits
  refine ⟨?_, ?_, ?_⟩
  · intro width content found differs operation
    exact perform_combine_of_refused wordHeld holds operation
      (LooseWord.operand_of_otherWidth found differs)
  · intro notWord notNumber
    cases binds : LooseWord.bind store (.whole bits) operand with
    | ok bound =>
        rcases LooseWord.fits_of_bind notWord binds with ⟨number, same, fits⟩
        exact absurd ⟨number, same, fits_iff_le.1 fits⟩ notNumber
    | error fault =>
        refine ⟨fault, ?_, ?_⟩
        · have performs : perform store .bind [operand, .whole bits] =
              store.bindWord (.whole bits) operand := rfl
          rw [performs, Store.bindWord_whole, Except.map_eq_error_iff]
          exact binds
        · intro operation
          apply perform_combine_of_refused wordHeld holds operation
          rw [LooseWord.operand_of_notWord notWord, Except.map_eq_error_iff]
          exact binds
  · intro number given
    have counts : (LooseWord.ofWord word).operand store operand = .ok (.whole number) := by
      rcases given with ⟨rfl, le⟩ | found
      · have bound := LooseWord.bind_fits wordHeld (fits_iff_le.2 le)
        rw [LooseWord.operand_of_notWord rfl, bound]
        rfl
      · exact LooseWord.operand_of_sameWidth found
    exact ⟨perform_sub wordHeld holds counts, perform_mul wordHeld holds counts,
      perform_div wordHeld holds counts⟩

/-- A word of 8 bits that is held in the store. A zero of 16 bits is refused for its width and not
for being zero. -/
theorem perform_combine_outcome_of_shared :
    let store : Store := ⟨[⟨.whole 200, .whole 8⟩], [], [], .usual⟩
    let combined (operation : Word.Arithmetic) (operand : Value) :=
      perform store (.combine operation) [.sharedWord 0, operand]
    combined .div (.word ⟨⟨16, by decide⟩, 0, by decide⟩ []) =
        .error (.widthMismatch (.whole 16) (.whole 8)) ∧
      (∃ fault, perform store .bind [.truth true, .whole 8] = .error fault ∧
        combined .sub (.truth true) = .error fault) ∧
      combined .mul (.whole 2) = .ok .absent ∧
      ∃ result : Word, combined .sub (.whole 2) = .ok (.ofWord result) ∧
        result.width.bits = 8 ∧ result.value = 198 := by
  intro store combined
  have holds : store.Holds (.sharedWord 0) ⟨⟨8, by decide⟩, 200, by decide⟩ := rfl
  have outcome := perform_combine_outcome (by decide) holds
  rcases (outcome (.whole 2)).2.2 2 (.inl ⟨rfl, by decide⟩) with ⟨difference, product, _⟩
  refine ⟨?_, ?_, product.absent (by decide), ?_⟩
  · exact (outcome _).1 ⟨16, by decide⟩ (.whole 0) rfl (by decide) .div
  · rcases (outcome (.truth true)).2.1 rfl (fun ⟨_, same, _⟩ => nomatch same) with
      ⟨fault, refused, combinedRefused⟩
    exact ⟨fault, refused, combinedRefused .sub⟩
  · rcases difference.present (by decide) with ⟨result, present, width_eq, value_eq⟩
    exact ⟨result, present, congrArg Width.bits width_eq, value_eq⟩

end WordOperation

end PoolFees
