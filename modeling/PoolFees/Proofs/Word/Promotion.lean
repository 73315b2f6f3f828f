import PoolFees.Proofs.Word.Combination

/-!
# Computing at a wider width

Two words can be combined at their own width, or they can be moved to a wider one, combined there
and the result moved back. Both ways come to the same. The exact result of an operation does not
depend on a width, so what has a result at the wider width and none after it was moved back has none
at the narrow width either.

A product needs at most the bits of both factors. So at twice their width it is never absent, and
only moving it back can fail.
-/

namespace PoolFees

namespace Word

variable {width wide : Width}

/-- Passing through a wider width does not change what fits. -/
theorem ofNat?_bind_resize? (wider : width.bits ≤ wide.bits) (number : Nat) :
    (ofNat? wide number).bind (resize? · width) = ofNat? width number := by
  by_cases fits : Fits wide.bits number
  · rw [ofNat?_eq wide fits]
    rfl
  · have large : ¬Fits width.bits number := fun fitsNarrow => fits (fitsNarrow.mono wider)
    rw [ofNat?_eq_none wide fits, ofNat?_eq_none width large]
    rfl

/-- A word returns to its own width. -/
theorem resize?_width (word : Word) : word.resize? word.width = some word :=
  ofNat?_eq word.width word.fits

variable {word : Word}

theorem calculate?_promote (wider : word.width.bits ≤ wide.bits) (operation : Arithmetic)
    (operand : Nat) :
    ((word.promote wide wider).calculate? operation operand).bind (resize? · word.width) =
      word.calculate? operation operand := by
  simp only [calculate?, promote, Option.bind_assoc, ofNat?_bind_resize? wider]

/-- At twice the width of its factors a product is present. -/
theorem calculate?_mul_promote (wider : word.width.bits ≤ wide.bits) {operand : Nat}
    (fits : Fits word.width.bits operand) (twice : 2 * word.width.bits ≤ wide.bits) :
    (word.promote wide wider).calculate? .mul operand ≠ none := by
  have productFits : Fits wide.bits (word.value * operand) :=
    (word.fits.mul fits).mono (by omega)
  rw [calculate?_mul, promote, ofNat?_eq wide productFits]
  exact Option.some_ne_none _

/-- A word that was moved to one width moves on to another one as before. -/
theorem narrow_of_narrow {memory : Memory} {narrowed : Word} {bits : Int}
    (narrows : word.narrow memory bits = .ok (some narrowed)) (next : Int) :
    narrowed.narrow memory next = word.narrow memory next := by
  rcases Except.map_eq_ok_iff.1 narrows with ⟨width, _, resized⟩
  have value_eq : narrowed.value = word.value := (ofNat?_eq_some resized).2
  have resize?_eq : narrowed.resize? = word.resize? := by
    funext width
    simp only [resize?, value_eq]
  rw [narrow, narrow, resize?_eq]

end Word

namespace WordOperation

variable {store : Store} {receiver operand : Value} {word other : Word}

/-- A word is widened by its parts, wherever they are kept. -/
theorem perform_widen (holds : store.Holds receiver word) (bits : Int) :
    perform store .widen [receiver, .whole bits] = (word.widen store.memory bits).map .ofWord := by
  have byParts : (LooseWord.ofWord word).widen store (.whole bits) =
      (word.widen store.memory bits).map LooseWord.ofWord := LooseWord.widen_ofWord store word bits
  have found : store.word? receiver = some (.ofWord word) := holds
  cases receiver with
  | word bound origin =>
      obtain rfl := LooseWord.ofWord_injective (Option.some.inj found)
      rfl
  | looseWord | sharedWord =>
      simp only [perform, performWith, found, isComparison, performLoose, byParts]
      cases word.widen store.memory bits with
      | error fault => rfl
      | ok wide => simp only [Except.map, LooseWord.toValue_ofWord]
  | _ => cases found

/-- A word is narrowed by its parts, wherever they are kept. -/
theorem perform_narrow (holds : store.Holds receiver word) (bits : Int) :
    perform store .narrow [receiver, .whole bits] =
      (word.narrow store.memory bits).map (.ofOption .ofWord) := by
  have byParts : (LooseWord.ofWord word).narrow store (.whole bits) =
      (word.narrow store.memory bits).map fun result => result.map LooseWord.ofWord :=
    LooseWord.narrow_ofWord store word bits
  have found : store.word? receiver = some (.ofWord word) := holds
  cases receiver with
  | word bound origin =>
      obtain rfl := LooseWord.ofWord_injective (Option.some.inj found)
      rfl
  | looseWord | sharedWord =>
      simp only [perform, performWith, found, isComparison, performLoose, byParts]
      rcases word.narrow store.memory bits with fault | _ | narrowed
      · rfl
      · rfl
      · simp only [Except.map, Option.map_some, Value.ofOption, LooseWord.toValue_ofWord]
  | _ => cases found

theorem perform_narrow_width (holds : store.Holds receiver word) {width : Width}
    (held : store.memory.Holds width) :
    perform store .narrow [receiver, .whole width.bits] =
      .ok (.ofOption .ofWord (word.resize? width)) := by
  rw [perform_narrow holds, Word.narrow_of_holds held]
  rfl

/-- An outcome is that of a result which is narrowed to a width if it is present. -/
structure NarrowsTo (store : Store) (bits : Nat) (result : Option Word)
    (outcome : Except Fault Value) : Prop where
  absent : result = none → outcome = .ok .absent
  present : ∀ exact, result = some exact → ∀ held, store.Holds held exact →
    perform store .narrow [held, .whole bits] = outcome

theorem narrowsTo_bind {width : Width} (held : store.memory.Holds width) (result : Option Word) :
    NarrowsTo store width.bits result
      (.ok (.ofOption .ofWord (result.bind (Word.resize? · width)))) where
  absent isAbsent := by
    rw [isAbsent]
    rfl
  present exact isPresent value holds := by
    rw [isPresent]
    exact perform_narrow_width holds held

section Promoted

variable {width : Width} (wider : word.width.bits ≤ width.bits)

theorem perform_widen_promote (holds : store.Holds receiver word)
    (held : store.memory.Holds width) :
    perform store .widen [receiver, .whole width.bits] =
      .ok (.ofWord (word.promote width wider)) := by
  rw [perform_widen holds, Word.widen_of_holds held, Word.widenTo_eq_ok width wider]
  rfl

/-- A word that was widened is narrowed back to itself. -/
theorem perform_narrow_promote (wordHeld : store.memory.Holds word.width)
    (holds : store.Holds receiver (word.promote width wider)) :
    perform store .narrow [receiver, .whole word.width.bits] = .ok (.ofWord word) := by
  have returns : (word.promote width wider).resize? word.width = some word := word.resize?_width
  rw [perform_narrow_width holds wordHeld, returns]
  rfl

theorem narrowsTo_promote (wordHeld : store.memory.Holds word.width)
    (holds : store.Holds receiver word) (otherHolds : store.Holds operand other)
    (sameWidth : other.width = word.width) (operation : Word.Arithmetic) :
    NarrowsTo store word.width.bits ((word.promote width wider).calculate? operation other.value)
      (perform store (.combine operation) [receiver, operand]) := by
  rw [perform_combine_words wordHeld holds otherHolds sameWidth,
    ← Word.calculate?_promote wider operation other.value]
  exact narrowsTo_bind wordHeld _

end Promoted

theorem narrow_of_perform {narrowed : Word} {bits : Int} (holds : store.Holds receiver word)
    (narrows : perform store .narrow [receiver, .whole bits] = .ok (.ofWord narrowed)) :
    word.narrow store.memory bits = .ok (some narrowed) := by
  rw [perform_narrow holds, Except.map_eq_ok_iff] at narrows
  rcases narrows with ⟨result, result_eq, isNarrowed⟩
  rw [result_eq, ofOption_eq_ofWord_iff.1 isNarrowed]

/-- Two words of one width are combined as they are at any wider width for which there is memory,
with the result narrowed to their own width again. At twice their width no product is absent.
Narrowing leads back to the word that was widened, and narrowing twice is narrowing to the last
width. -/
theorem perform_combine_promoted (wordHeld : store.memory.Holds word.width)
    (holds : store.Holds receiver word) (otherHolds : store.Holds operand other)
    (sameWidth : other.width = word.width) :
    let bits := word.width.bits
    (∀ width : Width, bits ≤ width.bits → store.memory.Holds width → ∃ wide wideOther : Word,
      perform store .widen [receiver, .whole width.bits] = .ok (.ofWord wide) ∧
      perform store .widen [operand, .whole width.bits] = .ok (.ofWord wideOther) ∧
      wide.width = width ∧
      ∀ left, store.Holds left wide →
        perform store .narrow [left, .whole bits] = .ok (.ofWord word) ∧
        ∀ right, store.Holds right wideOther → ∀ operation, ∃ result : Option Word,
          perform store (.combine operation) [left, right] = .ok (.ofOption .ofWord result) ∧
          NarrowsTo store bits result (perform store (.combine operation) [receiver, operand]) ∧
          (operation = .mul → 2 * bits ≤ width.bits → result ≠ none)) ∧
    ∀ (first last : Int) (narrowed : Word),
      perform store .narrow [receiver, .whole first] = .ok (.ofWord narrowed) →
      ∀ held, store.Holds held narrowed →
        perform store .narrow [held, .whole last] =
          perform store .narrow [receiver, .whole last] := by
  intro bits
  constructor
  · intro width wider held
    have otherWider : other.width.bits ≤ width.bits := by
      rw [sameWidth]
      exact wider
    refine ⟨word.promote width wider, other.promote width otherWider,
      perform_widen_promote wider holds held, perform_widen_promote otherWider otherHolds held, rfl,
      ?_⟩
    intro left leftHolds
    refine ⟨perform_narrow_promote wider wordHeld leftHolds, ?_⟩
    intro right rightHolds operation
    refine ⟨_, perform_combine_words held leftHolds rightHolds rfl operation,
      narrowsTo_promote wider wordHeld holds otherHolds sameWidth operation, ?_⟩
    rintro rfl twice
    have otherFits : Fits word.width.bits other.value := by
      rw [← sameWidth]
      exact other.fits
    exact Word.calculate?_mul_promote wider otherFits twice
  · intro first last narrowed narrows held heldHolds
    rw [perform_narrow heldHolds, perform_narrow holds,
      Word.narrow_of_narrow (narrow_of_perform holds narrows)]

/-- The number 200 can be doubled at sixteen bits, and the product does not return to eight. -/
theorem perform_combine_promoted_of_shared :
    let store : Store := ⟨[⟨.whole 200, .whole 8⟩], [], [], .usual⟩
    let two : Value := .word ⟨⟨8, by decide⟩, 2, by decide⟩ []
    ∃ wide wideTwo product : Word,
      perform store .widen [.sharedWord 0, .whole 16] = .ok (.ofWord wide) ∧
      perform store .widen [two, .whole 16] = .ok (.ofWord wideTwo) ∧
      perform store (.combine .mul) [.ofWord wide, .ofWord wideTwo] = .ok (.ofWord product) ∧
      perform store .narrow [.ofWord product, .whole 8] =
        perform store (.combine .mul) [.sharedWord 0, two] ∧
      perform store (.combine .mul) [.sharedWord 0, two] = .ok .absent := by
  intro store two
  have holds : store.Holds (.sharedWord 0) ⟨⟨8, by decide⟩, 200, by decide⟩ := rfl
  have twoHolds : store.Holds two ⟨⟨8, by decide⟩, 2, by decide⟩ := rfl
  rcases (perform_combine_promoted (by decide) holds twoHolds rfl).1 ⟨16, by decide⟩ (by decide)
    (by decide) with ⟨wide, wideTwo, widens, twoWidens, _, combines⟩
  rcases (combines (.ofWord wide) rfl).2 (.ofWord wideTwo) rfl .mul with
    ⟨_ | product, multiplies, narrows, present⟩
  · exact absurd rfl (present rfl (by decide))
  · exact ⟨wide, wideTwo, product, widens, twoWidens, multiplies, narrows.present product rfl _ rfl,
      rfl⟩

/-- Words of eight bits are combined, but whatever memory there is they cannot be widened to a width
that is too large for numbers to have. -/
theorem promotion_refused_at_large_width :
    let one : Value := .word ⟨⟨8, by decide⟩, 1, by decide⟩ []
    (8 : Int) ≤ 69175290276410818321 ∧
      ∀ memory, perform (.empty memory) (.combine .sub) [one, one] =
          .ok (.word ⟨⟨8, by decide⟩, 0, by decide⟩ []) ∧
        perform (.empty memory) .widen [one, .whole 69175290276410818321] =
          refuse .widthTooLarge := by
  intro one
  exact ⟨by decide, fun memory => ⟨rfl, rfl⟩⟩

end WordOperation

end PoolFees
