import PoolFees.LooseWord.Agreement
import PoolFees.Proofs.Outcome

/-!
# Numbers as operands

An operation that asks for a number takes it bare or in a word. `Store.Denotes` says which number a
value stands for in this way: the number itself, or what a word of any width holds, also a word
whose parts were assigned to.

Binding a value to a width is one function on words and another one on loose words. The main
statements are that both give the same, and that a value which denotes a number is bound exactly as
the number is.
-/

namespace PoolFees

namespace Store

/-- A value denotes a number when it is the number or a word of any width that holds it. -/
def Denotes (store : Store) (value : Value) (number : Int) : Prop :=
  value = .whole number ∨ ∃ width, store.word? value = some ⟨.whole number, width⟩

/-- A value holds a word when it has the parts of the word, wherever they are kept. -/
def Holds (store : Store) (value : Value) (word : Word) : Prop :=
  store.word? value = some (.ofWord word)

/-- What was assigned to the content of a loose word, if anything, is an integer. -/
def HoldsInteger (store : Store) (value : Value) : Prop :=
  value.isLoose = true → ∃ number : Int, store.Denotes value number

end Store

namespace Word

/-- What is bound to a width has that width. -/
theorem width_of_ofValueAt {width : Width} {value : Value} {word : Word}
    (binds : ofValueAt width value = .ok word) : word.width = width := by
  rcases Except.bind_eq_ok_iff.1 binds with ⟨number, _, bound⟩
  exact (ofIntAt_eq_ok bound).1

end Word

namespace LooseWord

variable {store : Store}

theorem ofWord_injective {left right : Word} (same : ofWord left = ofWord right) :
    left = right := by
  rcases left with ⟨⟨leftBits, leftCounted⟩, leftValue, leftFits⟩
  rcases right with ⟨⟨rightBits, rightCounted⟩, rightValue, rightFits⟩
  simp only [ofWord, mk.injEq, Value.whole.injEq, Int.natCast_inj] at same
  rcases same with ⟨rfl, rfl⟩
  rfl

/-- What is bound keeps its content and gets the width that was asked for. -/
theorem bindContent_eq_ok {width content : Value} {word : LooseWord}
    (bound : bindContent store width content = .ok word) : word = ⟨content, width⟩ := by
  unfold bindContent at bound
  simp only [Bind.bind, Except.bind, refuse] at bound
  repeat' split at bound
  all_goals simp_all

/-- A number that a value denotes is bound as the bare number is. -/
theorem bind_of_denotes {value : Value} {number : Int} (denotes : store.Denotes value number)
    (bits : Int) :
    bind store (.whole bits) value = (Word.ofInt store.memory bits number).map ofWord := by
  rcases denotes with rfl | ⟨width, found⟩
  · exact bind_whole store bits number
  · simp only [bind, found]
    exact bindContent_whole store bits number

/-- A value that is not loose is bound as it is to the width of a word. -/
theorem bind_of_proper {value : Value} (proper : value.isLoose = false) (bits : Int) :
    bind store (.whole bits) value = (Word.ofValue store.memory bits value).map ofWord := by
  cases value with
  | word bound origin => exact bindContent_whole store bits bound.value
  | whole number => exact bind_whole store bits number
  | looseWord | sharedWord => simp [Value.isLoose] at proper
  | _ => rfl

theorem bind_width {width : Width} (held : store.memory.Holds width) {value : Value}
    (proper : value.isLoose = false) :
    bind store (.whole width.bits) value = (Word.ofValueAt width value).map ofWord := by
  rw [bind_of_proper proper, Word.ofValue_of_holds held]

theorem ofValueAt_of_bind {width : Width} (held : store.memory.Holds width) {value : Value}
    {bound : Word} (proper : value.isLoose = false)
    (binds : bind store (.whole width.bits) value = .ok (ofWord bound)) :
    Word.ofValueAt width value = .ok bound := by
  rw [bind_width held proper, Except.map_eq_ok_iff] at binds
  rcases binds with ⟨word, read, same⟩
  rw [read, ofWord_injective same]

theorem ofValueAt_eq_error_of_bind {width : Width} (held : store.memory.Holds width) {value : Value}
    {fault : Fault} (proper : value.isLoose = false)
    (refused : bind store (.whole width.bits) value = .error fault) :
    Word.ofValueAt width value = .error fault := by
  rwa [bind_width held proper, Except.map_eq_error_iff] at refused

theorem width_of_bind {width value : Value} {parts : LooseWord}
    (binds : bind store width value = .ok parts) : parts.width = width := by
  unfold bind at binds
  split at binds
  · rw [bindContent_eq_ok binds]
  · rw [bindContent_eq_ok binds]
  · simp [refuse] at binds

theorem bits_of_bind {bits : Int} {value : Value} {word : Word}
    (binds : bind store (.whole bits) value = .ok (ofWord word)) : word.width.bits = bits := by
  have width_eq := width_of_bind binds
  simpa [ofWord] using width_eq

end LooseWord

namespace Store

variable {store : Store}

/-- Words and loose words are bound to a width by one function. -/
theorem bindWord_whole (bits : Int) (value : Value) :
    store.bindWord (.whole bits) value =
      (LooseWord.bind store (.whole bits) value).map LooseWord.toValue := by
  cases loose : value.isLoose with
  | true => simp only [bindWord, loose]
  | false =>
      simp only [bindWord, loose, LooseWord.bind_of_proper loose]
      cases Word.ofValue store.memory bits value with
      | error fault => rfl
      | ok bound => simp only [Except.map, LooseWord.toValue_ofWord]

theorem bind_eq_error_of_bindWord {bits : Int} {value : Value} {fault : Fault}
    (refused : store.bindWord (.whole bits) value = .error fault) :
    LooseWord.bind store (.whole bits) value = .error fault := by
  rwa [bindWord_whole, Except.map_eq_error_iff] at refused

/-- What is bound is a number or a word. -/
theorem denotes_of_bindWord {bits : Int} {value bound : Value} (holds : store.HoldsInteger value)
    (binds : store.bindWord (.whole bits) value = .ok bound) :
    ∃ number : Int, store.Denotes value number := by
  cases value with
  | whole number => exact ⟨number, .inl rfl⟩
  | word bound origin => exact ⟨bound.value, .inr ⟨_, rfl⟩⟩
  | looseWord | sharedWord => exact holds rfl
  | _ => cases binds

/-- A number that fits a width is bound to it. -/
theorem bind_of_fits {width : Width} (held : store.memory.Holds width) {value : Value}
    {number : Nat} (denotes : store.Denotes value number) (fits : Fits width.bits number) :
    LooseWord.bind store (.whole width.bits) value = .ok (.ofWord ⟨width, number, fits⟩) := by
  rw [LooseWord.bind_of_denotes denotes, Word.ofInt_of_holds held,
    Word.ofIntAt_value ⟨width, number, fits⟩]
  rfl

/-- What is bound becomes a word with the number that the value denotes. -/
theorem bind_eq_ok_of_bindWord {bits : Int} {value bound : Value} (holds : store.HoldsInteger value)
    (binds : store.bindWord (.whole bits) value = .ok bound) :
    ∃ word : Word, store.Denotes value word.value ∧
      LooseWord.bind store (.whole bits) value = .ok (.ofWord word) := by
  rcases denotes_of_bindWord holds binds with ⟨number, denotes⟩
  rw [bindWord_whole, Except.map_eq_ok_iff] at binds
  rcases binds with ⟨parts, parts_eq, _⟩
  have bind_eq := LooseWord.bind_of_denotes denotes bits
  rw [bind_eq, Except.map_eq_ok_iff] at parts_eq
  rcases parts_eq with ⟨word, read, _⟩
  have value_eq : word.value = number := (Word.ofInt_eq_ok read).2.1.symm
  refine ⟨word, ?_, ?_⟩
  · rw [value_eq]
    exact denotes
  · rw [bind_eq, read]
    rfl

section Denoting

variable {value : Value} {number : Int}

theorem denotes_ofIntegral_iff {part : Integral} :
    store.Denotes (.ofIntegral part) number ↔ part.value = number := by
  cases part with
  | whole other =>
      simp [Denotes, Value.ofIntegral, word?, Integral.value]
  | word bound origin =>
      simp [Denotes, Value.ofIntegral, word?, Integral.value, LooseWord.ofWord]

/-- What is not loose denotes a number by being it, bare or in a word. -/
theorem Denotes.exists_integral (denotes : store.Denotes value number)
    (proper : value.isLoose = false) : ∃ part : Integral, value = .ofIntegral part := by
  rcases denotes with rfl | ⟨width, found⟩
  · exact ⟨.whole number, rfl⟩
  · cases value with
    | word bound origin => exact ⟨.word bound origin, rfl⟩
    | looseWord | sharedWord => cases proper
    | _ => cases found

theorem Denotes.eq_whole (denotes : store.Denotes value number)
    (notWord : store.word? value = none) : value = .whole number := by
  rcases denotes with rfl | ⟨width, found⟩
  · rfl
  · rw [notWord] at found
    cases found

theorem Denotes.isInRange (denotes : store.Denotes value number) (bits : Nat) {parts : LooseWord}
    (binds : LooseWord.bind store (.whole bits) value = .ok parts) :
    ∃ natural : Nat, number = natural ∧ Fits bits natural := by
  rw [LooseWord.bind_of_denotes denotes, Except.map_eq_ok_iff] at binds
  rcases binds with ⟨word, read, _⟩
  have fits := Word.fits_of_ofInt_eq_ok read
  exact ⟨number.toNat, (Int.toNat_of_nonneg fits.1).symm, fits.2⟩

end Denoting

end Store

end PoolFees
