import PoolFees.LooseWord

/-!
# Words among loose words

The operations on loose words are those of `PoolFees.Word` on more receivers: a word that fits its
width can be taken as a loose word, and combining, widening and narrowing it give the same results
and the same faults as before. Only a loose word has its width read again and again, so there has to
be memory for the width of the word.
-/

namespace PoolFees

namespace Relation

theorem admits_below (left right : Int) :
    below.admits (compare left right) = decide (left < right) := by
  by_cases isBelow : left < right
  · simp [admits, isBelow, Int.compare_eq_lt.2 isBelow]
  · simp only [isBelow, decide_false]
    cases ordering : compare left right with
    | lt => exact absurd (Int.compare_eq_lt.1 ordering) isBelow
    | eq | gt => rfl

end Relation

namespace Store

/-- Integers are ordered as integers. -/
theorem relates_whole (store : Store) (relation : Relation) (left right : Int) :
    store.relates relation (.whole left) (.whole right) =
      .ok (relation.admits (compare left right)) := by
  change Store.relatesTo store (999 + 1) _ _ _ = _
  cases relation <;>
    simp [relatesTo, Store.word?, Value.relates, Value.quantity?, Quantity.compare?_ofInt]

/-- Integers are equal as integers, wherever they are found in what is compared. -/
theorem sameTo_whole (store : Store) (depth : Nat) (left right : Int) :
    store.sameTo (depth + 1) (.whole left) (.whole right) = some (left == right) := by
  simp [sameTo, Store.word?, sameOther, Store.record?, Value.fixedPointParts?, Value.sameQuantity,
    Value.quantity?, Quantity.same_ofInt]

theorem same_whole (store : Store) (left right : Int) :
    store.same (.whole left) (.whole right) = some (left == right) :=
  store.sameTo_whole 999 left right

theorem equals_whole (store : Store) (left right : Int) :
    store.equals (.whole left) (.whole right) = .ok (left == right) := by
  simp [equals, same_whole]

theorem shown_whole (store : Store) (number : Int) :
    store.shown (.whole number) = .ok (.whole number) := rfl

end Store

namespace LooseWord

theorem overflows_natural (width : Width) (number : Nat) :
    overflows width number = !decide (Fits width.bits number) := by
  simp [overflows]

/-- An integer is bound to a width as it is to the width of a word. -/
theorem bindContent_whole (store : Store) (bits number : Int) :
    bindContent store (.whole bits) (.whole number) =
      (Word.ofInt store.memory bits number).map ofWord := by
  unfold bindContent Word.ofInt
  rw [Store.relates_whole, Relation.admits_below]
  by_cases negative : number < 0
  · simp [negative, Bind.bind, Except.bind, Store.shown_whole, refuse, Except.map]
  · obtain ⟨natural, rfl⟩ := Int.eq_ofNat_of_zero_le (Int.not_lt.1 negative)
    have width_eq : widthOf store (.whole bits) = Width.ofInt store.memory bits := rfl
    simp only [negative, Bind.bind, Except.bind, decide_false, width_eq, if_false,
      Bool.false_eq_true]
    cases read : Width.ofInt store.memory bits with
    | error fault => simp [Except.map]
    | ok width =>
      obtain rfl := (Width.ofInt_eq_ok read).1
      simp only [Word.ofIntAt, negative, if_false]
      by_cases fits : Fits width.bits natural
      · simp [exceeds, Value.integer?, overflows_natural, fits, Except.map, ofWord]
      · simp [exceeds, Value.integer?, overflows_natural, fits, Except.map, Store.shown_whole,
          refuse]

theorem bind_whole (store : Store) (bits number : Int) :
    bind store (.whole bits) (.whole number) = (Word.ofInt store.memory bits number).map ofWord :=
  bindContent_whole store bits number

/-- The number of an operand is the same for a word that fits as for a loose word. -/
theorem operand_ofWord {store : Store} {receiver : Word} (held : store.memory.Holds receiver.width)
    {value : Value} (proper : value.isLoose = false) :
    (ofWord receiver).operand store value =
      (receiver.operand value).map fun number => .whole number := by
  cases value with
  | word bound origin =>
    by_cases sameWidth : bound.width = receiver.width
    · simp [operand, Store.word?, Word.operand, Word.operandOf, sameWidth, ofWord,
        Store.equals_whole, Bind.bind, Except.bind, Except.map]
    · have differs : ¬(bound.width.bits : Int) = receiver.width.bits := by
        intro bits_eq
        apply sameWidth
        cases width_eq : bound.width
        cases receiverWidth_eq : receiver.width
        simp only [width_eq, receiverWidth_eq] at bits_eq
        simpa using Int.ofNat.inj bits_eq
      simp [operand, Store.word?, Word.operand, Word.operandOf, sameWidth, ofWord,
        Store.equals_whole, Bind.bind, Except.bind, Except.map, differs, Store.shown_whole, refuse]
  | whole number =>
    change (bind store (.whole receiver.width.bits) (.whole number)).map content = _
    rw [bind_whole, Word.ofInt_of_holds held]
    change _ = Except.map _ (Except.map _ (Word.ofIntAt receiver.width number))
    cases Word.ofIntAt receiver.width number <;> rfl
  | looseWord | sharedWord => simp [Value.isLoose] at proper
  | _ => rfl

/-- A number that fits a width is bound to it. -/
theorem bind_fits {store : Store} {width : Width} (held : store.memory.Holds width) {number : Nat}
    (fits : Fits width.bits number) :
    bind store (.whole width.bits) (.whole number) = .ok (ofWord ⟨width, number, fits⟩) := by
  rw [bind_whole, Word.ofInt_of_holds held, Word.ofIntAt_value ⟨width, number, fits⟩]
  rfl

/-- Combining words gives the same result for a word that fits as for a loose word. -/
theorem calculate_ofWord {store : Store} {receiver : Word}
    (held : store.memory.Holds receiver.width) (operation : Word.Arithmetic) (number : Nat) :
    (ofWord receiver).calculate store operation (.whole number) =
      .ok ((receiver.calculate? operation number).map ofWord) := by
  cases operation with
  | sub =>
    have result_eq :
        (Value.whole receiver.value).difference (.whole number) =
          .ok (.whole (receiver.value - number)) := rfl
    simp only [calculate, ofWord, result_eq, Bind.bind, Except.bind, Store.relates_whole,
      Relation.admits_below]
    by_cases present : number ≤ receiver.value
    · have natural : ¬(receiver.value : Int) - number < 0 := by omega
      have fits : Fits receiver.width.bits (receiver.value - number) :=
        Nat.lt_of_le_of_lt (Nat.sub_le _ _) receiver.fits
      have bound := bind_fits held fits
      rw [Int.ofNat_sub present] at bound
      simp only [natural, decide_false, Bool.false_eq_true, if_false, bound, Except.map,
        Word.calculate?, Word.Arithmetic.result?, present, if_true, Option.bind_some, Word.ofNat?,
        fits, dite_true, Option.map_some, ofWord, Int.ofNat_sub present]
    · have negative : (receiver.value : Int) - number < 0 := by omega
      simp only [negative, decide_true, if_true, Word.calculate?, Word.Arithmetic.result?, present,
        if_false, Option.bind_none, Option.map_none]
  | mul =>
    have result_eq :
        (Value.whole receiver.value).product (.whole number) =
          .ok (.whole ((receiver.value * number : Nat) : Int)) := by
      rw [Int.natCast_mul]
      rfl
    have width_eq : widthOf store (.whole receiver.width.bits) = .ok receiver.width :=
      Width.ofInt_bits held
    simp only [calculate, ofWord, result_eq, Bind.bind, Except.bind, width_eq, exceeds,
      Value.integer?, overflows_natural]
    by_cases fits : Fits receiver.width.bits (receiver.value * number)
    · simp only [fits, decide_true, Bool.not_true, Bool.false_eq_true, if_false,
        bind_fits held fits, Except.map, Word.calculate?, Word.Arithmetic.result?,
        Option.bind_some, Word.ofNat?, dite_true, Option.map_some, ofWord]
    · simp only [fits, decide_false, Bool.not_false, if_true, Word.calculate?,
        Word.Arithmetic.result?, Option.bind_some, Word.ofNat?, dite_false, Option.map_none]
  | div =>
    have result_eq :
        (Value.whole receiver.value).quotient (.whole number) =
          .ok ((receiver.value / number : Nat) : Int) :=
      congrArg Except.ok (Int.ofNat_fdiv receiver.value number).symm
    simp only [calculate, ofWord, result_eq, Bind.bind, Except.bind, Store.equals_whole]
    by_cases isZero : number = 0
    · subst isZero
      rfl
    · have notZero : ((number : Int) == 0) = false :=
        beq_eq_false_iff_ne.2 fun zero => isZero (Int.ofNat.inj zero)
      have fits : Fits receiver.width.bits (receiver.value / number) :=
        Nat.lt_of_le_of_lt (Nat.div_le_self _ _) receiver.fits
      simp only [notZero, Bool.false_eq_true, if_false, bind_fits held fits, Except.map,
        Word.calculate?, Word.Arithmetic.result?, isZero, Option.bind_some, Word.ofNat?, fits,
        dite_true, Option.map_some, ofWord]

/-- Combining a word with a value gives the same for a word that fits as for a loose word. -/
theorem combine_ofWord {store : Store} {receiver : Word} (held : store.memory.Holds receiver.width)
    (operation : Word.Arithmetic) {value : Value} (proper : value.isLoose = false) :
    (ofWord receiver).combine store operation value =
      (receiver.combine operation value).map fun result => result.map ofWord := by
  simp only [combine, operand_ofWord held proper, Word.combine]
  cases receiver.operand value with
  | error fault => rfl
  | ok number => exact calculate_ofWord held operation number

/-- Widening gives the same result for a word that fits as for a loose word. -/
theorem widen_ofWord (store : Store) (word : Word) (bits : Int) :
    (ofWord word).widen store (.whole bits) = (word.widen store.memory bits).map ofWord := by
  simp only [widen, ofWord, Store.relates_whole, Relation.admits_below, bind_whole, Word.widen]
  by_cases narrower : bits < word.width.bits
  · simp [narrower, Bind.bind, Except.bind, Store.shown_whole, refuse, Except.map]
  · simp [narrower, Bind.bind, Except.bind]

/-- Narrowing gives the same result for a word that fits as for a loose word. -/
theorem narrow_ofWord (store : Store) (word : Word) (bits : Int) :
    (ofWord word).narrow store (.whole bits) =
      (word.narrow store.memory bits).map fun result => result.map ofWord := by
  have width_eq : widthOf store (.whole bits) = Width.ofInt store.memory bits := rfl
  simp only [narrow, ofWord, width_eq, bind_whole, Word.narrow]
  cases read : Width.ofInt store.memory bits with
  | error fault => simp [Bind.bind, Except.bind, Except.map]
  | ok width =>
    obtain ⟨rfl, held⟩ := Width.ofInt_eq_ok read
    rw [Word.ofInt_of_holds held]
    by_cases fits : Fits width.bits word.value
    · simp [exceeds, Value.integer?, overflows_natural, fits, Bind.bind, Except.bind, Except.map,
        Word.resize?, Word.ofNat?, Word.ofIntAt_value ⟨width, word.value, fits⟩, ofWord]
    · simp [exceeds, Value.integer?, overflows_natural, fits, Bind.bind, Except.bind, Except.map,
        Word.resize?, Word.ofNat?]

end LooseWord

end PoolFees
