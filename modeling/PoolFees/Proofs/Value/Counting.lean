import Mathlib.Data.Finset.Card
import PoolFees.Operation.Perform
import PoolFees.Proofs.MulDiv.Loose
import PoolFees.Proofs.Value.Transitivity

/-!
# Counting numbers

In a list of integers, truth values and words that hold such, items are told apart by their numbers
alone. A value is kept when its number is not among those that were kept before, so the numbers of
the values that are kept are the numbers in the list, each of them once. How many there are depends
neither on the order of the list nor on the form in which a number is given.

That one value is another, passed on, is decided by where they were made. This agrees with the
numbers as long as values with one identity are one value, as they are in every session.

A loose word that holds neither an integer nor a truth value is no number. Of such words nothing is
said here.
-/

namespace PoolFees

namespace Value

variable {left right : Value} {number other : Int}

theorem relates_of_integers (isInteger : left.integer? = some number)
    (otherIsInteger : right.integer? = some other) (relation : Relation) :
    left.relates relation right = .ok (relation.admits (compare number other)) := by
  have compared := Quantity.compare?_ofInt number other
  cases left with
  | truth | whole =>
      cases right with
      | truth | whole =>
          cases isInteger
          cases otherIsInteger
          simp only [relates, quantity?, compared]
      | _ => cases otherIsInteger
  | _ => cases isInteger

end Value

namespace Store

variable {store : Store} {value item : Value} {number other : Int}

section Numbers

theorem wrapsInteger_of_number? (isNumber : store.number? value = some number) :
    store.WrapsInteger value := by
  intro word isWord
  rw [number?, unwrap, isWord] at isNumber
  exact ⟨number, isNumber⟩

theorem isFractional_of_number? (isNumber : store.number? value = some number) :
    value.isFractional = false := by
  cases value with
  | real | decimal => cases isNumber
  | _ => rfl

theorem same_of_numbers (isNumber : store.number? value = some number)
    (otherIsNumber : store.number? item = some other) :
    store.same value item = some (number == other) := by
  have compatible : store.Compatible value item :=
    .of_notFractional (wrapsInteger_of_number? isNumber) (wrapsInteger_of_number? otherIsNumber)
      (isFractional_of_number? isNumber) (isFractional_of_number? otherIsNumber)
  rw [compatible.same_unwrap, ← Value.sameQuantity_of_integers isNumber otherIsNumber]
  exact sameTo_integer isNumber (word?_of_integer? otherIsNumber) 999

theorem matchesItem_of_numbers (isNumber : store.number? value = some number)
    (otherIsNumber : store.number? item = some other)
    (coherent : value.isIdentical item = true → value = item) :
    Value.matchesItem store.same value item = some (number == other) := by
  rw [Value.matchesItem]
  split
  · rename_i identical
    obtain rfl := coherent identical
    obtain rfl := Option.some_inj.1 (isNumber.symm.trans otherIsNumber)
    rw [beq_self_eq_true]
  · exact same_of_numbers isNumber otherIsNumber

theorem checkFixed_of_number? (isNumber : store.number? value = some number) :
    store.checkFixed value = .ok () := by
  rw [← (wrapsInteger_of_number? isNumber).checkFixed_exchanged (.inr rfl)]
  rw [number?] at isNumber
  cases content_eq : store.unwrap value with
  | truth | whole => rfl
  | _ =>
      rw [content_eq] at isNumber
      cases isNumber

end Numbers

/-- The items of a list stand for the numbers of another list, in the same order. -/
def Numbered (store : Store) (items : List Value) (numbers : List Int) : Prop :=
  items.map store.number? = numbers.map some

namespace Numbered

variable {items kept all : List Value} {numbers keptNumbers : List Int}

@[simp]
theorem nil : store.Numbered [] [] := rfl

theorem length_eq (numbered : store.Numbered items numbers) : items.length = numbers.length := by
  have lengths := congrArg List.length numbered
  rwa [List.length_map, List.length_map] at lengths

theorem append_singleton (numbered : store.Numbered items numbers)
    (isNumber : store.number? item = some number) :
    store.Numbered (items ++ [item]) (numbers ++ [number]) := by
  rw [Numbered, List.map_append, List.map_append, numbered, List.map_singleton, isNumber,
    List.map_singleton]

/-- Among values that stand for numbers, a value is found by its number. -/
theorem hasItem_eq (numbered : store.Numbered kept keptNumbers)
    (isNumber : store.number? item = some number)
    (coherent : ∀ value ∈ kept, value.isIdentical item = true → value = item) :
    store.hasItem kept item = decide (number ∈ keptNumbers) := by
  induction kept generalizing keptNumbers with
  | nil =>
      obtain rfl := List.map_eq_nil_iff.1 numbered.symm
      rfl
  | cons value kept ih =>
      rcases List.map_eq_cons_iff.1 numbered.symm with
        ⟨keptNumber, restNumbers, rfl, isKept, restNumbered⟩
      rw [List.forall_mem_cons] at coherent
      have matched := matchesItem_of_numbers isKept.symm isNumber coherent.1
      have rest := ih restNumbered.symm coherent.2
      rw [hasItem] at rest ⊢
      rw [List.any_cons, matched, rest]
      by_cases same : keptNumber = number <;> simp [same, Ne.symm]

theorem keep_next (coherent : ∀ value ∈ kept, value.isIdentical item = true → value = item)
    (numbered : store.Numbered kept numbers) (differ : numbers.Nodup)
    (isNumber : store.number? item = some number) :
    ∃ nextNumbers,
      store.Numbered (if store.hasItem kept item then kept else kept ++ [item]) nextNumbers ∧
      nextNumbers.Nodup ∧ ∀ other, other ∈ nextNumbers ↔ other ∈ numbers ∨ other = number := by
  rw [numbered.hasItem_eq isNumber coherent]
  by_cases known : number ∈ numbers
  · rw [decide_eq_true known, if_pos rfl]
    refine ⟨numbers, numbered, differ, fun other => (or_iff_left_of_imp ?_).symm⟩
    rintro rfl
    exact known
  · rw [decide_eq_false known, if_neg Bool.false_ne_true]
    refine ⟨numbers ++ [number], numbered.append_singleton isNumber, ?_, fun other => ?_⟩
    · rw [← List.concat_eq_append]
      exact differ.concat known
    · rw [List.mem_append, List.mem_singleton]

/-- Each number is kept once. The induction is on the items that are left; it carries that the
numbers of the values that were kept differ. -/
theorem distinctAfter_eq_ok (coherent : Coherent all)
    (keptNumbered : store.Numbered kept keptNumbers) (keptWithin : kept ⊆ all)
    (differ : keptNumbers.Nodup) (numbered : store.Numbered items numbers)
    (within : items ⊆ all) :
    ∃ result resultNumbers, store.distinctAfter kept items = .ok result ∧
      store.Numbered result resultNumbers ∧ result ⊆ all ∧ resultNumbers.Nodup ∧
      ∀ number, number ∈ resultNumbers ↔ number ∈ keptNumbers ∨ number ∈ numbers := by
  induction items generalizing kept keptNumbers numbers with
  | nil =>
      obtain rfl := List.map_eq_nil_iff.1 numbered.symm
      refine ⟨kept, keptNumbers, rfl, keptNumbered, keptWithin, differ, fun number => ?_⟩
      rw [List.mem_nil_iff, or_false]
  | cons item items ih =>
      rcases List.map_eq_cons_iff.1 numbered.symm with
        ⟨number, restNumbers, rfl, isItem, restNumbered⟩
      rw [List.cons_subset] at within
      have identical : ∀ value ∈ kept, value.isIdentical item = true → value = item :=
        fun value member => coherent value (keptWithin member) item within.1
      rcases keep_next identical keptNumbered differ isItem.symm with
        ⟨nextNumbers, nextNumbered, nextDiffer, nextMembers⟩
      have nextWithin : (if store.hasItem kept item then kept else kept ++ [item]) ⊆ all := by
        split
        · exact keptWithin
        · exact List.append_subset.2 ⟨keptWithin, List.cons_subset.2 ⟨within.1, nofun⟩⟩
      rcases ih nextNumbered nextWithin nextDiffer restNumbered.symm within.2 with
        ⟨result, resultNumbers, ends, resultNumbered, resultWithin, resultDiffer, members⟩
      refine ⟨result, resultNumbers, ?_, resultNumbered, resultWithin, resultDiffer, ?_⟩
      · rw [distinctAfter, checkFixed_of_number? isItem.symm]
        exact ends
      · intro other
        rw [members, nextMembers, List.mem_cons, or_assoc]

theorem distinct_eq (numbered : store.Numbered items numbers) (coherent : Coherent items) :
    store.distinct items = .ok numbers.toFinset.card := by
  rcases distinctAfter_eq_ok coherent nil (List.nil_subset items) List.nodup_nil numbered
    (List.Subset.refl items) with
    ⟨result, resultNumbers, ends, resultNumbered, _, resultDiffer, members⟩
  have same_numbers : resultNumbers.toFinset = numbers.toFinset := by
    ext number
    rw [List.mem_toFinset, List.mem_toFinset, members, List.mem_nil_iff, false_or]
  rw [distinct, ends, Except.map, resultNumbered.length_eq,
    ← List.toFinset_card_of_nodup resultDiffer, same_numbers]

theorem contains_eq (numbered : store.Numbered items numbers)
    (isNumber : store.number? item = some number) (coherent : Coherent (item :: items)) :
    store.contains item items = .ok (decide (number ∈ numbers)) := by
  rcases distinctAfter_eq_ok coherent nil (List.nil_subset _) List.nodup_nil numbered
    (List.subset_cons_self item items) with
    ⟨result, resultNumbers, ends, resultNumbered, resultWithin, _, members⟩
  have found := resultNumbered.hasItem_eq isNumber fun value member =>
    coherent value (resultWithin member) item List.mem_cons_self
  have same_members : number ∈ resultNumbers ↔ number ∈ numbers := by
    rw [members, List.mem_nil_iff, false_or]
  simp only [contains, ends, checkFixed_of_number? isNumber, Bind.bind, Except.bind, found,
    same_members]

end Numbered

section Order

theorem relatesTo_of_integers {left right : Value} (isInteger : left.integer? = some number)
    (otherIsInteger : right.integer? = some other) (depth : Nat) (relation : Relation) :
    store.relatesTo (depth + 1) relation left right =
      .ok (relation.admits (compare number other)) := by
  have ordered := Value.relates_of_integers isInteger otherIsInteger relation
  have notWord : store.word? left = none := word?_of_integer? isInteger
  have otherNotWord : store.word? right = none := word?_of_integer? otherIsInteger
  simp only [relatesTo, notWord, otherNotWord]
  cases left with
  | truth | whole => cases relation <;> exact ordered
  | _ => cases isInteger

theorem relatesTo_above_of_numbers (isWord : (store.word? value).isSome)
    (isNumber : store.number? value = some number)
    (otherIsNumber : store.number? item = some other) (depth : Nat) :
    store.relatesTo (depth + 2) .above value item = .ok (decide (other < number)) := by
  rcases Option.isSome_iff_exists.1 isWord with ⟨parts, found⟩
  have opened : store.relatesTo (depth + 2) .above value item =
      store.relatesTo (depth + 1) .above parts.content (store.unwrap item) := by
    conv_lhs => unfold relatesTo
    simp only [found]
  rw [number?, unwrap, found] at isNumber
  rw [opened, relatesTo_of_integers isNumber otherIsNumber, Relation.admits_above]

/-- A number is below a word when the word is above it. -/
theorem relatesTo_below_of_numbers (isWord : (store.word? item).isSome)
    (isNumber : store.number? value = some number)
    (otherIsNumber : store.number? item = some other) (depth : Nat) :
    store.relatesTo (depth + 2) .below value item = .ok (decide (number < other)) := by
  rcases Option.isSome_iff_exists.1 isWord with ⟨parts, found⟩
  have opened : store.relatesTo (depth + 2) .below value item =
      store.relatesTo (depth + 1) .above parts.content (store.unwrap value) := by
    conv_lhs => unfold relatesTo
    simp only [found]
  rw [number?, unwrap, found] at otherIsNumber
  rw [opened, relatesTo_of_integers otherIsNumber isNumber, Relation.admits_above]

end Order

/-- Lists of numbers are counted and searched by number, and of two words one is above the other, or
below it, or they are equal. -/
theorem numbers_told_apart (store : Store) :
    (∀ items numbers origin, store.Numbered items numbers → Coherent items →
      Comparison.perform store .distinct [.list items origin] =
        .ok (.whole numbers.toFinset.card)) ∧
    (∀ items numbers others otherNumbers origin otherOrigin,
      store.Numbered items numbers → Coherent items →
      store.Numbered others otherNumbers → Coherent others → numbers.Perm otherNumbers →
        Comparison.perform store .distinct [.list others otherOrigin] =
          Comparison.perform store .distinct [.list items origin]) ∧
    (∀ item number items numbers origin, store.number? item = some number →
      store.Numbered items numbers → Coherent (item :: items) →
        Comparison.perform store .contains [item, .list items origin] =
          .ok (.truth (decide (number ∈ numbers)))) ∧
    ∀ left right number other, (store.word? left).isSome → (store.word? right).isSome →
      store.number? left = some number → store.number? right = some other →
        ∃ equal above below,
          Comparison.perform store .equal [left, right] = .ok (.truth equal) ∧
          WordOperation.perform store .above [left, right] = .ok (.truth above) ∧
          WordOperation.perform store .below [left, right] = .ok (.truth below) ∧
          (equal = true ↔ number = other) ∧ (above = true ↔ other < number) ∧
          (below = true ↔ number < other) ∧ [equal, above, below].count true = 1 := by
  refine ⟨?_, ?_, ?_, ?_⟩
  · intro items numbers origin numbered coherent
    rw [Comparison.perform, numbered.distinct_eq coherent]
    rfl
  · intro items numbers others otherNumbers origin otherOrigin numbered coherent otherNumbered
      otherCoherent permuted
    rw [Comparison.perform, Comparison.perform, numbered.distinct_eq coherent,
      otherNumbered.distinct_eq otherCoherent, List.toFinset_eq_of_perm _ _ permuted]
  · intro item number items numbers origin isNumber numbered coherent
    rw [Comparison.perform, numbered.contains_eq isNumber coherent]
    rfl
  · intro left right number other isWord otherIsWord isNumber otherIsNumber
    have equal := equals_eq_ok.2 (same_of_numbers isNumber otherIsNumber)
    have above : store.relates .above left right = .ok (decide (other < number)) :=
      relatesTo_above_of_numbers isWord isNumber otherIsNumber 998
    have below : store.relates .below left right = .ok (decide (number < other)) :=
      relatesTo_below_of_numbers otherIsWord isNumber otherIsNumber 998
    rcases Option.isSome_iff_exists.1 isWord with ⟨parts, found⟩
    refine ⟨number == other, decide (other < number), decide (number < other), ?_, ?_, ?_,
      beq_iff_eq, decide_eq_true_iff, decide_eq_true_iff, ?_⟩
    · rw [Comparison.perform, equal]
      rfl
    · simp only [WordOperation.perform, WordOperation.performWith, found,
        WordOperation.isComparison, WordOperation.compareWord, above, Except.map]
    · simp only [WordOperation.perform, WordOperation.performWith, found,
        WordOperation.isComparison, WordOperation.compareWord, otherIsWord, if_true, below,
        Except.map]
    · rcases Int.lt_trichotomy number other with less | rfl | greater
      · simp [less, Int.ne_of_lt less, Int.lt_asymm less]
      · simp
      · simp [greater, Int.ne_of_gt greater, Int.lt_asymm greater]

/-- The numbers one and two in several forms, of which one is a word in the store. -/
theorem numbers_told_apart_of_two :
    let store : Store := ⟨[⟨.whole 2, .whole 64⟩], [], [], .usual⟩
    let one : Value := .word ⟨⟨8, by decide⟩, 1, by decide⟩ [0]
    ∃ equal above below,
      Comparison.perform store .distinct [.list [one, .whole 1, .truth true, .sharedWord 0] []] =
        .ok (.whole [1, 1, 1, 2].toFinset.card) ∧
      Comparison.perform store .distinct [.list [.whole 2, one, .whole 1, .whole 1] []] =
        Comparison.perform store .distinct [.list [one, .whole 1, .truth true, .sharedWord 0] []] ∧
      Comparison.perform store .contains [.sharedWord 0, .list [one, .whole 2] []] =
        .ok (.truth true) ∧
      Comparison.perform store .equal [one, .sharedWord 0] = .ok (.truth equal) ∧
      WordOperation.perform store .above [one, .sharedWord 0] = .ok (.truth above) ∧
      WordOperation.perform store .below [one, .sharedWord 0] = .ok (.truth below) ∧
      [equal, above, below].count true = 1 := by
  intro store one
  rcases numbers_told_apart store with ⟨counted, unchanged, searched, ordered⟩
  have coherent : Coherent [one, .whole 1, .truth true, .sharedWord 0] := by
    simp [Coherent, one, Value.isIdentical, Value.identity?, Origin.identity?]
  have otherCoherent : Coherent [.whole 2, one, .whole 1, .whole 1] := by
    simp [Coherent, one, Value.isIdentical, Value.identity?, Origin.identity?]
  have searchedCoherent : Coherent [.sharedWord 0, one, .whole 2] := by
    simp [Coherent, one, Value.isIdentical, Value.identity?, Origin.identity?]
  rcases ordered one (.sharedWord 0) 1 2 rfl rfl rfl rfl with
    ⟨equal, above, below, equals, isAbove, isBelow, _, _, _, exactlyOne⟩
  refine ⟨equal, above, below, ?_, ?_, ?_, equals, isAbove, isBelow, exactlyOne⟩
  · exact counted _ [1, 1, 1, 2] [] rfl coherent
  · exact unchanged _ [1, 1, 1, 2] _ [2, 1, 1, 1] [] [] rfl coherent rfl otherCoherent (by decide)
  · exact searched (.sharedWord 0) 2 _ [1, 2] [] rfl rfl searchedCoherent

end Store

end PoolFees
