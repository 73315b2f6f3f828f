import PoolFees.Proofs.Value.Quantity
import PoolFees.Value.Order

/-!
# Words among integers

A word that holds an integer is compared as this integer, in both orders, except with a number of a
kind that has fractions. Such a number can be the same quantity as the integer and so equal it, but
it never equals the word: it clashes with the word.

Where nothing clashes, a word can be exchanged for its integer. Neither the number of different
values in a list nor what is found among them changes when some of its words are exchanged.
-/

namespace PoolFees

namespace Value

/-- Whether a value is a number of a kind that has fractions. -/
def isFractional : Value → Bool
  | real .. | decimal .. => true
  | _ => false

theorem isFractional_of_integer? {value : Value} {number : Int}
    (isInteger : value.integer? = some number) : value.isFractional = false := by
  cases value with
  | real | decimal => cases isInteger
  | _ => rfl

theorem identity?_of_integer? {value : Value} {number : Int}
    (isInteger : value.integer? = some number) : value.identity? = none := by
  cases value with
  | truth | whole => rfl
  | _ => cases isInteger

theorem identity?_of_isIdentical {left right : Value} (identical : left.isIdentical right = true) :
    left.identity? ≠ none ∧ right.identity? ≠ none := by
  unfold isIdentical at identical
  split at identical
  · rename_i leftFound rightFound
    rw [leftFound, rightFound]
    exact ⟨Option.some_ne_none _, Option.some_ne_none _⟩
  · cases identical

/-- What is no number at all is no quantity that an integer could equal. -/
theorem sameQuantity_of_notNumber {left right : Value} (notInteger : ¬right.integer?.isSome = true)
    (notFractional : right.isFractional = false) : left.sameQuantity right = false := by
  rw [sameQuantity_comm]
  cases right with
  | truth | whole => exact (notInteger rfl).elim
  | real | decimal => cases notFractional
  | _ => rfl

end Value

namespace Store

variable {store : Store} {left right : Value} {number : Int}

theorem word?_of_integer? (isInteger : left.integer? = some number) : store.word? left = none := by
  cases left with
  | truth | whole => rfl
  | _ => cases isInteger

/-- An integer is compared as a quantity with everything that is no word. -/
theorem sameTo_integer (isInteger : left.integer? = some number)
    (notWord : store.word? right = none) (depth : Nat) :
    store.sameTo (depth + 1) left right = some (left.sameQuantity right) := by
  simp only [sameTo, word?_of_integer? isInteger, notWord]
  cases left with
  | truth | whole => cases right <;> rfl
  | _ => cases isInteger

theorem sameTo_integer_right (isInteger : right.integer? = some number)
    (notWord : store.word? left = none) (depth : Nat) :
    store.sameTo (depth + 1) left right = some (right.sameQuantity left) := by
  rw [Value.sameQuantity_comm]
  simp only [sameTo, word?_of_integer? isInteger, notWord]
  cases right with
  | truth | whole =>
      cases left with
      | calculator | capability =>
          simp [sameOther, Value.isIdentical, Value.identity?, Value.sameQuantity, Value.quantity?]
      | sharedRecord handle =>
          simp only [sameOther, record?]
          cases store.records[handle]? <;> rfl
      | _ => rfl
  | _ => cases isInteger

/-- An integer is compared alike from both sides. -/
theorem sameTo_integer_comm (isInteger : left.integer? = some number) (depth : Nat) :
    store.sameTo depth left right = store.sameTo depth right left := by
  cases depth with
  | zero => rfl
  | succ depth =>
      cases found : store.word? right with
      | none => rw [sameTo_integer isInteger found, sameTo_integer_right isInteger found]
      | some word =>
          simp only [sameTo, word?_of_integer? isInteger, found, isInteger, Option.isSome_some,
            if_true]

/-- A word holds an integer that another value of a kind with fractions is the same number as. -/
def Clashes (store : Store) (value other : Value) : Prop :=
  ∃ word, store.word? value = some word ∧ other.isFractional = true ∧
    word.content.sameQuantity other = true

section Words

variable {word other : Value} {parts : LooseWord}

theorem sameQuantity_of_apart (isWord : store.word? word = some parts)
    (apart : ¬store.Clashes word other) (notInteger : ¬other.integer?.isSome = true) :
    parts.content.sameQuantity other = false := by
  cases isFractional : other.isFractional with
  | true =>
      rw [← Bool.not_eq_true]
      intro same
      exact apart ⟨parts, isWord, isFractional, same⟩
  | false => exact Value.sameQuantity_of_notNumber notInteger isFractional

/-- A word is compared as its content is, with all that it does not clash with. -/
theorem sameTo_word (isWord : store.word? word = some parts)
    (isInteger : parts.content.integer? = some number) (apart : ¬store.Clashes word other)
    (depth : Nat) :
    store.sameTo (depth + 2) word other = store.sameTo (depth + 2) parts.content other := by
  have contentNotWord : store.word? parts.content = none := word?_of_integer? isInteger
  cases found : store.word? other with
  | some otherParts =>
      rw [sameTo, sameTo]
      simp only [isWord, contentNotWord, found, isInteger, Option.isSome_some, if_true]
      exact sameTo_integer_comm isInteger (depth + 1)
  | none =>
      rw [sameTo_integer isInteger found, sameTo]
      simp only [isWord, found]
      split
      · exact sameTo_integer isInteger found depth
      · rename_i notInteger
        rw [sameQuantity_of_apart isWord apart notInteger]

theorem sameTo_word_right (isWord : store.word? word = some parts)
    (isInteger : parts.content.integer? = some number) (apart : ¬store.Clashes word other)
    (depth : Nat) :
    store.sameTo (depth + 2) other word = store.sameTo (depth + 2) other parts.content := by
  have contentNotWord : store.word? parts.content = none := word?_of_integer? isInteger
  cases found : store.word? other with
  | some otherParts =>
      rw [sameTo, sameTo]
      simp only [isWord, contentNotWord, found, isInteger, Option.isSome_some, if_true]
  | none =>
      rw [sameTo_integer_right isInteger found, sameTo]
      simp only [isWord, found]
      split
      · exact sameTo_integer isInteger found depth
      · rename_i notInteger
        rw [sameQuantity_of_apart isWord apart notInteger]

/-- A word does not equal what it clashes with, but its content does. -/
theorem sameTo_of_clashes (clashes : store.Clashes word other)
    (isWord : store.word? word = some parts) (isInteger : parts.content.integer? = some number)
    (depth : Nat) :
    (store.sameTo (depth + 1) word other = some false ∧
        store.sameTo (depth + 1) other word = some false) ∧
      store.sameTo (depth + 1) parts.content other = some true ∧
        store.sameTo (depth + 1) other parts.content = some true := by
  rcases clashes with ⟨_, isWord', isFractional, same⟩
  obtain rfl := Option.some_inj.1 (isWord.symm.trans isWord')
  have notWord : store.word? other = none := by
    cases other <;> first | rfl | cases isFractional
  have notInteger : other.integer? = none := by
    cases other <;> first | rfl | cases isFractional
  refine ⟨?_, ?_, ?_⟩
  · rw [sameTo, sameTo]
    simp only [isWord, notWord, notInteger, Option.isSome_none, Bool.false_eq_true, if_false,
      and_self]
  · rw [sameTo_integer isInteger notWord, same]
  · rw [sameTo_integer_right isInteger notWord, same]

end Words

/-- If a value is a word, it holds an integer. -/
def WrapsInteger (store : Store) (value : Value) : Prop :=
  ∀ word, store.word? value = some word → ∃ number, word.content.integer? = some number

/-- Two values of which none is a word that clashes with the other. -/
structure Compatible (store : Store) (value other : Value) : Prop where
  holds : store.WrapsInteger value
  otherHolds : store.WrapsInteger other
  apart : ¬store.Clashes value other
  otherApart : ¬store.Clashes other value

/-- What is not a word clashes with nothing. -/
theorem not_clashes_of_notWord {value : Value} (notWord : store.word? value = none)
    (other : Value) : ¬store.Clashes value other := by
  rintro ⟨word, isWord, _⟩
  rw [notWord] at isWord
  cases isWord

namespace WrapsInteger

variable {value : Value}

theorem integer?_unwrap (holds : store.WrapsInteger value) {word : LooseWord}
    (isWord : store.word? value = some word) :
    ∃ number, (store.unwrap value).integer? = some number := by
  rw [unwrap, isWord]
  exact holds word isWord

theorem word?_unwrap (holds : store.WrapsInteger value) :
    store.word? (store.unwrap value) = none := by
  cases isWord : store.word? value with
  | none =>
      rw [unwrap, isWord]
      exact isWord
  | some word =>
      rcases holds.integer?_unwrap isWord with ⟨number, isInteger⟩
      exact word?_of_integer? isInteger

theorem unwrap_unwrap (holds : store.WrapsInteger value) :
    store.unwrap (store.unwrap value) = store.unwrap value := by
  rw [unwrap, holds.word?_unwrap]

end WrapsInteger

namespace Compatible

variable {value other : Value}

theorem swap (compatible : store.Compatible value other) : store.Compatible other value :=
  ⟨compatible.otherHolds, compatible.holds, compatible.otherApart, compatible.apart⟩

/-- Without fractions nothing clashes. -/
theorem of_notFractional (holds : store.WrapsInteger value) (otherHolds : store.WrapsInteger other)
    (notFractional : value.isFractional = false) (otherNotFractional : other.isFractional = false) :
    store.Compatible value other where
  holds := holds
  otherHolds := otherHolds
  apart := by
    rintro ⟨_, _, isFractional, _⟩
    rw [otherNotFractional] at isFractional
    cases isFractional
  otherApart := by
    rintro ⟨_, _, isFractional, _⟩
    rw [notFractional] at isFractional
    cases isFractional

theorem unwrap_left (compatible : store.Compatible value other) :
    store.Compatible (store.unwrap value) other where
  holds word isWord := by
    rw [compatible.holds.word?_unwrap] at isWord
    cases isWord
  otherHolds := compatible.otherHolds
  apart := not_clashes_of_notWord compatible.holds.word?_unwrap other
  otherApart := by
    cases isWord : store.word? value with
    | none =>
        rw [unwrap, isWord]
        exact compatible.otherApart
    | some word =>
        rcases compatible.holds.integer?_unwrap isWord with ⟨number, isInteger⟩
        rintro ⟨_, _, isFractional, _⟩
        rw [Value.isFractional_of_integer? isInteger] at isFractional
        cases isFractional

theorem sameTo_unwrap_left (compatible : store.Compatible value other) (depth : Nat) :
    store.sameTo (depth + 2) value other = store.sameTo (depth + 2) (store.unwrap value) other := by
  cases isWord : store.word? value with
  | none => rw [unwrap, isWord]
  | some parts =>
      rcases compatible.holds parts isWord with ⟨number, isInteger⟩
      rw [sameTo_word isWord isInteger compatible.apart, unwrap, isWord]

theorem sameTo_unwrap_right (compatible : store.Compatible value other) (depth : Nat) :
    store.sameTo (depth + 2) value other = store.sameTo (depth + 2) value (store.unwrap other) := by
  cases isWord : store.word? other with
  | none => rw [unwrap, isWord]
  | some parts =>
      rcases compatible.otherHolds parts isWord with ⟨number, isInteger⟩
      rw [sameTo_word_right isWord isInteger compatible.otherApart, unwrap, isWord]

/-- Values are equal when their contents are. -/
theorem same_unwrap (compatible : store.Compatible value other) :
    store.same value other = store.same (store.unwrap value) (store.unwrap other) := by
  change store.sameTo (998 + 2) _ _ = store.sameTo (998 + 2) _ _
  rw [compatible.sameTo_unwrap_left, compatible.unwrap_left.sameTo_unwrap_right]

end Compatible

/-- A value is kept, or it is exchanged for its content if it is a word. -/
def Exchanges (store : Store) (value other : Value) : Prop :=
  other = value ∨ other = store.unwrap value

/-- Values that are one value, passed on, are the same. The arguments of a request always are
coherent, as `Session.coherent_of_run` shows. -/
def Coherent (values : List Value) : Prop :=
  ∀ left ∈ values, ∀ right ∈ values, left.isIdentical right = true → left = right

section Exchanged

variable {value other exchanged otherExchanged : Value}

/-- An exchange leaves the content alone. -/
theorem Exchanges.unwrap_eq (exchanges : store.Exchanges value exchanged)
    (holds : store.WrapsInteger value) : store.unwrap exchanged = store.unwrap value := by
  rcases exchanges with rfl | rfl
  · rfl
  · exact holds.unwrap_unwrap

theorem Compatible.exchange_left (compatible : store.Compatible value other)
    (exchanges : store.Exchanges value exchanged) : store.Compatible exchanged other := by
  rcases exchanges with rfl | rfl
  · exact compatible
  · exact compatible.unwrap_left

theorem Compatible.exchange (compatible : store.Compatible value other)
    (exchanges : store.Exchanges value exchanged)
    (otherExchanges : store.Exchanges other otherExchanged) :
    store.Compatible exchanged otherExchanged :=
  ((compatible.exchange_left exchanges).swap.exchange_left otherExchanges).swap

/-- What a word is exchanged for has no identity. -/
theorem Exchanges.eq_of_identity? (exchanges : store.Exchanges value exchanged)
    (holds : store.WrapsInteger value) (hasIdentity : exchanged.identity? ≠ none) :
    exchanged = value := by
  rcases exchanges with rfl | rfl
  · rfl
  · cases isWord : store.word? value with
    | none => simp only [unwrap, isWord]
    | some word =>
        rcases holds.integer?_unwrap isWord with ⟨number, isInteger⟩
        exact (hasIdentity (Value.identity?_of_integer? isInteger)).elim

/-- A word matches its own content, and both match themselves. -/
theorem Compatible.matchesItem_self (compatible : store.Compatible value value)
    (exchanges : store.Exchanges value exchanged)
    (otherExchanges : store.Exchanges value otherExchanged)
    (hasIdentity : value.isIdentical value = true) :
    Value.matchesItem store.same exchanged otherExchanged = some true := by
  cases isWord : store.word? value with
  | none =>
      have unwrap_eq : store.unwrap value = value := by simp only [unwrap, isWord]
      rw [Exchanges, unwrap_eq, or_self] at exchanges otherExchanges
      rw [exchanges, otherExchanges, Value.matchesItem, hasIdentity, if_pos rfl]
  | some word =>
      rcases compatible.holds.integer?_unwrap isWord with ⟨number, isInteger⟩
      have equal : store.same exchanged otherExchanged = some true := by
        rw [(compatible.exchange exchanges otherExchanges).same_unwrap,
          exchanges.unwrap_eq compatible.holds, otherExchanges.unwrap_eq compatible.holds]
        change store.sameTo (999 + 1) _ _ = _
        rw [sameTo_integer isInteger (word?_of_integer? isInteger),
          Value.sameQuantity_of_integers isInteger isInteger, beq_self_eq_true]
      rw [Value.matchesItem]
      split
      · rfl
      · exact equal

/-- Whether two items match does not change when words are exchanged for their contents. -/
theorem Compatible.matchesItem_exchanged (compatible : store.Compatible value other)
    (coherent : value.isIdentical other = true → value = other)
    (exchanges : store.Exchanges value exchanged)
    (otherExchanges : store.Exchanges other otherExchanged) :
    (Value.matchesItem store.same exchanged otherExchanged == some true) =
      (Value.matchesItem store.same value other == some true) := by
  by_cases identical : value.isIdentical other = true
  · obtain rfl := coherent identical
    rw [compatible.matchesItem_self exchanges otherExchanges identical, Value.matchesItem,
      if_pos identical]
  · have notIdentical : ¬exchanged.isIdentical otherExchanged = true := by
      intro identicalExchanged
      rcases Value.identity?_of_isIdentical identicalExchanged with ⟨hasIdentity, otherHas⟩
      rw [exchanges.eq_of_identity? compatible.holds hasIdentity,
        otherExchanges.eq_of_identity? compatible.otherHolds otherHas] at identicalExchanged
      exact identical identicalExchanged
    rw [Value.matchesItem, if_neg notIdentical, Value.matchesItem, if_neg identical,
      (compatible.exchange exchanges otherExchanges).same_unwrap,
      exchanges.unwrap_eq compatible.holds, otherExchanges.unwrap_eq compatible.otherHolds,
      compatible.same_unwrap]

/-- A value can be counted when it can be counted after an exchange. -/
theorem WrapsInteger.checkFixed_exchanged (holds : store.WrapsInteger value)
    (exchanges : store.Exchanges value exchanged) :
    store.checkFixed exchanged = store.checkFixed value := by
  rcases exchanges with rfl | rfl
  · rfl
  · cases isWord : store.word? value with
    | none => simp only [unwrap, isWord]
    | some word =>
        rcases holds word isWord with ⟨number, isInteger⟩
        have contentFixed (depth : Nat) : store.checkFixedTo (depth + 1) word.content = .ok () := by
          cases content_eq : word.content with
          | truth | whole => rfl
          | _ =>
              rw [content_eq] at isInteger
              cases isInteger
        have wordFixed : store.checkFixedTo (998 + 2) value = .ok () := by
          unfold checkFixedTo
          rw [isWord]
          exact contentFixed 998
        rw [unwrap, isWord]
        exact (contentFixed 999).trans wordFixed.symm

end Exchanged

/-- Some words of a list are exchanged for their contents. -/
inductive ExchangesAll (store : Store) : List Value → List Value → Prop where
  | nil : ExchangesAll store [] []
  | cons {value other : Value} {values others : List Value}
      (exchanges : store.Exchanges value other) (rest : ExchangesAll store values others) :
      ExchangesAll store (value :: values) (other :: others)

namespace ExchangesAll

variable {values others kept keptOthers : List Value} {item other : Value}

theorem append (exchanges : store.ExchangesAll values others)
    (ends : store.ExchangesAll kept keptOthers) :
    store.ExchangesAll (values ++ kept) (others ++ keptOthers) := by
  induction exchanges with
  | nil => exact ends
  | cons exchanged _ ih => exact .cons exchanged ih

theorem length_eq (exchanges : store.ExchangesAll values others) :
    others.length = values.length := by
  induction exchanges with
  | nil => rfl
  | cons _ _ ih => rw [List.length_cons, List.length_cons, ih]

section Searching

variable {all : List Value}
  (compatible : ∀ value ∈ all, ∀ other ∈ all, store.Compatible value other)
  (coherent : Coherent all)

include compatible coherent

/-- The same items are found after an exchange. -/
theorem hasItem_eq (exchanges : store.ExchangesAll values others) (within : values ⊆ all)
    (exchanged : store.Exchanges item other) (member : item ∈ all) :
    store.hasItem others other = store.hasItem values item := by
  induction exchanges with
  | nil => rfl
  | @cons value _ values _ valueExchanges _ ih =>
      rw [List.cons_subset] at within
      have matchesSame := (compatible value within.1 item member).matchesItem_exchanged
        (coherent value within.1 item member) valueExchanges exchanged
      have restSame := ih within.2
      simp only [hasItem, List.any_cons] at restSame ⊢
      rw [matchesSame, restSame]

/-- The values that are kept after an exchange are those that were kept before, exchanged. -/
theorem distinctAfter_cases (keptExchanges : store.ExchangesAll kept keptOthers)
    (keptWithin : kept ⊆ all) (exchanges : store.ExchangesAll values others)
    (within : values ⊆ all) :
    (∃ fault, store.distinctAfter kept values = .error fault ∧
      store.distinctAfter keptOthers others = .error fault) ∨
    ∃ result resultOthers, store.distinctAfter kept values = .ok result ∧
      store.distinctAfter keptOthers others = .ok resultOthers ∧
      store.ExchangesAll result resultOthers ∧ result ⊆ all := by
  induction exchanges generalizing kept keptOthers with
  | nil => exact .inr ⟨kept, keptOthers, rfl, rfl, keptExchanges, keptWithin⟩
  | @cons value valueExchanged values others valueExchanges _ ih =>
      rw [List.cons_subset] at within
      have found := hasItem_eq compatible coherent keptExchanges keptWithin valueExchanges within.1
      have isFixed :=
        (compatible value within.1 value within.1).holds.checkFixed_exchanged valueExchanges
      rw [distinctAfter, distinctAfter, isFixed, found]
      cases store.checkFixed value with
      | error fault => exact .inl ⟨fault, rfl, rfl⟩
      | ok =>
          cases store.hasItem kept value with
          | true => exact ih keptExchanges keptWithin within.2
          | false =>
              refine ih (keptExchanges.append (.cons valueExchanges .nil)) ?_ within.2
              rw [if_neg Bool.false_ne_true, List.append_subset, List.cons_subset]
              exact ⟨keptWithin, within.1, List.nil_subset all⟩

theorem distinct_eq (exchanges : store.ExchangesAll values others) (within : values ⊆ all) :
    store.distinct others = store.distinct values := by
  rw [distinct, distinct]
  rcases distinctAfter_cases compatible coherent .nil (List.nil_subset all) exchanges within with
    ⟨fault, refused, otherRefused⟩ | ⟨result, resultOthers, kept, otherKept, resultExchanges, _⟩
  · rw [refused, otherRefused]
  · rw [kept, otherKept, Except.map, Except.map, resultExchanges.length_eq]

theorem contains_eq (exchanges : store.ExchangesAll values others) (within : values ⊆ all)
    (exchanged : store.Exchanges item other) (member : item ∈ all) :
    store.contains other others = store.contains item values := by
  rw [contains, contains]
  rcases distinctAfter_cases compatible coherent .nil (List.nil_subset all) exchanges within with
    ⟨fault, refused, otherRefused⟩ |
    ⟨result, resultOthers, kept, otherKept, resultExchanges, resultWithin⟩
  · rw [refused, otherRefused]
    rfl
  · rw [kept, otherKept]
    have found := hasItem_eq compatible coherent resultExchanges resultWithin exchanged member
    have isFixed := (compatible item member item member).holds.checkFixed_exchanged exchanged
    simp only [Bind.bind, Except.bind, isFixed, found]

end Searching

end ExchangesAll

end Store

end PoolFees
