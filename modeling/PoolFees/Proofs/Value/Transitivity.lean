import PoolFees.Proofs.Value.Consistency
import PoolFees.Proofs.Value.Interchange

/-!
# Transitivity of equality

Equality of values is transitive as long as no word clashes with a number of a kind with fractions.
The values are followed through all that lies within them, and the argument goes by the depth to
which they are followed. What has a number in it only equals what has the same number in it, and
everything else only equals values of its own kind, whose parts are compared at a smaller depth.

A comparison that goes on forever has no outcome. So two values that equal a third one are equal, or
comparing them goes on forever.
-/

namespace PoolFees

namespace Store

/-- The number of an integer or of a word that holds one. -/
def number? (store : Store) (value : Value) : Option Int := (store.unwrap value).integer?

section Numbers

variable {store : Store} {left right : Value} {number other : Int} {depth : Nat}

theorem number?_ofIntegral (number : Integral) :
    store.number? (.ofIntegral number) = some number.value := by
  cases number <;> rfl

/-- Integers are compared as integers at all depths at which they can be compared. -/
theorem sameTo_integers (isInteger : left.integer? = some number)
    (otherIsInteger : right.integer? = some other) (depth : Nat) :
    store.sameTo depth left right = none ∨
      store.sameTo depth left right = some (left.sameQuantity right) := by
  cases depth with
  | zero => exact .inl rfl
  | succ depth =>
      exact .inr (sameTo_integer isInteger (word?_of_integer? otherIsInteger) depth)

theorem sameOther_quantity {same : Value → Value → Option Bool} {quantity : Quantity}
    (found : left.quantity? = some quantity) :
    store.sameOther same left right = some (left.sameQuantity right) := by
  cases left with
  | truth | whole | real | decimal => cases right <;> rfl
  | _ => cases found

/-- What has a number in it equals what has the same number in it, and nothing else. -/
theorem sameTo_quantity {quantity : Quantity} (compatible : store.Compatible left right)
    (found : (store.unwrap left).quantity? = some quantity) (depth : Nat) :
    store.sameTo depth left right = none ∨
      store.sameTo depth left right =
        some ((store.unwrap left).sameQuantity (store.unwrap right)) := by
  cases depth with
  | zero => exact .inl rfl
  | succ depth =>
      cases isWord : store.word? left with
      | some word =>
          rcases compatible.holds word isWord with ⟨number, isInteger⟩
          cases otherIsWord : store.word? right with
          | some otherWord =>
              rcases compatible.otherHolds otherWord otherIsWord with ⟨other, otherIsInteger⟩
              simp only [sameTo, unwrap, isWord, otherIsWord]
              exact sameTo_integers isInteger otherIsInteger depth
          | none =>
              simp only [sameTo, unwrap, isWord, otherIsWord]
              split
              · rename_i otherIsInteger
                rcases Option.isSome_iff_exists.1 otherIsInteger with ⟨other, otherIsInteger⟩
                exact sameTo_integers isInteger otherIsInteger depth
              · rename_i notInteger
                rw [sameQuantity_of_apart isWord compatible.apart notInteger]
                exact .inr rfl
      | none =>
          cases otherIsWord : store.word? right with
          | some otherWord =>
              rcases compatible.otherHolds otherWord otherIsWord with ⟨other, otherIsInteger⟩
              simp only [sameTo, unwrap, isWord, otherIsWord]
              rw [Value.sameQuantity_comm]
              split
              · rename_i isInteger
                rcases Option.isSome_iff_exists.1 isInteger with ⟨number, isInteger⟩
                exact sameTo_integers otherIsInteger isInteger depth
              · rename_i notInteger
                rw [sameQuantity_of_apart otherIsWord compatible.otherApart notInteger]
                exact .inr rfl
          | none =>
              rw [unwrap, isWord] at found
              simp only [sameTo, unwrap, isWord, otherIsWord]
              exact .inr (sameOther_quantity found)

theorem sameQuantity_of_same {quantity : Quantity} (compatible : store.Compatible left right)
    (found : (store.unwrap left).quantity? = some quantity)
    (equal : store.sameTo depth left right = some true) :
    (store.unwrap left).sameQuantity (store.unwrap right) = true := by
  rcases sameTo_quantity compatible found depth with endless | decided
  · rw [endless] at equal
    cases equal
  · rw [decided] at equal
    exact Option.some_inj.1 equal

theorem not_different_of_sameQuantity (compatible : store.Compatible left right)
    (same : (store.unwrap left).sameQuantity (store.unwrap right) = true) (depth : Nat) :
    store.sameTo depth left right ≠ some false := by
  rcases Value.sameQuantity_eq_true.1 same with ⟨quantity, _, found, _⟩
  rcases sameTo_quantity compatible found depth with endless | decided
  · rw [endless]
    exact nofun
  · rw [decided, same]
    decide

theorem word?_of_notNumber (holds : store.WrapsInteger left)
    (notNumber : (store.unwrap left).quantity? = none) : store.word? left = none := by
  cases isWord : store.word? left with
  | none => rfl
  | some word =>
      rcases holds.integer?_unwrap isWord with ⟨number, isInteger⟩
      rw [Value.quantity?_of_integer? isInteger] at notNumber
      cases notNumber

/-- What is not an integer equals no word. -/
theorem word?_of_same (notWord : store.word? left = none) (notInteger : left.integer? = none)
    (equal : store.sameTo (depth + 1) left right = some true) : store.word? right = none := by
  cases isWord : store.word? right with
  | none => rfl
  | some word =>
      simp only [sameTo, notWord, isWord, notInteger, Option.isSome_none, Bool.false_eq_true,
        if_false] at equal
      cases equal

/-- What is not a number equals no integer. -/
theorem integer?_of_same (notWord : store.word? left = none) (notNumber : left.quantity? = none)
    (equal : store.sameTo (depth + 1) left right = some true) : right.integer? = none := by
  cases isInteger : right.integer? with
  | none => rfl
  | some number =>
      rw [sameTo_integer_right isInteger notWord, Option.some_inj,
        Value.sameQuantity_eq_true] at equal
      rcases equal with ⟨_, quantity, _, found, _⟩
      rw [notNumber] at found
      cases found

end Numbers

section Kinds

variable {store : Store} {same : Value → Value → Option Bool} {left right : Value}

/-- The entries of a record or a form. -/
def contents? (store : Store) : Value → Option Entries
  | .form handle => store.entries? handle
  | value => store.record? value

theorem contents?_of_record? {entries : Entries} (found : store.record? left = some entries) :
    store.contents? left = some entries := by
  cases left with
  | form => cases found
  | _ => exact found

theorem sameOther_record {entries : Entries} (found : store.record? left = some entries) :
    store.sameOther same left right =
      match store.record? right with
      | some others => entries.same same others
      | none => some false := by
  cases left with
  | record | sharedRecord =>
      cases right with
      | sharedRecord other =>
          simp only [sameOther, found]
          cases store.record? (.sharedRecord other) <;> rfl
      | _ =>
          simp only [sameOther, found]
          rfl
  | _ => cases found

theorem fixedPointParts?_of_sameOther {magnitude places : Value}
    (found : left.fixedPointParts? = some (magnitude, places))
    (equal : store.sameOther same left right = some true) :
    ∃ otherMagnitude otherPlaces,
      right.fixedPointParts? = some (otherMagnitude, otherPlaces) := by
  cases left with
  | fixedPoint | looseFixedPoint =>
      cases right with
      | fixedPoint | looseFixedPoint => exact ⟨_, _, rfl⟩
      | _ => cases equal
  | _ => cases found

theorem sameOther_parts {magnitude places otherMagnitude otherPlaces : Value}
    (found : left.fixedPointParts? = some (magnitude, places))
    (otherFound : right.fixedPointParts? = some (otherMagnitude, otherPlaces)) :
    (∃ number origin other otherOrigin,
        left = .fixedPoint number origin ∧ right = .fixedPoint other otherOrigin) ∨
      store.sameOther same left right =
        Value.sameItems same [magnitude, places] [otherMagnitude, otherPlaces] := by
  cases left with
  | fixedPoint number origin =>
      cases right with
      | fixedPoint other otherOrigin => exact .inl ⟨number, origin, other, otherOrigin, rfl, rfl⟩
      | looseFixedPoint =>
          cases found
          cases otherFound
          exact .inr rfl
      | _ => cases otherFound
  | looseFixedPoint =>
      cases right with
      | fixedPoint | looseFixedPoint =>
          cases found
          cases otherFound
          exact .inr rfl
      | _ => cases otherFound
  | _ => cases found

theorem sameOther_list {items : List Value} {origin : Origin}
    (equal : store.sameOther same (.list items origin) right = some true) :
    ∃ others other, right = .list others other ∧ Value.sameItems same items others = some true := by
  cases right with
  | list others other => exact ⟨others, other, rfl, equal⟩
  | _ => cases equal

theorem sameOther_form {handle : Nat}
    (equal : store.sameOther same (.form handle) right = some true) :
    ∃ other form otherForm, right = .form other ∧ store.form? handle = some form ∧
      store.form? other = some otherForm ∧ store.sameForm same form otherForm = some true := by
  cases right with
  | form other =>
      simp only [sameOther] at equal
      split at equal
      · rename_i form otherForm found otherFound
        exact ⟨other, form, otherForm, rfl, found, otherFound, equal⟩
      · cases equal
  | _ => cases equal

end Kinds

/-- A value that lies directly within another one. -/
inductive IsPart (store : Store) : Value → Value → Prop where
  | item {item : Value} {items : List Value} {origin : Origin} (member : item ∈ items) :
      IsPart store item (.list items origin)
  | entry {key : String} {part value : Value} {entries : Entries}
      (found : store.contents? value = some entries) (member : (key, part) ∈ entries) :
      IsPart store part value
  | magnitude {value magnitude places : Value}
      (found : value.fixedPointParts? = some (magnitude, places)) : IsPart store magnitude value
  | places {value magnitude places : Value}
      (found : value.fixedPointParts? = some (magnitude, places)) : IsPart store places value
  | hidden {handle : Nat} {form : Form} (found : store.form? handle = some form) :
      IsPart store form.hidden (.form handle)
  | additional {handle : Nat} {form : Form} (found : store.form? handle = some form) :
      IsPart store form.additional (.form handle)

/-- Values that can be compared with each other: with each value there is all that lies within it,
and none of them is a word that clashes with one of them. -/
structure Comparable (store : Store) (among : Value → Prop) : Prop where
  parts : ∀ part value, store.IsPart part value → among value → among part
  coherent : ∀ left right, among left → among right → left.isIdentical right = true → left = right
  distinct : ∀ value entries, among value → store.contents? value = some entries → entries.Distinct
  numbers : ∀ value magnitude places, among value →
    value.fixedPointParts? = some (magnitude, places) →
      store.number? magnitude ≠ none ∧ store.number? places ≠ none
  compatible : ∀ left right, among left → among right → store.Compatible left right

namespace Comparable

variable {store : Store} {among : Value → Prop} {left right : Value} {depth : Nat}

theorem number?_eq_of_matches (comparable : store.Comparable among) (leftAmong : among left)
    (rightAmong : among right) (isNumber : store.number? left ≠ none)
    (otherIsNumber : store.number? right ≠ none)
    (matching : Value.matchesItem (store.sameTo depth) left right = some true) :
    store.number? left = store.number? right := by
  rw [Value.matchesItem] at matching
  split at matching
  · rename_i identical
    rw [comparable.coherent left right leftAmong rightAmong identical]
  · rcases Option.ne_none_iff_exists'.1 isNumber with ⟨number, isInteger⟩
    rcases Option.ne_none_iff_exists'.1 otherIsNumber with ⟨other, otherIsInteger⟩
    have same := sameQuantity_of_same (comparable.compatible left right leftAmong rightAmong)
      (Value.quantity?_of_integer? isInteger) matching
    rw [Value.sameQuantity_of_integers isInteger otherIsInteger, beq_iff_eq] at same
    rw [isInteger, otherIsInteger, same]

theorem matches_of_number? (comparable : store.Comparable among) (leftAmong : among left)
    (rightAmong : among right) (isNumber : store.number? left ≠ none)
    (number_eq : store.number? left = store.number? right) :
    Value.matchesItem (store.sameTo depth) left right ≠ some false := by
  rw [Value.matchesItem]
  split
  · decide
  · rcases Option.ne_none_iff_exists'.1 isNumber with ⟨number, isInteger⟩
    refine not_different_of_sameQuantity
      (comparable.compatible left right leftAmong rightAmong) ?_ depth
    rw [Value.sameQuantity_of_integers isInteger (number_eq.symm.trans isInteger),
      beq_self_eq_true]

section FixedPoints

variable {magnitude places otherMagnitude otherPlaces : Value}
  (comparable : store.Comparable among) (leftAmong : among left) (rightAmong : among right)
  (found : left.fixedPointParts? = some (magnitude, places))
  (otherFound : right.fixedPointParts? = some (otherMagnitude, otherPlaces))

include comparable leftAmong rightAmong found otherFound

/-- Equal fixed-point numbers have the same numbers in them. -/
theorem numbers_of_sameOther
    (equal : store.sameOther (store.sameTo depth) left right = some true) :
    store.number? magnitude = store.number? otherMagnitude ∧
      store.number? places = store.number? otherPlaces := by
  rcases sameOther_parts found otherFound with
    ⟨number, origin, other, otherOrigin, rfl, rfl⟩ | sameOther_eq
  · cases found
    cases otherFound
    have same : number.same other = true := Option.some_inj.1 equal
    rw [FixedPoint.same, Bool.and_eq_true, beq_iff_eq, beq_iff_eq] at same
    rw [number?_ofIntegral, number?_ofIntegral, number?_ofIntegral, number?_ofIntegral, same.1,
      same.2]
    exact ⟨rfl, rfl⟩
  · rw [sameOther_eq] at equal
    rcases comparable.numbers left magnitude places leftAmong found with
      ⟨magnitudeIsNumber, placesIsNumber⟩
    rcases comparable.numbers right otherMagnitude otherPlaces rightAmong otherFound with
      ⟨otherMagnitudeIsNumber, otherPlacesIsNumber⟩
    have among {part value : Value} (isPart : store.IsPart part value) (valueAmong : among value) :
        among part := comparable.parts part value isPart valueAmong
    cases Value.matches_of_sameItems equal with
    | cons magnitudeMatches rest =>
        cases rest with
        | cons placesMatch _ =>
            constructor
            · exact comparable.number?_eq_of_matches (among (.magnitude found) leftAmong)
                (among (.magnitude otherFound) rightAmong) magnitudeIsNumber
                otherMagnitudeIsNumber magnitudeMatches
            · exact comparable.number?_eq_of_matches (among (.places found) leftAmong)
                (among (.places otherFound) rightAmong) placesIsNumber otherPlacesIsNumber
                placesMatch

/-- Fixed-point numbers with the same numbers in them are not different. -/
theorem sameOther_ne_false_of_numbers
    (magnitude_eq : store.number? magnitude = store.number? otherMagnitude)
    (places_eq : store.number? places = store.number? otherPlaces) :
    store.sameOther (store.sameTo depth) left right ≠ some false := by
  rcases sameOther_parts found otherFound with
    ⟨number, origin, other, otherOrigin, rfl, rfl⟩ | sameOther_eq
  · cases found
    cases otherFound
    rw [number?_ofIntegral, number?_ofIntegral, Option.some_inj] at magnitude_eq places_eq
    have same : number.same other = true := by
      rw [FixedPoint.same, magnitude_eq, places_eq, beq_self_eq_true, beq_self_eq_true]
      rfl
    simp only [sameOther, same]
    decide
  · rw [sameOther_eq]
    rcases comparable.numbers left magnitude places leftAmong found with
      ⟨magnitudeIsNumber, placesIsNumber⟩
    have among {part value : Value} (isPart : store.IsPart part value) (valueAmong : among value) :
        among part := comparable.parts part value isPart valueAmong
    refine Value.sameItems_of_matches (.cons ?_ (.cons ?_ .nil))
    · exact comparable.matches_of_number? (among (.magnitude found) leftAmong)
        (among (.magnitude otherFound) rightAmong) magnitudeIsNumber magnitude_eq
    · exact comparable.matches_of_number? (among (.places found) leftAmong)
        (among (.places otherFound) rightAmong) placesIsNumber places_eq

end FixedPoints

section Steps

variable {middle : Value} (comparable : store.Comparable among)

include comparable

theorem contents_among {entries : Entries} (leftAmong : among left)
    (found : store.contents? left = some entries) : entries.Among among :=
  fun _ part member => comparable.parts part left (.entry found member) leftAmong

/-- Forms that equal one form are not different. -/
theorem consistent_form {handle other last : Nat} {form otherForm lastForm : Form}
    (consistent : Consistent among (store.sameTo depth)) (found : store.form? handle = some form)
    (otherFound : store.form? other = some otherForm) (lastFound : store.form? last = some lastForm)
    (formAmong : among (.form handle)) (otherAmong : among (.form other))
    (lastAmong : among (.form last))
    (first : store.sameForm (store.sameTo depth) form otherForm = some true)
    (second : store.sameForm (store.sameTo depth) otherForm lastForm = some true) :
    store.sameForm (store.sameTo depth) form lastForm ≠ some false := by
  have consistentItems := consistent.matchesItem comparable.coherent
  have among {part value : Value} (isPart : store.IsPart part value) (valueAmong : among value) :
      among part := comparable.parts part value isPart valueAmong
  have contents {handle : Nat} {form : Form} {entries : Entries}
      (found : store.form? handle = some form)
      (entriesFound : store.records[form.entries]? = some entries) :
      store.contents? (.form handle) = some entries := by
    rw [contents?, entries?, found]
    exact entriesFound
  rcases sameForm_cases first with
    ⟨firstHidden, firstAdditional, entries, others, entriesFound, othersFound, firstSame⟩
  rcases sameForm_cases second with
    ⟨secondHidden, secondAdditional, _, lasts, othersFound', lastsFound, secondSame⟩
  obtain rfl := Option.some_inj.1 (othersFound.symm.trans othersFound')
  have entriesContents := contents found entriesFound
  have othersContents := contents otherFound othersFound
  have lastsContents := contents lastFound lastsFound
  have entriesDistinct := comparable.distinct _ _ formAmong entriesContents
  have firstAgrees := firstSame.elim (Entries.agree_of_same entriesDistinct)
    Entries.agree_of_sameFields
  have secondAgrees := secondSame.elim
    (Entries.agree_of_same (comparable.distinct _ _ otherAmong othersContents))
    Entries.agree_of_sameFields
  have agrees := consistentItems.agreeOnFields (comparable.contents_among formAmong entriesContents)
    (comparable.contents_among otherAmong othersContents)
    (comparable.contents_among lastAmong lastsContents) firstAgrees secondAgrees
  refine sameForm_ne_false ?_ ?_ entriesFound lastsFound ?_ (Entries.sameFields_of_agree agrees)
  · exact consistent _ _ _ (among (.hidden found) formAmong) (among (.hidden otherFound) otherAmong)
      (among (.hidden lastFound) lastAmong) firstHidden secondHidden
  · exact consistent _ _ _ (among (.additional found) formAmong)
      (among (.additional otherFound) otherAmong) (among (.additional lastFound) lastAmong)
      firstAdditional secondAdditional
  · exact agrees.same_ne_false entriesDistinct (comparable.distinct _ _ lastAmong lastsContents)

theorem consistent_record {entries : Entries} (consistent : Consistent among (store.sameTo depth))
    (leftAmong : among left) (middleAmong : among middle) (rightAmong : among right)
    (found : store.record? left = some entries)
    (first : store.sameOther (store.sameTo depth) left middle = some true)
    (second : store.sameOther (store.sameTo depth) middle right = some true) :
    store.sameOther (store.sameTo depth) left right ≠ some false := by
  rw [sameOther_record found] at first ⊢
  cases otherFound : store.record? middle with
  | none =>
      rw [otherFound] at first
      cases first
  | some others =>
      rw [otherFound] at first
      rw [sameOther_record otherFound] at second
      cases lastFound : store.record? right with
      | none =>
          rw [lastFound] at second
          cases second
      | some lasts =>
          rw [lastFound] at second
          exact (consistent.matchesItem comparable.coherent).sameEntries
            (comparable.contents_among leftAmong (contents?_of_record? found))
            (comparable.contents_among middleAmong (contents?_of_record? otherFound))
            (comparable.contents_among rightAmong (contents?_of_record? lastFound)) first second

theorem consistent_fixedPoint {magnitude places : Value} (leftAmong : among left)
    (middleAmong : among middle) (rightAmong : among right)
    (found : left.fixedPointParts? = some (magnitude, places))
    (first : store.sameOther (store.sameTo depth) left middle = some true)
    (second : store.sameOther (store.sameTo depth) middle right = some true) :
    store.sameOther (store.sameTo depth) left right ≠ some false := by
  rcases fixedPointParts?_of_sameOther found first with ⟨_, _, otherFound⟩
  rcases fixedPointParts?_of_sameOther otherFound second with ⟨_, _, lastFound⟩
  rcases comparable.numbers_of_sameOther leftAmong middleAmong found otherFound first with
    ⟨firstMagnitude, firstPlaces⟩
  rcases comparable.numbers_of_sameOther middleAmong rightAmong otherFound lastFound second with
    ⟨secondMagnitude, secondPlaces⟩
  exact comparable.sameOther_ne_false_of_numbers leftAmong rightAmong found lastFound
    (firstMagnitude.trans secondMagnitude) (firstPlaces.trans secondPlaces)

/-- Values that are not words and equal one value are not different. -/
theorem consistent_other (consistent : Consistent among (store.sameTo depth))
    (leftAmong : among left) (middleAmong : among middle) (rightAmong : among right)
    (notWord : store.word? left = none)
    (first : store.sameOther (store.sameTo depth) left middle = some true)
    (second : store.sameOther (store.sameTo depth) middle right = some true) :
    store.sameOther (store.sameTo depth) left right ≠ some false := by
  have consistentItems := consistent.matchesItem comparable.coherent
  cases left with
  | absent =>
      cases middle with
      | absent =>
          rw [second]
          decide
      | _ => cases first
  | text content =>
      cases middle with
      | text other =>
          obtain rfl : content = other := beq_iff_eq.1 (Option.some_inj.1 first)
          rw [second]
          decide
      | _ => cases first
  | bytes content =>
      cases middle with
      | bytes other =>
          obtain rfl : content = other := beq_iff_eq.1 (Option.some_inj.1 first)
          rw [second]
          decide
      | _ => cases first
  | schedule rates origin =>
      cases middle with
      | schedule other =>
          obtain rfl : rates = other := beq_iff_eq.1 (Option.some_inj.1 first)
          cases right with
          | schedule last =>
              obtain rfl : rates = last := beq_iff_eq.1 (Option.some_inj.1 second)
              simp only [sameOther, beq_self_eq_true]
              decide
          | _ => cases second
      | _ => cases first
  | calculator | capability =>
      obtain rfl := comparable.coherent _ _ leftAmong middleAmong (Option.some_inj.1 first)
      rw [second]
      decide
  | truth | whole | real | decimal =>
      rw [sameOther_quantity rfl, Option.some_inj] at first
      rcases Value.sameQuantity_eq_true.1 first with ⟨_, quantity, _, found, _⟩
      rw [sameOther_quantity found, Option.some_inj] at second
      rw [sameOther_quantity rfl, Value.sameQuantity_trans first second]
      decide
  | list items origin =>
      rcases sameOther_list first with ⟨others, other, rfl, firstSame⟩
      rcases sameOther_list second with ⟨lasts, last, rfl, secondSame⟩
      exact consistentItems.sameItems
        (fun item member => comparable.parts _ _ (.item member) leftAmong)
        (fun item member => comparable.parts _ _ (.item member) middleAmong)
        (fun item member => comparable.parts _ _ (.item member) rightAmong) firstSame secondSame
  | form handle =>
      rcases sameOther_form first with ⟨other, form, otherForm, rfl, found, otherFound, firstSame⟩
      rcases sameOther_form second with
        ⟨last, _, lastForm, rfl, otherFound', lastFound, secondSame⟩
      obtain rfl := Option.some_inj.1 (otherFound.symm.trans otherFound')
      simp only [sameOther, found, lastFound]
      exact comparable.consistent_form consistent found otherFound lastFound leftAmong middleAmong
        rightAmong firstSame secondSame
  | record =>
      exact comparable.consistent_record consistent leftAmong middleAmong rightAmong rfl first
        second
  | sharedRecord handle =>
      cases found : store.record? (.sharedRecord handle) with
      | some entries =>
          exact comparable.consistent_record consistent leftAmong middleAmong rightAmong found
            first second
      | none =>
          simp only [sameOther, found] at first
          cases first
  | fixedPoint | looseFixedPoint =>
      exact comparable.consistent_fixedPoint leftAmong middleAmong rightAmong rfl first second
  | word | looseWord => cases notWord
  | sharedWord => cases first

theorem consistent_sameTo (depth : Nat) : Consistent among (store.sameTo depth) := by
  induction depth with
  | zero => exact nofun
  | succ depth ih =>
      intro left middle right leftAmong middleAmong rightAmong first second
      have compatible := comparable.compatible left middle leftAmong middleAmong
      have otherCompatible := comparable.compatible middle right middleAmong rightAmong
      cases found : (store.unwrap left).quantity? with
      | none =>
          -- Then none of the three is a word, and they are compared by their kinds.
          have leftNotWord := word?_of_notNumber compatible.holds found
          rw [unwrap, leftNotWord] at found
          have middleNotWord := word?_of_same leftNotWord (Value.integer?_of_quantity? found) first
          have middleNotInteger := integer?_of_same leftNotWord found first
          have rightNotWord := word?_of_same middleNotWord middleNotInteger second
          simp only [sameTo, leftNotWord, middleNotWord, rightNotWord] at first second ⊢
          exact comparable.consistent_other ih leftAmong middleAmong rightAmong leftNotWord first
            second
      | some quantity =>
          have first_same := sameQuantity_of_same compatible found first
          rcases Value.sameQuantity_eq_true.1 first_same with ⟨_, other, _, otherFound, _⟩
          have second_same := sameQuantity_of_same otherCompatible otherFound second
          exact not_different_of_sameQuantity
            (comparable.compatible left right leftAmong rightAmong)
            (Value.sameQuantity_trans first_same second_same) (depth + 1)

end Steps

end Comparable

theorem equals_eq_ok {store : Store} {left right : Value} {outcome : Bool} :
    store.equals left right = .ok outcome ↔ store.same left right = some outcome := by
  rw [equals]
  cases store.same left right with
  | none => simp [refuse]
  | some => simp

theorem equals_congr {store : Store} {left right other otherRight : Value}
    (same_eq : store.same left right = store.same other otherRight) :
    store.equals left right = store.equals other otherRight := by
  rw [equals, equals, same_eq]

/-- A word that holds an integer is compared as this integer, except with what it clashes with: that
equals the integer and not the word. As long as nothing clashes, equality is transitive, and words
can be exchanged for their integers in a list without a change to what is counted and found in it.
-/
theorem words_among_integers (store : Store) :
    (∀ word parts number other, store.word? word = some parts →
      parts.content.integer? = some number →
        (store.Clashes word other →
          store.equals word other = .ok false ∧ store.equals other word = .ok false ∧
            store.equals parts.content other = .ok true ∧
            store.equals other parts.content = .ok true) ∧
        (¬store.Clashes word other →
          store.equals word other = store.equals parts.content other ∧
            store.equals other word = store.equals other parts.content)) ∧
      (∀ among, store.Comparable among → ∀ left middle right,
        among left → among middle → among right →
          store.equals left middle = .ok true → store.equals middle right = .ok true →
            store.equals left right = .ok true ∨
              store.equals left right = refuse (.endless .comparison)) ∧
      (∀ values others,
        (∀ value ∈ values, ∀ other ∈ values, store.Compatible value other) → Coherent values →
          store.ExchangesAll values others → store.distinct others = store.distinct values) ∧
      ∀ item other values others,
        (∀ value ∈ item :: values, ∀ other ∈ item :: values, store.Compatible value other) →
          Coherent (item :: values) → store.Exchanges item other →
            store.ExchangesAll values others →
              store.contains other others = store.contains item values := by
  refine ⟨?_, ?_, ?_, ?_⟩
  · intro word parts number other isWord isInteger
    constructor
    · intro clashes
      rcases sameTo_of_clashes clashes isWord isInteger 999 with
        ⟨⟨wordDiffers, otherDiffers⟩, contentSame, otherSame⟩
      exact ⟨equals_eq_ok.2 wordDiffers, equals_eq_ok.2 otherDiffers, equals_eq_ok.2 contentSame,
        equals_eq_ok.2 otherSame⟩
    · intro apart
      exact ⟨equals_congr (sameTo_word isWord isInteger apart 998),
        equals_congr (sameTo_word_right isWord isInteger apart 998)⟩
  · intro among comparable left middle right leftAmong middleAmong rightAmong first second
    have notDifferent := comparable.consistent_sameTo maxNesting left middle right leftAmong
      middleAmong rightAmong (equals_eq_ok.1 first) (equals_eq_ok.1 second)
    rw [equals, same]
    cases compared : store.sameTo maxNesting left right with
    | none => exact .inr rfl
    | some outcome =>
        cases outcome with
        | true => exact .inl rfl
        | false => exact (notDifferent compared).elim
  · intro values others compatible coherent exchanges
    exact exchanges.distinct_eq compatible coherent (List.Subset.refl values)
  · intro item other values others compatible coherent exchanged exchanges
    exact exchanges.contains_eq compatible coherent (List.subset_cons_self item values) exchanged
      List.mem_cons_self

/-- Words of two widths with the number one, alone and in lists. -/
theorem words_among_integers_of_ones :
    let narrow : Value := .word ⟨⟨8, by decide⟩, 1, by decide⟩ []
    let wide : Value := .word ⟨⟨64, by decide⟩, 1, by decide⟩ []
    let one : Value := .real (.finite false (Nat.pow 2 Binary64.scale)) []
    (empty.equals narrow one = .ok false ∧ empty.equals one narrow = .ok false ∧
        empty.equals (.whole 1) one = .ok true ∧ empty.equals one (.whole 1) = .ok true) ∧
      (empty.equals narrow (.truth true) = empty.equals (.whole 1) (.truth true) ∧
        empty.equals (.truth true) narrow = empty.equals (.truth true) (.whole 1)) ∧
      (empty.equals (.list [narrow] []) (.list [wide] []) = .ok true ∨
        empty.equals (.list [narrow] []) (.list [wide] []) = refuse (.endless .comparison)) ∧
      empty.distinct [.whole 1, .whole 1, .whole 2] = empty.distinct [narrow, wide, .whole 2] ∧
      empty.contains narrow [.whole 1, .whole 2] = empty.contains narrow [wide, .whole 2] := by
  intro narrow wide one
  rcases words_among_integers empty with ⟨words, transitive, distinct, contains⟩
  have narrowHolds : empty.WrapsInteger narrow := by
    rintro _ ⟨⟩
    exact ⟨1, rfl⟩
  have wideHolds : empty.WrapsInteger wide := by
    rintro _ ⟨⟩
    exact ⟨1, rfl⟩
  let all : List Value :=
    [.list [narrow] [], .list [.whole 1] [], .list [wide] [], narrow, wide, .whole 1, .whole 2]
  have ordinary : ∀ value ∈ all, value.identity? = none ∧ value.isFractional = false ∧
      empty.WrapsInteger value := by
    simp only [all, List.forall_mem_cons]
    exact ⟨⟨rfl, rfl, nofun⟩, ⟨rfl, rfl, nofun⟩, ⟨rfl, rfl, nofun⟩, ⟨rfl, rfl, narrowHolds⟩,
      ⟨rfl, rfl, wideHolds⟩, ⟨rfl, rfl, nofun⟩, ⟨rfl, rfl, nofun⟩, nofun⟩
  have simple : ∀ value ∈ all, empty.contents? value = none ∧ value.fixedPointParts? = none := by
    simp only [all, List.forall_mem_cons]
    exact ⟨⟨rfl, rfl⟩, ⟨rfl, rfl⟩, ⟨rfl, rfl⟩, ⟨rfl, rfl⟩, ⟨rfl, rfl⟩, ⟨rfl, rfl⟩, ⟨rfl, rfl⟩,
      nofun⟩
  have comparable : empty.Comparable (· ∈ all) := by
    refine ⟨?_, ?_, ?_, ?_, ?_⟩
    · intro part value isPart member
      cases isPart with
      | item isItem =>
          simp only [all, narrow, wide, List.mem_cons, Value.list.injEq, reduceCtorEq,
            List.not_mem_nil, or_false] at member
          rcases member with ⟨rfl, rfl⟩ | ⟨rfl, rfl⟩ | ⟨rfl, rfl⟩ <;>
            (rw [List.mem_singleton] at isItem; rw [isItem]; simp [all, narrow, wide])
      | entry found =>
          rw [(simple value member).1] at found
          cases found
      | magnitude found | places found =>
          rw [(simple value member).2] at found
          cases found
      | hidden found | additional found => cases found
    · intro left right leftMember _ identical
      exact ((Value.identity?_of_isIdentical identical).1 (ordinary left leftMember).1).elim
    · intro value entries member found
      rw [(simple value member).1] at found
      cases found
    · intro value magnitude places member found
      rw [(simple value member).2] at found
      cases found
    · intro left right leftMember rightMember
      rcases ordinary left leftMember with ⟨_, notFractional, holds⟩
      rcases ordinary right rightMember with ⟨_, otherNotFractional, otherHolds⟩
      exact .of_notFractional holds otherHolds notFractional otherNotFractional
  have within : [narrow, wide, .whole 2] ⊆ all := by simp [all]
  have compatible : ∀ value ∈ [narrow, wide, .whole 2], ∀ other ∈ [narrow, wide, .whole 2],
      empty.Compatible value other := fun value member other otherMember =>
    comparable.compatible value other (within member) (within otherMember)
  have coherent : Coherent [narrow, wide, .whole 2] := fun left leftMember right rightMember =>
    comparable.coherent left right (within leftMember) (within rightMember)
  have exchanged : empty.ExchangesAll [wide, .whole 2] [.whole 1, .whole 2] :=
    .cons (.inr rfl) (.cons (.inl rfl) .nil)
  refine ⟨?_, ?_, ?_, ?_, ?_⟩
  · exact (words narrow _ 1 one rfl rfl).1 ⟨_, rfl, rfl, by decide +kernel⟩
  · exact (words narrow _ 1 (.truth true) rfl rfl).2 (by rintro ⟨_, _, ⟨⟩, _⟩)
  · exact transitive (· ∈ all) comparable (.list [narrow] []) (.list [.whole 1] [])
      (.list [wide] []) (by simp [all]) (by simp [all]) (by simp [all]) rfl rfl
  · exact distinct _ _ compatible coherent (.cons (.inr rfl) exchanged)
  · exact contains narrow narrow _ _ compatible coherent (.inl rfl) exchanged

/-- The number 1.0 equals the integer one, but no word that holds it, and it is counted beside such
a word. -/
theorem word_differs_from_fractional :
    let word : Value := .word ⟨⟨8, by decide⟩, 1, by decide⟩ []
    let one : Value := .real (.finite false (Nat.pow 2 Binary64.scale)) []
    (empty.equals word one = .ok false ∧ empty.equals (.whole 1) one = .ok true) ∧
      (empty.equals word (.whole 1) = .ok true ∧ empty.equals (.whole 1) one = .ok true ∧
        empty.equals word one = .ok false) ∧
      (empty.distinct [one, word] = .ok 2 ∧ empty.distinct [one, .whole 1] = .ok 1) ∧
      empty.contains one [word] = .ok false ∧ empty.contains one [.whole 1] = .ok true := by
  decide +kernel

end Store

end PoolFees
