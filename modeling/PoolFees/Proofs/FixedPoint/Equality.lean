import PoolFees.Proofs.FixedPoint.Parts
import PoolFees.Proofs.Value.Transitivity
import PoolFees.Proofs.Word.Combination

/-!
# Equal numbers and equal texts

Fixed-point numbers are equal when their magnitudes and their counts of places are, however the
magnitudes are kept. The text of a number with a bare count determines both. So two such numbers
are equal exactly when their texts are: digits with zeros behind the point are a different number.

A magnitude that is compared with itself is not looked at. The comparison still goes by numbers as
long as values with one identity are one value, as they are in every session.
-/

namespace PoolFees

theorem Value.sameItems_pair {same : Value → Value → Option Bool} {first second other last : Value}
    {firstSame lastSame : Bool} (firstMatches : matchesItem same first other = some firstSame)
    (lastMatches : matchesItem same second last = some lastSame) :
    sameItems same [first, second] [other, last] = some (firstSame && lastSame) := by
  simp only [sameItems, List.zip_cons_cons, List.zip_nil_left, List.allM, firstMatches, lastMatches]
  cases firstSame <;> cases lastSame <;> rfl

namespace Store

variable {store : Store} {value other : Value}

namespace Denotes

variable {number otherNumber : Int}

theorem unwrap_eq (denotes : store.Denotes value number) : store.unwrap value = .whole number := by
  rcases denotes with rfl | ⟨width, found⟩
  · rfl
  · rw [unwrap, found]

theorem unique (denotes : store.Denotes value number)
    (otherDenotes : store.Denotes value otherNumber) : number = otherNumber := by
  have same := otherDenotes.unwrap_eq
  rw [denotes.unwrap_eq] at same
  exact Value.whole.inj same

theorem wrapsInteger (denotes : store.Denotes value number) : store.WrapsInteger value := by
  intro word isWord
  rcases denotes with rfl | ⟨width, found⟩
  · cases isWord
  · rw [found] at isWord
    cases isWord
    exact ⟨number, rfl⟩

theorem isFractional_eq (denotes : store.Denotes value number) : value.isFractional = false := by
  rcases denotes with rfl | ⟨width, found⟩
  · rfl
  · cases value with
    | word | looseWord | sharedWord => rfl
    | _ => cases found

end Denotes

/-- Values that denote numbers are equal when the numbers are. -/
theorem sameTo_of_denotes {number otherNumber : Int} (denotes : store.Denotes value number)
    (otherDenotes : store.Denotes other otherNumber) (depth : Nat) :
    store.sameTo (depth + 2) value other = some (number == otherNumber) := by
  have compatible : store.Compatible value other :=
    .of_notFractional denotes.wrapsInteger otherDenotes.wrapsInteger denotes.isFractional_eq
      otherDenotes.isFractional_eq
  rw [compatible.sameTo_unwrap_left, compatible.unwrap_left.sameTo_unwrap_right,
    denotes.unwrap_eq, otherDenotes.unwrap_eq, sameTo_whole]

theorem matchesItem_of_denotes {number otherNumber : Int} (denotes : store.Denotes value number)
    (otherDenotes : store.Denotes other otherNumber)
    (coherent : value.isIdentical other = true → value = other) (depth : Nat) :
    Value.matchesItem (store.sameTo (depth + 2)) value other = some (number == otherNumber) := by
  rw [Value.matchesItem]
  split
  · rename_i identical
    obtain rfl := coherent identical
    rw [denotes.unique otherDenotes, beq_self_eq_true]
  · exact sameTo_of_denotes denotes otherDenotes depth

theorem word?_of_parts {parts : Value × Value} (found : value.fixedPointParts? = some parts) :
    store.word? value = none := by
  cases value with
  | fixedPoint | looseFixedPoint => rfl
  | _ => cases found

section Pairs

variable {pair places otherPair otherPlaces : Value} {number count otherNumber otherCount : Nat}

/-- Fixed-point numbers are compared by the numbers that their parts denote. -/
theorem sameTo_of_pairs (pairs : store.Pairs pair value places number count)
    (others : store.Pairs otherPair other otherPlaces otherNumber otherCount)
    (coherent : value.isIdentical other = true → value = other)
    (placesCoherent : places.isIdentical otherPlaces = true → places = otherPlaces) (depth : Nat) :
    store.sameTo (depth + 3) pair otherPair =
      some ((number : Int) == otherNumber && (count : Int) == otherCount) := by
  have notWord := @word?_of_parts store _ _ pairs.parts
  have otherNotWord := @word?_of_parts store _ _ others.parts
  rw [sameTo]
  simp only [notWord, otherNotWord]
  rcases sameOther_parts pairs.parts others.parts with
    ⟨fixed, origin, otherFixed, otherOrigin, rfl, rfl⟩ | items_eq
  · have parts := pairs.parts
    have otherParts := others.parts
    cases parts
    cases otherParts
    change some (fixed.same otherFixed) = _
    rw [FixedPoint.same, denotes_ofIntegral_iff.1 pairs.denotes,
      denotes_ofIntegral_iff.1 pairs.placesDenote, denotes_ofIntegral_iff.1 others.denotes,
      denotes_ofIntegral_iff.1 others.placesDenote]
  · have magnitudes := matchesItem_of_denotes pairs.denotes others.denotes coherent depth
    have counts :=
      matchesItem_of_denotes pairs.placesDenote others.placesDenote placesCoherent depth
    rw [items_eq]
    exact Value.sameItems_pair magnitudes counts

theorem equals_of_pairs (pairs : store.Pairs pair value places number count)
    (others : store.Pairs otherPair other otherPlaces otherNumber otherCount)
    (coherent : value.isIdentical other = true → value = other)
    (placesCoherent : places.isIdentical otherPlaces = true → places = otherPlaces) :
    store.equals pair otherPair =
      .ok ((number : Int) == otherNumber && (count : Int) == otherCount) := by
  have decided : store.same pair otherPair = some _ :=
    sameTo_of_pairs pairs others coherent placesCoherent 997
  simp only [equals, decided]

end Pairs

/-- A fixed-point number was made of a value that denotes the magnitude and of a bare count. -/
structure MadeOf (store : Store) (pair value : Value) (number count : Nat) : Prop where
  denotes : store.Denotes value number
  accepted : ∃ made origin,
    TextOperation.perform store .fixedPoint [value, .whole count] = .ok made ∧
      pair = made.madeAt origin

theorem MadeOf.pairs {pair : Value} {number count : Nat}
    (made : store.MadeOf pair value number count) :
    store.Pairs pair value (.whole count) number count := by
  rcases made.accepted with ⟨accepted, origin, accepts, rfl⟩
  rcases pairs_of_pairFixedPoint made.denotes (.inl rfl) accepts with
    ⟨natural, naturalCount, number_eq, count_eq, pairs⟩
  obtain rfl := Int.ofNat.inj number_eq
  obtain rfl := Int.ofNat.inj count_eq
  exact pairs.madeAt origin

end Store

namespace TextOperation

variable {store : Store}

/-- The text of a fixed-point number with a bare count of places loses nothing. -/
theorem perform_plain_faithful :
    (∀ value (number count : Nat), store.Denotes value number → number ≤ 2 ^ 128 - 1 →
      count ≤ 2 ^ 32 - 1 → ∃ pair, store.MadeOf pair value number count) ∧
    (∀ pair value number count, store.MadeOf pair value number count →
      ∃ text, perform store .plain [pair] = .ok (.text (String.ofList text)) ∧
        FixedPoint.Writes number count text) ∧
    ∀ pair value number count otherPair other otherNumber otherCount,
      store.MadeOf pair value number count →
      store.MadeOf otherPair other otherNumber otherCount →
      (value.isIdentical other = true → value = other) →
      ∃ same, Comparison.perform store .equal [pair, otherPair] = .ok (.truth same) ∧
        (same = true ↔ perform store .plain [pair] = perform store .plain [otherPair]) := by
  refine ⟨?_, ?_, ?_⟩
  · intro value number count denotes numberLe countLe
    have fits : Fits 128 number := fits_iff_le.2 numberLe
    have countFits : Fits 32 count := fits_iff_le.2 countLe
    rcases Store.exists_pairFixedPoint denotes (.inl rfl) fits countFits with ⟨pair, accepted, _⟩
    exact ⟨pair.madeAt [], denotes, pair, [], accepted, rfl⟩
  · intro pair value number count made
    exact ⟨_, made.pairs.perform_plain, FixedPoint.writes_insertPoint number count⟩
  · intro pair value number count otherPair other otherNumber otherCount made otherMade coherent
    have equals := Store.equals_of_pairs made.pairs otherMade.pairs coherent nofun
    refine ⟨_, by rw [Comparison.perform, equals, Except.map], ?_⟩
    rw [Bool.and_eq_true, beq_iff_eq, beq_iff_eq, Int.natCast_inj, Int.natCast_inj,
      made.pairs.perform_plain, otherMade.pairs.perform_plain]
    simp only [Value.places?, Except.map, Int.toNat_natCast, Except.ok.injEq, Value.text.injEq,
      String.ofList_inj]
    exact FixedPoint.insertPoint_digits_inj.symm

/-- A number of three places and the same number of four places are shown differently. -/
theorem perform_plain_faithful_of_shared :
    let store : Store := ⟨[⟨.whole 5, .whole 8⟩], [], [], .usual⟩
    ∃ pair otherPair text same,
      store.MadeOf pair (.sharedWord 0) 5 3 ∧ store.MadeOf otherPair (.whole 50) 50 4 ∧
      perform store .plain [pair] = .ok (.text (String.ofList text)) ∧
      FixedPoint.Writes 5 3 text ∧
      Comparison.perform store .equal [pair, otherPair] = .ok (.truth same) ∧
      (same = true ↔ perform store .plain [pair] = perform store .plain [otherPair]) := by
  intro store
  have faithful := @perform_plain_faithful store
  rcases faithful.1 (.sharedWord 0) 5 3 (.inr ⟨.whole 8, rfl⟩) (by decide) (by decide) with
    ⟨pair, made⟩
  rcases faithful.1 (.whole 50) 50 4 (.inl rfl) (by decide) (by decide) with
    ⟨otherPair, otherMade⟩
  rcases faithful.2.1 pair _ _ _ made with ⟨text, shown, writes⟩
  rcases faithful.2.2 pair _ _ _ otherPair _ _ _ made otherMade nofun with ⟨same, equals, iff⟩
  exact ⟨pair, otherPair, text, same, made, otherMade, shown, writes, equals, iff⟩

end TextOperation

end PoolFees
