import PoolFees.Operation.Perform
import PoolFees.Proofs.Denotation
import PoolFees.Proofs.FixedPoint.Reading

/-!
# Parts of fixed-point numbers

A fixed-point number is made of two values, each of them an integer or a word of any width. They are
checked by what they denote and kept as they were given, so what was accepted can still differ in
what can be done with it.

The magnitude is only written, and a word is written as its integer. The count of places is compared
with the count of digits, and a word cannot be. So a number with a bare count has the text and the
powers of ten that the two bare integers have, and a number with its count in a word has neither.
-/

namespace PoolFees

namespace Value

@[simp]
theorem integral?_ofIntegral (part : Integral) : (ofIntegral part).integral? = .ok part := by
  cases part <;> rfl

theorem integral?_eq_ok_iff {value : Value} {part : Integral} :
    value.integral? = .ok part ↔ value = ofIntegral part := by
  constructor
  · intro read
    cases value with
    | whole | word =>
        cases read
        rfl
    | _ => cases read
  · rintro rfl
    exact integral?_ofIntegral part

theorem fixedPointParts?_withOrigin (value : Value) (origin : Origin) :
    (value.withOrigin origin).fixedPointParts? = value.fixedPointParts? := by
  unfold withOrigin
  split <;> rfl

/-- The parts of a number do not change when it gets an identity. -/
@[simp]
theorem fixedPointParts?_madeAt (value : Value) (origin : Origin) :
    (value.madeAt origin).fixedPointParts? = value.fixedPointParts? := by
  unfold madeAt
  split
  case h_4 => exact value.fixedPointParts?_withOrigin origin
  all_goals rfl

/-- A word cannot be compared with the count of digits. -/
theorem places?_of_word {store : Store} {value : Value} {parts : LooseWord}
    (isWord : store.word? value = some parts) :
    value.places? = refuse (.notComparable "<=" "int" "CheckedUint") := by
  cases value with
  | word | looseWord | sharedWord => rfl
  | _ => cases isWord

end Value

theorem Integral.checkFits_of_fits {part : Integral} {width : Width}
    (fits : part.FitsIn width.bits) : part.checkFits width = .ok ⟨fits⟩ := by
  have bound := Word.ofIntAt_value ⟨width, part.value.toNat, fits.2⟩
  rw [Int.toNat_of_nonneg fits.1] at bound
  fun_cases Integral.checkFits part width with
  | case1 fault refused =>
      rw [bound] at refused
      cases refused
  | case2 => rfl

namespace FixedPoint

/-- Two values are paired when they are integers in range, bare or in words. -/
theorem ofValues_eq_ok_iff {magnitude places : Value} {number : FixedPoint} :
    ofValues magnitude places = .ok number ↔
      magnitude = .ofIntegral number.magnitude ∧ places = .ofIntegral number.places := by
  constructor
  · intro paired
    rcases Except.bind_eq_ok_iff.1 paired with ⟨magnitude', read, paired⟩
    rcases Except.bind_eq_ok_iff.1 paired with ⟨magnitudeFits, _, paired⟩
    rcases Except.bind_eq_ok_iff.1 paired with ⟨places', placesRead, paired⟩
    rcases Except.bind_eq_ok_iff.1 paired with ⟨placesFit, _, paired⟩
    cases paired
    exact ⟨Value.integral?_eq_ok_iff.1 read, Value.integral?_eq_ok_iff.1 placesRead⟩
  · rintro ⟨rfl, rfl⟩
    have fits : number.magnitude.checkFits magnitudeWidth = .ok ⟨number.magnitude_fits⟩ :=
      Integral.checkFits_of_fits number.magnitude_fits
    have placesFit : number.places.checkFits placesWidth = .ok ⟨number.places_fits⟩ :=
      Integral.checkFits_of_fits number.places_fits
    have isIntegral := Value.integral?_ofIntegral number.magnitude
    have placesIntegral := Value.integral?_ofIntegral number.places
    refine Except.bind_eq_ok_iff.2 ⟨_, isIntegral, Except.bind_eq_ok_iff.2 ⟨_, fits, ?_⟩⟩
    exact Except.bind_eq_ok_iff.2 ⟨_, placesIntegral, Except.bind_eq_ok_iff.2 ⟨_, placesFit, rfl⟩⟩

theorem text?_eq (number : FixedPoint) :
    number.text? = (Value.ofIntegral number.places).places?.map
      (insertPoint (Numeral.digits number.magnitude.value.toNat)) := by
  unfold text?
  cases number.places <;> rfl

/-- A magnitude has at most 39 digits. -/
theorem lt_pow_of_fits {number : Nat} (fits : Fits 128 number) : number < Nat.pow 10 39 :=
  Nat.lt_trans fits (by decide)

theorem isInLiteralRange_of_fits {number places : Nat} (fits : Fits 128 number)
    (placesFit : Fits 32 places) :
    Scientific.isInLiteralRange ⟨number, -(places : Int)⟩ = true := by
  have short : (Numeral.digits number).length ≤ 39 :=
    Nat.length_toDigits_le_iff (by decide) (by decide) |>.2 (lt_pow_of_fits fits)
  have few : places < 4294967296 := placesFit
  rw [Scientific.isInLiteralRange, Bool.and_eq_true]
  constructor
  · apply decide_eq_true
    simp only [Scientific.pointPosition, Scientific.maxLiteralExponent]
    omega
  · apply decide_eq_true
    simp only [Scientific.minLiteralExponent]
    omega

end FixedPoint

namespace Store

variable {store : Store} {value places pair : Value}

/-- A number is written as its numeral, also when it is in a word. -/
theorem renderTo_of_denotes {number : Int} (denotes : store.Denotes value number)
    (writable : Numeral.Writable number) (depth : Nat) (within : List Identity) :
    store.renderTo (depth + 2) .plain within value = .ok (Numeral.write number) := by
  rcases denotes with rfl | ⟨width, found⟩
  · simp only [renderTo, Numeral.write?, writable, if_true]
  · cases value with
    | word | looseWord | sharedWord =>
        simp [renderTo, found, Numeral.write?, writable, Bind.bind, Except.bind]
    | _ => cases found

/-- A value has two parts in range, a magnitude and a count of places. -/
structure Pairs (store : Store) (pair value places : Value) (number count : Nat) : Prop where
  parts : pair.fixedPointParts? = some (value, places)
  denotes : store.Denotes value number
  placesDenote : store.Denotes places count
  fits : Fits 128 number
  placesFit : Fits 32 count

section Accepted

variable {number count : Int}

/-- What is paired denotes numbers in range, and it is kept as it was given. -/
theorem pairs_of_pairFixedPoint (denotes : store.Denotes value number)
    (placesDenote : store.Denotes places count)
    (paired : store.pairFixedPoint value places = .ok pair) :
    ∃ natural naturalCount : Nat, number = natural ∧ count = naturalCount ∧
      store.Pairs pair value places natural naturalCount := by
  unfold pairFixedPoint at paired
  -- Where a part is loose both are bound, and otherwise they are read as integers.
  split at paired
  · rcases Except.bind_eq_ok_iff.1 paired with ⟨_, binds, paired⟩
    rcases Except.bind_eq_ok_iff.1 paired with ⟨_, placesBind, paired⟩
    rcases denotes.isInRange 128 binds with ⟨natural, rfl, fits⟩
    rcases placesDenote.isInRange 32 placesBind with ⟨naturalCount, rfl, placesFit⟩
    cases paired
    exact ⟨natural, naturalCount, rfl, rfl, rfl, denotes, placesDenote, fits, placesFit⟩
  · rcases Except.map_eq_ok_iff.1 paired with ⟨fixed, checked, rfl⟩
    rcases FixedPoint.ofValues_eq_ok_iff.1 checked with ⟨rfl, rfl⟩
    obtain rfl := denotes_ofIntegral_iff.1 denotes
    obtain rfl := denotes_ofIntegral_iff.1 placesDenote
    have natural := Int.toNat_of_nonneg fixed.magnitude_fits.1
    have placesNatural := Int.toNat_of_nonneg fixed.places_fits.1
    refine ⟨_, _, natural.symm, placesNatural.symm, rfl, ?_, ?_, fixed.magnitude_fits.2,
      fixed.places_fits.2⟩
    · exact denotes_ofIntegral_iff.2 natural.symm
    · exact denotes_ofIntegral_iff.2 placesNatural.symm

end Accepted

section Given

variable {number count : Nat}

/-- All numbers in range can be paired, in every form. -/
theorem exists_pairFixedPoint (denotes : store.Denotes value number)
    (placesDenote : store.Denotes places count) (fits : Fits 128 number)
    (placesFit : Fits 32 count) :
    ∃ pair, store.pairFixedPoint value places = .ok pair ∧
      store.Pairs pair value places number count := by
  unfold pairFixedPoint
  split
  · have held : store.memory.Holds FixedPoint.magnitudeWidth := store.memory.holds_of_le (by decide)
    have placesHeld : store.memory.Holds FixedPoint.placesWidth :=
      store.memory.holds_of_le (by decide)
    have binds := bind_of_fits held denotes fits
    have placesBind := bind_of_fits placesHeld placesDenote placesFit
    exact ⟨_, Except.bind_eq_ok_iff.2 ⟨_, binds, Except.bind_eq_ok_iff.2 ⟨_, placesBind, rfl⟩⟩,
      rfl, denotes, placesDenote, fits, placesFit⟩
  · rename_i proper
    rw [Bool.not_eq_true, Bool.or_eq_false_iff] at proper
    rcases denotes.exists_integral proper.1 with ⟨magnitude, rfl⟩
    rcases placesDenote.exists_integral proper.2 with ⟨part, rfl⟩
    have magnitudeFits : magnitude.FitsIn 128 := by
      rw [Integral.FitsIn, denotes_ofIntegral_iff.1 denotes]
      exact ⟨Int.natCast_nonneg number, fits⟩
    have partFits : part.FitsIn 32 := by
      rw [Integral.FitsIn, denotes_ofIntegral_iff.1 placesDenote]
      exact ⟨Int.natCast_nonneg count, placesFit⟩
    have paired : FixedPoint.ofValues (.ofIntegral magnitude) (.ofIntegral part) =
        .ok ⟨magnitude, part, magnitudeFits, partFits⟩ :=
      FixedPoint.ofValues_eq_ok_iff.2 ⟨rfl, rfl⟩
    rw [paired]
    exact ⟨_, rfl, rfl, denotes, placesDenote, fits, placesFit⟩

namespace Pairs

variable (pairs : store.Pairs pair value places number count)

include pairs

theorem madeAt (origin : Origin) : store.Pairs (pair.madeAt origin) value places number count where
  parts := (Value.fixedPointParts?_madeAt pair origin).trans pairs.parts
  denotes := pairs.denotes
  placesDenote := pairs.placesDenote
  fits := pairs.fits
  placesFit := pairs.placesFit

theorem plainText_eq :
    store.plainText pair = places.places?.map fun count =>
      String.ofList (FixedPoint.insertPoint (Numeral.digits number) count) := by
  have parts := pairs.parts
  cases pair with
  | fixedPoint fixed origin =>
      cases parts
      have natural := denotes_ofIntegral_iff.1 pairs.denotes
      change fixed.text?.map String.ofList = _
      rw [fixed.text?_eq, natural, Int.toNat_natCast]
      cases (Value.ofIntegral fixed.places).places? <;> rfl
  | looseFixedPoint magnitude count origin =>
      cases parts
      have writable := Numeral.writable_of_lt_pow (FixedPoint.lt_pow_of_fits pairs.fits) (by decide)
      have written := renderTo_of_denotes pairs.denotes writable 997 []
      change (store.renderTo 999 .plain [] value >>= fun digits => places.places? >>= fun count =>
        .ok (String.ofList (FixedPoint.insertPoint digits.toList count))) = _
      rw [written]
      cases places.places? with
      | error fault => rfl
      | ok count =>
          change Except.ok _ = Except.ok _
          rw [Numeral.toList_write_ofNat]
  | _ => cases parts

theorem perform_plain :
    TextOperation.perform store .plain [pair] = places.places?.map fun count =>
      .text (String.ofList (FixedPoint.insertPoint (Numeral.digits number) count)) := by
  have isPair : ((store.word? pair).isSome || pair.fixedPointParts?.isSome) = true := by
    rw [pairs.parts, Option.isSome_some, Bool.or_true]
  simp only [TextOperation.perform, isPair, if_true, pairs.plainText_eq]
  cases places.places? <;> rfl

theorem places?_eq_ok {shown : Nat} (found : places.places? = .ok shown) : shown = count := by
  rcases pairs.placesDenote with rfl | ⟨width, isWord⟩
  · cases found
    exact Int.toNat_natCast count
  · rw [Value.places?_of_word isWord] at found
    cases found

/-- The text is read again as the number that was written. -/
theorem perform_decimal :
    TextOperation.perform store .decimal [pair] = places.places?.map fun count =>
      .decimal false ⟨number, -(count : Int)⟩ := by
  have isPair : pair.fixedPointParts?.isSome = true := by
    rw [pairs.parts, Option.isSome_some]
  simp only [TextOperation.perform, isPair, if_true, pairs.plainText_eq]
  cases found : places.places? with
  | error fault => rfl
  | ok shown =>
      obtain rfl := pairs.places?_eq_ok found
      have reads := FixedPoint.ofText_of_writes (FixedPoint.writes_insertPoint number shown)
        (FixedPoint.isInLiteralRange_of_fits pairs.fits pairs.placesFit)
      simp only [Except.map, Bind.bind, Except.bind, reads]

end Pairs

end Given

end Store

namespace TextOperation

/-- Every number that is accepted is that of two bare integers. It has their text and their powers
of ten, unless its count of places was kept in a word. -/
theorem perform_of_representation {store : Store} {value places made : Value} {number count : Int}
    (denotes : store.Denotes value number) (placesDenote : store.Denotes places count)
    (accepted : perform store .fixedPoint [value, places] = .ok made) :
    ∃ bare text scientific,
      perform store .fixedPoint [.whole number, .whole count] = .ok bare ∧
      (∀ origin, perform store .plain [bare.madeAt origin] = .ok (.text text) ∧
        perform store .decimal [bare.madeAt origin] = .ok (.decimal false scientific)) ∧
      ∀ origin,
        (store.word? places = none →
          perform store .plain [made.madeAt origin] = .ok (.text text) ∧
          perform store .decimal [made.madeAt origin] = .ok (.decimal false scientific)) ∧
        (store.word? places ≠ none →
          perform store .plain [made.madeAt origin] =
            refuse (.notComparable "<=" "int" "CheckedUint") ∧
          perform store .decimal [made.madeAt origin] =
            refuse (.notComparable "<=" "int" "CheckedUint")) := by
  rcases Store.pairs_of_pairFixedPoint denotes placesDenote accepted with
    ⟨number, count, rfl, rfl, pairs⟩
  rcases Store.exists_pairFixedPoint (.inl rfl) (.inl rfl) pairs.fits pairs.placesFit with
    ⟨bare, bareAccepted, barePairs⟩
  refine ⟨bare, String.ofList (FixedPoint.insertPoint (Numeral.digits number) count),
    ⟨number, -count⟩, bareAccepted, ?_, ?_⟩
  · intro origin
    exact ⟨(barePairs.madeAt origin).perform_plain, (barePairs.madeAt origin).perform_decimal⟩
  · intro origin
    rw [(pairs.madeAt origin).perform_plain, (pairs.madeAt origin).perform_decimal]
    constructor
    · intro notWord
      rw [placesDenote.eq_whole notWord]
      exact ⟨rfl, rfl⟩
    · intro isWord
      rcases Option.ne_none_iff_exists'.1 isWord with ⟨parts, found⟩
      rw [Value.places?_of_word found]
      exact ⟨rfl, rfl⟩

/-- The magnitude 5 can be in the store, but the 3 places cannot. -/
theorem perform_of_representation_shared :
    let store : Store := ⟨[⟨.whole 5, .whole 8⟩], [], [], .usual⟩
    ∃ made bare text,
      perform store .fixedPoint [.sharedWord 0, .whole 3] = .ok made ∧
      perform store .fixedPoint [.whole 5, .whole 3] = .ok bare ∧
      perform store .plain [made] = .ok (.text text) ∧
      perform store .plain [bare] = .ok (.text text) := by
  intro store
  have denotes : store.Denotes (.sharedWord 0) 5 := .inr ⟨.whole 8, rfl⟩
  have accepted : perform store .fixedPoint [.sharedWord 0, .whole 3] =
      .ok (.looseFixedPoint (.sharedWord 0) (.whole 3) []) := rfl
  rcases perform_of_representation denotes (.inl rfl) accepted with
    ⟨bare, text, scientific, bareAccepted, bareShown, shown⟩
  cases bareAccepted
  exact ⟨_, _, text, accepted, rfl, ((shown []).1 rfl).1, (bareShown []).1⟩

/-- Five thousandths, of which the count of places is in a word, are accepted but not shown. -/
theorem places_in_word_refused :
    let three : Value := .word ⟨⟨8, by decide⟩, 3, by decide⟩ []
    ∃ made bare,
      perform .empty .fixedPoint [.whole 5, three] = .ok made ∧
      perform .empty .fixedPoint [.whole 5, .whole 3] = .ok bare ∧
      perform .empty .plain [bare] = .ok (.text "0.005") ∧
      perform .empty .decimal [bare] = .ok (.decimal false ⟨5, -3⟩) ∧
      perform .empty .plain [made] = refuse (.notComparable "<=" "int" "CheckedUint") ∧
      perform .empty .decimal [made] = refuse (.notComparable "<=" "int" "CheckedUint") :=
  ⟨_, _, rfl, rfl, rfl, rfl, rfl, rfl⟩

end TextOperation

end PoolFees
