import PoolFees.Proofs.Fee.Normalized
import PoolFees.Proofs.Form.Filling

/-!
# Fees from external configuration

A record of external configuration is turned into a schedule, or a report says why it is not. Each
proportional fee of the schedule is the exact quotient for the two integers that the record denotes
for this fee, and nothing else in the record has an effect on it.

An integer is checked at three places: as an amount from outside, as a number of a schedule and as a
word of 64 bits. They agree on every value that is neither a text nor a word, so a schedule never
refuses what was accepted from outside.
-/

namespace PoolFees

namespace Amount

/-- An external value stands for an amount when it is the amount, or a text that denotes it. -/
def StandsFor (value : Value) (amount : UInt64) : Prop :=
  value = .whole amount.toNat ∨ ∃ text, value = .text text ∧ Numeral.Denotes text amount.toNat

theorem ofInt_eq_ok_iff {given : Shown} {number : Int} {amount : UInt64} :
    ofInt given number = .ok amount ↔ number = amount.toNat := by
  constructor
  · intro accepted
    rcases integer_cases number with negative | ⟨found, rfl⟩ | above
    · rw [ofInt_of_negative negative] at accepted
      cases accepted
    · rw [ofInt_amount given found] at accepted
      cases accepted
      rfl
    · rw [ofInt_of_tooLarge above] at accepted
      cases accepted
  · rintro rfl
    exact ofInt_amount given amount

theorem ofValue_eq_ok_iff {value : Value} {amount : UInt64} :
    ofValue value = .ok amount ↔ StandsFor value amount := by
  cases value with
  | whole number =>
      simp only [ofValue, ofInt_eq_ok_iff, StandsFor, Value.whole.injEq, reduceCtorEq, false_and,
        exists_false, or_false]
  | text content =>
      constructor
      · intro accepted
        rcases ofValue_text_cases content with ⟨_, refused⟩ | ⟨number, unique, _⟩
        · rw [refused] at accepted
          cases accepted
        · have denotes := (unique number).2 rfl
          rw [ofValue_text_of_denotes denotes, ofInt_eq_ok_iff] at accepted
          subst accepted
          exact .inr ⟨content, rfl, denotes⟩
      · rintro (same | ⟨text, same, denotes⟩)
        · cases same
        · cases same
          rw [ofValue_text_of_denotes denotes]
          exact ofInt_amount _ amount
  | _ => simp [ofValue, StandsFor]

end Amount

namespace Field

variable {entries : Entries} {field : Field} {amount other : UInt64}

/-- What a record has under the key of a field stands for an amount. -/
def IsConfigured (entries : Entries) (field : Field) (amount : UInt64) : Prop :=
  ∃ key value, field.key? entries = some key ∧ entries.lookup key = some value ∧
    Amount.StandsFor value amount

theorem gives_iff_isConfigured :
    Gives entries field amount ↔ IsConfigured entries field amount := by
  simp only [Gives, IsConfigured, Amount.ofValue_eq_ok_iff]

theorem Gives.eq_of_agreeOn {others : Entries} (gives : Gives entries field amount)
    (agree : field.AgreeOn entries others) (givesOther : Gives others field other) :
    other = amount := by
  rw [← read_eq_ok_iff] at gives givesOther
  rw [read_of_agreeOn agree, gives] at givesOther
  cases givesOther
  rfl

end Field

namespace Schedule

variable {schedule other : Schedule} {store : Store} {fee : RateFee} {amount : Value}

theorem rate_ofFields (amounts : Field → UInt64) (fee : RateFee) :
    (ofFields amounts).rate fee = ⟨amounts ⟨fee, .numerator⟩, amounts ⟨fee, .denominator⟩⟩ := by
  cases fee <;> rfl

/-- A proportional fee depends on its own rate alone. -/
theorem rateFee_of_rate (same : other.rate fee = schedule.rate fee) :
    other.rateFee store fee amount = schedule.rateFee store fee amount := by
  simp only [rateFee, same]

theorem rateFee_eq_noting : schedule.rateFee store fee amount =
    .noting (.rateFeeAbsent fee amount (schedule.rate fee))
      (store.mulDiv MulDiv.imbalanced amount (.whole (schedule.rate fee).numerator.toNat)
        (.whole (schedule.rate fee).denominator.toNat)) := rfl

/-- The proportional fee on an amount is the exact quotient, and its absence is noted. -/
theorem rateFee_eq_of_denotes (schedule : Schedule) (fee : RateFee) {number : Nat}
    (denotes : store.Denotes amount number) (fits : Fits MulDiv.amountWidth number) :
    schedule.rateFee store fee amount =
      .noting (.rateFeeAbsent fee amount (schedule.rate fee))
        (.ok (MulDiv.scaled? number (schedule.rate fee).numerator.toNat
          (schedule.rate fee).denominator.toNat)) := by
  rw [rateFee_eq_noting, Store.mulDiv_eq_scaled? _ (Store.bind_amount denotes fits)
    (Store.bind_amount (.inl rfl) (schedule.rate fee).numerator.toNat_lt)
    (Store.bind_amount (.inl rfl) (schedule.rate fee).denominator.toNat_lt)]

theorem rateFee_of_denotes (schedule : Schedule) (fee : RateFee) {number : Nat}
    (denotes : store.Denotes amount number) (fits : Fits MulDiv.amountWidth number) :
    (schedule.rateFee store fee amount).result =
      .ok (MulDiv.scaled? number (schedule.rate fee).numerator.toNat
        (schedule.rate fee).denominator.toNat) := by
  rw [schedule.rateFee_eq_of_denotes fee denotes fits, Traced.noting_result]

/-- On every amount a schedule charges the exact quotient for the given rate as a proportional fee,
and the fee is absent when the quotient is no amount. -/
def ChargesAt (schedule : Schedule) (fee : RateFee) (numerator denominator : UInt64) : Prop :=
  ∀ (store : Store) (amount : Value) (number : Nat) (origin : Origin),
    store.Denotes amount number → Fits MulDiv.amountWidth number →
    (ScheduleOperation.perform store (.charge (.rate fee))
        [.schedule schedule origin, amount]).result =
      .ok (.ofFee (MulDiv.scaled? number numerator.toNat denominator.toNat))

theorem chargesAt_rate (schedule : Schedule) (fee : RateFee) :
    schedule.ChargesAt fee (schedule.rate fee).numerator (schedule.rate fee).denominator := by
  intro store amount number origin denotes fits
  have charged := schedule.rateFee_of_denotes fee denotes fits
  exact Except.map_eq_ok_iff.2 ⟨_, charged, rfl⟩

theorem numberOf_eq_ok_iff {field : Field} {value : Value} {number : UInt64} :
    numberOf field value = .ok number ↔ value = .whole number.toNat := by
  constructor
  · intro accepted
    unfold numberOf at accepted
    split at accepted
    · split at accepted
      · rename_i given inRange
        injection accepted with number_eq
        rw [← number_eq, UInt64.toNat_ofNatLT, Int.toNat_of_nonneg inRange.1]
      · simp [refuse] at accepted
    · simp [refuse] at accepted
  · rintro rfl
    exact numberOf_amount field number

theorem forM_numberOf_iff {values : Field → Value} {fields : List Field} :
    (fields.forM fun field => (numberOf field (values field)).map fun _ => ()) = .ok () ↔
      ∀ field ∈ fields, ∃ number : UInt64, values field = .whole number.toNat := by
  induction fields with
  | nil => simp; rfl
  | cons field rest ih =>
      have isNumber : (∃ number : UInt64, values field = .whole number.toNat) ↔
          ∃ number, numberOf field (values field) = .ok number := by
        simp only [numberOf_eq_ok_iff]
      rw [List.forall_mem_cons, isNumber, ← ih]
      simp only [List.forM]
      cases numberOf field (values field) with
      | error fault => simp [Except.map, Bind.bind, Except.bind]
      | ok number => simp [Except.map, Bind.bind, Except.bind]

/-- A schedule is made of eight integers of 64 bits and of nothing else. -/
theorem ofValues_succeeds_iff {values : Field → Value} :
    (∃ schedule, ofValues values = .ok schedule) ↔
      ∀ field, ∃ number : UInt64, values field = .whole number.toNat := by
  have all_iff := @forM_numberOf_iff values Field.all
  simp only [Field.mem_all, forall_const] at all_iff
  rw [← all_iff, ofValues]
  cases Field.all.forM fun field => (numberOf field (values field)).map fun _ => () with
  | error fault => simp [Bind.bind, Except.bind]
  | ok result => simp [Bind.bind, Except.bind]

end Schedule

theorem Store.bindAmount_succeeds_iff {store : Store} {value : Value}
    (notWord : value.typeName ≠ "CheckedUint") :
    (∃ result, store.bindWord (.whole MulDiv.amountWidth) value = .ok result) ↔
      ∃ amount : UInt64, value = .whole amount.toNat := by
  constructor
  · rintro ⟨result, binds⟩
    cases value with
    | whole number =>
        have bound : (Word.ofInt store.memory MulDiv.amountWidth number).map Value.ofWord =
            .ok result := binds
        rcases Except.map_eq_ok_iff.1 bound with ⟨word, read, _⟩
        rcases Word.fits_of_ofInt_eq_ok read with ⟨natural, fits⟩
        have below : number.toNat < UInt64.size := fits
        refine ⟨UInt64.ofNatLT number.toNat below, ?_⟩
        rw [UInt64.toNat_ofNatLT, Int.toNat_of_nonneg natural]
    | word | looseWord | sharedWord => exact absurd rfl notWord
    | _ => cases binds
  · rintro ⟨amount, rfl⟩
    have bound : LooseWord.bind store (.whole MulDiv.amountWidth) (.whole amount.toNat) = _ :=
      Store.bind_amount (.inl rfl) amount.toNat_lt
    rw [Store.bindWord_whole, bound]
    exact ⟨_, rfl⟩

namespace FormOperation

variable {store : Store} {value : Value} {entries : Entries}

/-- A record is reported, or a schedule is made of the amounts that it gives. -/
theorem readSchedule_cases (given : store.record? value = some entries) :
    (∃ report, perform store readSchedule [value] = .answer store (.error (.invalid report))) ∨
      ∃ amounts : Field → UInt64, (∀ field, Field.Gives entries field (amounts field)) ∧
        perform store readSchedule [value] =
          .answer store (.ok (.schedule (Schedule.ofFields amounts) [])) := by
  by_cases gives : ∀ field, ∃ amount, Field.Gives entries field amount
  · right
    rcases Classical.axiomOfChoice gives with ⟨amounts, gives⟩
    exact ⟨amounts, gives, (perform_of_filled given (Form.ofRecord_of_gives gives)).2⟩
  · left
    rcases Form.ofRecord_of_fails gives with ⟨report, refused, _⟩
    exact ⟨report, perform_of_refused given refused readSchedule (by decide)⟩

theorem readAmount_succeeds_iff (notText : value.typeName ≠ "str") :
    (∃ result, (perform store readAmount [value]).outcome.result = .ok result) ↔
      ∃ amount : UInt64, value = .whole amount.toNat := by
  have stands_iff : ∀ amount, Amount.ofValue value = .ok amount ↔ value = .whole amount.toNat := by
    intro amount
    rw [Amount.ofValue_eq_ok_iff, Amount.StandsFor, or_iff_left_iff_imp]
    rintro ⟨text, rfl, _⟩
    exact absurd rfl notText
  simp only [← stands_iff, perform]
  cases Amount.ofValue value with
  | ok amount =>
      constructor
      · intro _
        exact ⟨amount, rfl⟩
      · intro _
        exact ⟨.whole amount.toNat, rfl⟩
  | error fault =>
      constructor
      · rintro ⟨_, succeeds⟩
        cases succeeds
      · rintro ⟨_, accepted⟩
        cases accepted

end FormOperation

namespace ScheduleOperation

variable {store : Store}

/-- A schedule is made of a list with one value for each field. -/
theorem perform_make (store : Store) (values : Field → Value) (origin : Origin) :
    perform store make [.list (Field.all.map values) origin] =
      .silent ((Schedule.ofValues values).map (.schedule · [])) := by
  have paired : Field.all.zip (Field.all.map values) =
      Field.all.map fun field => (field, values field) := rfl
  have found : ∀ field : Field,
      ((Field.all.map fun field => (field, values field)).lookup field).getD .absent =
        values field := by
    intro field
    rw [Field.lookup_field values (Field.mem_all field), Option.getD_some]
  simp only [perform, List.length_map, if_true, paired, found]

theorem make_succeeds_iff {values : Field → Value} {origin : Origin} :
    (∃ result, (perform store make [.list (Field.all.map values) origin]).result = .ok result) ↔
      ∀ field, ∃ amount : UInt64, values field = .whole amount.toNat := by
  rw [← Schedule.ofValues_succeeds_iff, perform_make]
  simp only [Traced.silent, Except.map_eq_ok_iff]
  constructor
  · rintro ⟨_, schedule, made, _⟩
    exact ⟨schedule, made⟩
  · rintro ⟨schedule, made⟩
    exact ⟨_, schedule, made, rfl⟩

end ScheduleOperation

/-- Records that agree on the two fields of a fee lead to the same rate. -/
theorem FormOperation.rate_of_agreeOn {store : Store} {value other : Value}
    {entries others : Entries} {schedule otherSchedule : Schedule} {fee : RateFee}
    (given : store.record? value = some entries) (givenOther : store.record? other = some others)
    (agree : ∀ part, Field.AgreeOn ⟨fee, part⟩ entries others)
    (made : perform store readSchedule [value] = .answer store (.ok (.schedule schedule [])))
    (madeOther : perform store readSchedule [other] =
      .answer store (.ok (.schedule otherSchedule []))) :
    otherSchedule.rate fee = schedule.rate fee := by
  rcases readSchedule_cases given with ⟨_, reported⟩ | ⟨amounts, gives, made_eq⟩
  · rw [reported] at made
    cases made
  · rcases readSchedule_cases givenOther with ⟨_, reported⟩ | ⟨otherAmounts, givesOther, other_eq⟩
    · rw [reported] at madeOther
      cases madeOther
    · rw [made_eq] at made
      rw [other_eq] at madeOther
      cases made
      cases madeOther
      rw [Schedule.rate_ofFields, Schedule.rate_ofFields,
        (gives _).eq_of_agreeOn (agree .numerator) (givesOther _),
        (gives _).eq_of_agreeOn (agree .denominator) (givesOther _)]

/-- A record of external configuration is reported, or a schedule is made of it that charges each
proportional fee at the rate for which the record has the two numbers. Records that agree on these
two fields lead to the same fee. What is neither a text nor a word is accepted as an amount, as a
word of 64 bits and as a number of a schedule in the same cases. -/
theorem FormOperation.readSchedule_charges (store : Store) (value : Value) :
    (∀ entries, store.record? value = some entries →
      (∃ report, perform store readSchedule [value] =
        .answer store (.error (.invalid report))) ∨
      ∃ schedule, perform store readSchedule [value] =
          .answer store (.ok (.schedule schedule [])) ∧
        ∀ fee : RateFee,
          (∃ numerator denominator,
            Field.IsConfigured entries ⟨fee, .numerator⟩ numerator ∧
            Field.IsConfigured entries ⟨fee, .denominator⟩ denominator ∧
            schedule.ChargesAt fee numerator denominator) ∧
          ∀ other others otherSchedule, store.record? other = some others →
            (∀ part, Field.AgreeOn ⟨fee, part⟩ entries others) →
            perform store readSchedule [other] =
              .answer store (.ok (.schedule otherSchedule [])) →
            ∀ later amount origin otherOrigin,
              ScheduleOperation.perform later (.charge (.rate fee))
                [.schedule otherSchedule otherOrigin, amount] =
              ScheduleOperation.perform later (.charge (.rate fee))
                [.schedule schedule origin, amount]) ∧
    (value.typeName ≠ "str" → value.typeName ≠ "CheckedUint" →
      let isAmount := ∃ amount : UInt64, value = .whole amount.toNat
      ((∃ result, (perform store readAmount [value]).outcome.result = .ok result) ↔ isAmount) ∧
      ((∃ result, WordOperation.perform store .bindAmount [value] = .ok result) ↔ isAmount) ∧
      ∀ (values : Field → Value) (field : Field) (origin : Origin), values field = value →
        (∀ other ≠ field, ∃ amount : UInt64, values other = .whole amount.toNat) →
        ((∃ result, (ScheduleOperation.perform store .make
          [.list (Field.all.map values) origin]).result = .ok result) ↔ isAmount)) := by
  constructor
  · intro entries given
    rcases readSchedule_cases given with reported | ⟨amounts, gives, made⟩
    · exact .inl reported
    · refine .inr ⟨_, made, ?_⟩
      intro fee
      constructor
      · have charges := (Schedule.ofFields amounts).chargesAt_rate fee
        rw [Schedule.rate_ofFields] at charges
        exact ⟨_, _, Field.gives_iff_isConfigured.1 (gives _),
          Field.gives_iff_isConfigured.1 (gives _), charges⟩
      · intro other others otherSchedule givenOther agree madeOther later amount origin otherOrigin
        have same := rate_of_agreeOn given givenOther agree made madeOther
        exact congrArg (Traced.map Value.ofFee) (Schedule.rateFee_of_rate same)
  · intro notText notWord isAmount
    refine ⟨readAmount_succeeds_iff notText, Store.bindAmount_succeeds_iff notWord, ?_⟩
    rintro values field origin rfl othersValid
    rw [ScheduleOperation.make_succeeds_iff]
    constructor
    · intro valid
      exact valid field
    · intro valid other
      by_cases same : other = field
      · subst same
        exact valid
      · exact othersValid other same

/-- The numbers of the trade fee are texts, one under each kind of name. A truth value is no number
of a schedule. -/
theorem FormOperation.readSchedule_of_texts :
    let configuration : Value := .record [("tradeFeeNumerator", .text "+25"),
      ("trade_fee_denominator", .text " 10_000 "), ("adminTradeFeeNumerator", .whole 0),
      ("adminTradeFeeDenominator", .whole 1), ("adminWithdrawFeeNumerator", .whole 0),
      ("adminWithdrawFeeDenominator", .whole 1), ("withdrawFeeNumerator", .whole 0),
      ("withdrawFeeDenominator", .whole 1)] []
    (∃ schedule, perform .empty readSchedule [configuration] =
        .answer .empty (.ok (.schedule schedule [])) ∧
      (ScheduleOperation.perform .empty (.charge (.rate .trade))
        [.schedule schedule [], .whole 100000]).result = .ok (.whole 250)) ∧
    ¬∃ result, (ScheduleOperation.perform .empty .make
      [.list (Field.all.map fun field => if field = ⟨.trade, .numerator⟩ then .truth true
        else .whole 1) []]).result = .ok result := by
  intro configuration
  constructor
  · rcases (readSchedule_charges .empty configuration).1 _ rfl with
      ⟨report, reported⟩ | ⟨schedule, made, charges⟩
    · have made : perform .empty readSchedule [configuration] =
          .answer .empty (.ok (.schedule ⟨⟨0, 1⟩, ⟨0, 1⟩, ⟨25, 10000⟩, ⟨0, 1⟩⟩ [])) := rfl
      rw [made] at reported
      cases reported
    · refine ⟨schedule, made, ?_⟩
      rcases (charges .trade).1 with ⟨numerator, denominator, hasNumerator, hasDenominator, charged⟩
      have numerator_eq : numerator = 25 := by
        have read := Field.read_eq_ok_iff.2 (Field.gives_iff_isConfigured.2 hasNumerator)
        exact Except.ok.inj (read.symm.trans rfl)
      have denominator_eq : denominator = 10000 := by
        have read := Field.read_eq_ok_iff.2 (Field.gives_iff_isConfigured.2 hasDenominator)
        exact Except.ok.inj (read.symm.trans rfl)
      subst numerator_eq
      subst denominator_eq
      exact charged .empty (.whole 100000) 100000 [] (.inl rfl) (by decide)
  · have agree := (readSchedule_charges .empty (.truth true)).2 (by decide) (by decide)
    intro made
    have isAmount := (agree.2.2 _ ⟨.trade, .numerator⟩ [] rfl ?_).1 made
    · rcases isAmount with ⟨_, same⟩
      cases same
    · intro other differs
      exact ⟨1, if_neg differs⟩

end PoolFees
