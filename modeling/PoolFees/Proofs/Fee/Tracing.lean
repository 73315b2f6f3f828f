import PoolFees.Proofs.Fee.Configured
import PoolFees.Proofs.FixedPoint.Equality
import PoolFees.Proofs.Operation.Change

/-!
# Events about absent fees

A schedule leaves exactly one event when a fee is absent, and none when it is present or refused.
Which event it is follows from the operation and from the number of coins: one for each proportional
fee, one for a pool without a divisor, and one for a normalized fee that is too large or has no
denominator. The event about an absent scaled numerator never occurs, because the numerator of a
rate only becomes smaller when it is scaled.

The number of coins can be a loose word with a fraction. What is left of it without one coin is no
integer then, and it is bound nowhere, so there is no divisor for such a number of coins.
-/

namespace PoolFees

namespace Value

/-- A difference is an integer only where it is taken from an integer. -/
theorem isFractional_of_difference {left right result : Value} (notInteger : left.integer? = none)
    (ends : left.difference right = .ok result) : result.isFractional = true := by
  rcases Except.bind_eq_ok_iff.1 ends with ⟨operands, brought, ends⟩
  cases operands with
  | whole =>
      -- Two operands are brought to integers only when both are integers.
      unfold Value.operands at brought
      rw [notInteger] at brought
      simp only [Bind.bind, Except.bind, refuse] at brought
      repeat' split at brought
      all_goals cases brought
  | real =>
      cases ends
      rfl
  | scientific =>
      rcases Except.map_eq_ok_iff.1 ends with ⟨number, _, rfl⟩
      rfl

end Value

namespace LooseWord

variable {store : Store}

theorem bind_of_fractional {width value : Value} (fractional : value.isFractional = true) :
    bind store width value = refuse (.notInteger value.typeName) := by
  cases value with
  | real | decimal => rfl
  | _ => cases fractional

/-- Nothing is left of a fraction when something is taken from it, or it is refused. -/
theorem combine_sub_of_notInteger {word : LooseWord} {operand : Value}
    (notInteger : word.content.integer? = none) :
    (∃ fault, word.combine store .sub operand = .error fault) ∨
      word.combine store .sub operand = .ok none := by
  cases read : word.operand store operand with
  | error fault => exact .inl ⟨fault, by rw [combine, read]; rfl⟩
  | ok subtrahend =>
      have combined : word.combine store .sub operand = word.calculate store .sub subtrahend := by
        rw [combine, read]
        rfl
      rw [combined, calculate]
      cases left : word.content.difference subtrahend with
      | error fault => exact .inl ⟨fault, rfl⟩
      | ok rest =>
          have fractional := Value.isFractional_of_difference notInteger left
          simp only [Bind.bind, Except.bind, bind_of_fractional fractional]
          cases store.relates .below rest (.whole 0) with
          | error fault => exact .inl ⟨fault, rfl⟩
          | ok isBelow =>
              cases isBelow with
              | true => exact .inr rfl
              | false => exact .inl ⟨_, rfl⟩

end LooseWord

namespace Pool

variable {store : Store} {coins : Value}

/-- A number of coins that has a divisor. -/
def HasDivisor (store : Store) (coins : Value) (size : Nat) : Prop :=
  store.Denotes coins size ∧ 2 ≤ size ∧ size ≤ 64

/-- Subtracting one makes an integer of a truth value. -/
theorem ofLooseWord_truth (flag : Bool) :
    ofLooseWord store ⟨.truth flag, .whole coinsWidth⟩ = .ok none := by
  have fits : Fits coinsWidth flag.toNat := by cases flag <;> decide
  have tooFew : ¬(2 ≤ flag.toNat ∧ flag.toNat ≤ 64) := by cases flag <;> decide
  have oneBinds : LooseWord.bind store (.whole coinsWidth) (.whole 1) =
      .ok (.ofWord ⟨sizeWidth, 1, by decide⟩) :=
    Store.bind_of_fits (holds_sizeWidth store) (.inl rfl) _
  have combined : LooseWord.combine store .sub ⟨.truth flag, .whole coinsWidth⟩ (.whole 1) =
      LooseWord.combine store .sub ⟨.whole flag.toNat, .whole coinsWidth⟩ (.whole 1) := by
    have read : ∀ content, LooseWord.operand store ⟨content, .whole coinsWidth⟩ (.whole 1) =
        .ok (.whole 1) := by
      intro content
      simp only [LooseWord.operand, Store.word?, oneBinds]
      rfl
    rw [LooseWord.combine, LooseWord.combine, read, read]
    cases flag <;> rfl
  have number := @ofLooseWord_ofWord ⟨sizeWidth, flag.toNat, fits⟩ store rfl
  rw [ofWord?, divisor?_eq rfl, if_neg tooFew] at number
  unfold ofLooseWord at number ⊢
  rw [combined]
  cases flag <;> exact number

/-- A loose word that holds no number has no divisor. -/
theorem ofLooseWord_of_notWhole {content : Value} (notWhole : ∀ number, content ≠ .whole number) :
    (∃ fault, ofLooseWord store ⟨content, .whole coinsWidth⟩ = .error fault) ∨
      ofLooseWord store ⟨content, .whole coinsWidth⟩ = .ok none := by
  cases isInteger : content.integer? with
  | some number =>
      cases content with
      | truth flag => exact .inr (ofLooseWord_truth flag)
      | whole => exact (notWhole _ rfl).elim
      | _ => cases isInteger
  | none =>
      have combined := @LooseWord.combine_sub_of_notInteger store
        ⟨content, .whole coinsWidth⟩ (.whole 1) isInteger
      unfold ofLooseWord
      rcases combined with ⟨fault, refused⟩ | isAbsent
      · rw [refused]
        exact .inl ⟨fault, rfl⟩
      · rw [isAbsent]
        exact .inr rfl

/-- What is bound without denoting a number is a loose word that holds something else. -/
theorem exists_content_of_bind {parts : LooseWord}
    (binds : LooseWord.bind store (.whole coinsWidth) coins = .ok parts)
    (notNumber : ∀ number, ¬store.Denotes coins number) :
    coins.isLoose = true ∧ ∃ content, parts = ⟨content, .whole coinsWidth⟩ ∧
      ∀ number, content ≠ .whole number := by
  cases found : store.word? coins with
  | none =>
      cases coins with
      | whole number => exact (notNumber number (.inl rfl)).elim
      | _ => simp [LooseWord.bind, found, refuse] at binds
  | some word =>
      have notWhole : ∀ number, word.content ≠ .whole number := by
        intro number content_eq
        refine notNumber number (.inr ⟨word.width, ?_⟩)
        rw [found, ← content_eq]
      refine ⟨?_, word.content, ?_, notWhole⟩
      · cases coins with
        | looseWord | sharedWord => rfl
        | word bound origin => exact (notNumber bound.value (.inr ⟨_, rfl⟩)).elim
        | _ => cases found
      · simp only [LooseWord.bind, found] at binds
        exact LooseWord.bindContent_eq_ok binds

/-- What comes of a number of coins: it is refused, or it has no divisor, or it is an integer for
which there is one. -/
theorem ofValue_cases (store : Store) (coins : Value) :
    (∃ fault, ofValue store coins = .error fault) ∨
      (ofValue store coins = .ok none ∧
        (∃ bound, store.bindWord (.whole coinsWidth) coins = .ok bound) ∧
        ¬∃ size, HasDivisor store coins size) ∨
      ∃ byte : Word, LooseWord.bind store (.whole coinsWidth) coins = .ok (.ofWord byte) ∧
        HasDivisor store coins byte.value := by
  cases binds : LooseWord.bind store (.whole coinsWidth) coins with
  | error fault => exact .inl ⟨fault, ofValue_eq_error binds⟩
  | ok parts =>
      have accepted : ∃ bound, store.bindWord (.whole coinsWidth) coins = .ok bound := by
        rw [Store.bindWord_whole, binds]
        exact ⟨_, rfl⟩
      by_cases isNumber : ∃ number, store.Denotes coins number
      · rcases accepted with ⟨bound, bound_eq⟩
        rcases Store.bind_eq_ok_of_bindWord (fun _ => isNumber) bound_eq with
          ⟨byte, byteDenoted, byteBinds⟩
        by_cases valid : 2 ≤ byte.value ∧ byte.value ≤ 64
        · exact .inr (.inr ⟨byte, binds.symm.trans byteBinds, byteDenoted, valid⟩)
        · have isByte : byte.width.bits = coinsWidth := by
            have bits_eq := LooseWord.bits_of_bind byteBinds
            omega
          refine .inr (.inl ⟨?_, ⟨bound, bound_eq⟩, ?_⟩)
          · rw [ofValue_of_bind byteBinds, ofWord?, divisor?_eq isByte, if_neg valid]
            rfl
          · rintro ⟨size, denotes, several, few⟩
            have size_eq := denotes.unique byteDenoted
            omega
      · have notNumber : ∀ number, ¬store.Denotes coins number := not_exists.1 isNumber
        rcases exists_content_of_bind binds notNumber with ⟨loose, content, rfl, notWhole⟩
        have outcome_eq : ofValue store coins = ofLooseWord store ⟨content, .whole coinsWidth⟩ := by
          simp only [ofValue, loose, if_true, binds, Bind.bind, Except.bind]
        rw [outcome_eq]
        rcases ofLooseWord_of_notWhole notWhole with refused | isAbsent
        · exact .inl refused
        · refine .inr (.inl ⟨isAbsent, accepted, ?_⟩)
          rintro ⟨size, denotes, _⟩
          exact notNumber size denotes

end Pool

namespace Traced

/-- A calculation leaves an event when its result is absent, and none when it is present or refused.
-/
inductive Notes (event : Event) : Traced Value → Prop where
  | absent : Notes event ⟨.ok .absent, [event]⟩
  | present (fee : Nat) : Notes event (.silent (.ok (.whole fee)))
  | refused (fault : Fault) : Notes event (.silent (.error fault))

theorem notes_noting (event : Event) (outcome : Except Fault (Option Nat)) :
    ((noting event outcome).map .ofFee).Notes event := by
  rcases outcome with fault | _ | fee
  · exact .refused fault
  · exact .absent
  · exact .present fee

theorem Notes.events_of_absent {event : Event} {traced : Traced Value} (notes : traced.Notes event)
    (isAbsent : traced.result = .ok .absent) : traced.events = [event] := by
  cases notes with
  | absent => rfl
  | present | refused => cases isAbsent

theorem Notes.eq_of_mem {event other : Event} {traced : Traced Value} (notes : traced.Notes event)
    (member : other ∈ traced.events) : other = event := by
  cases notes with
  | absent => exact List.mem_singleton.1 member
  | present | refused => cases member

end Traced

namespace Schedule

variable {schedule : Schedule} {store : Store} {coins amount : Value}

/-- The normalized fee notes that there is no divisor, or that the fee is absent for the scaled
numerator. -/
theorem normalizedFee_cases (schedule : Schedule) (store : Store) (coins amount : Value) :
    (∃ fault, schedule.normalizedFee store coins amount = .silent (.error fault)) ∨
      (schedule.normalizedFee store coins amount = ⟨.ok none, [.invalidPoolSize coins]⟩ ∧
        (∃ bound, store.bindWord (.whole coinsWidth) coins = .ok bound) ∧
        ¬∃ size, Pool.HasDivisor store coins size) ∨
      ∃ size outcome, Pool.HasDivisor store coins size ∧
        schedule.normalizedFee store coins amount =
          .noting (.normalizedFeeAbsent coins amount (schedule.adjustedNumerator size)
            schedule.trade.denominator) outcome := by
  rcases Pool.ofValue_cases store coins with ⟨fault, refused⟩ | ⟨isAbsent, accepted, noDivisor⟩ |
    ⟨byte, binds, denotes, several, few⟩
  · exact .inl ⟨fault, by simp only [normalizedFee, refused]⟩
  · exact .inr (.inl ⟨by simp only [normalizedFee, isAbsent], accepted, noDivisor⟩)
  · exact .inr (.inr ⟨byte.value, _, ⟨denotes, several, few⟩,
      normalizedFee_of_size binds several few⟩)

end Schedule

namespace FormOperation

theorem keep_events (store : Store) (read : Except Report Entries) :
    (keep store read).outcome.events = [] := by
  cases read <;> rfl

theorem perform_events (store : Store) (operation : FormOperation) (arguments : List Value) :
    (operation.perform store arguments).outcome.events = [] := by
  unfold perform
  split
  case h_3 =>
    unfold fillFrom
    split
    · exact keep_events _ _
    · rfl
    · rfl
  case h_4 =>
    split
    · exact keep_events _ _
    · rfl
  case h_5 => exact keep_events _ _
  case h_6 => exact keep_events _ _
  case h_14 receiver name value =>
    rcases (Assignment.perform_does store name value receiver).outcome with ends | ⟨_, ends⟩
    · rw [ends]
      rfl
    · rw [ends]
      rfl
  all_goals rfl

end FormOperation

namespace ScheduleOperation

variable {store : Store} {schedule : Schedule} {origin : Origin}

theorem perform_rate_notes (fee : RateFee) (amount : Value) :
    (perform store (.charge (.rate fee)) [.schedule schedule origin, amount]).Notes
      (.rateFeeAbsent fee amount (schedule.rate fee)) :=
  Traced.notes_noting _ _

theorem perform_normalized_notes (coins amount : Value) :
    (∃ size, Pool.HasDivisor store coins size ∧
      (perform store (.charge .normalizedTrade) [.schedule schedule origin, coins, amount]).Notes
        (.normalizedFeeAbsent coins amount (schedule.adjustedNumerator size)
          schedule.trade.denominator)) ∨
    (¬∃ size, Pool.HasDivisor store coins size) ∧
      (perform store (.charge .normalizedTrade) [.schedule schedule origin, coins, amount]).Notes
        (.invalidPoolSize coins) := by
  simp only [perform, Calculator.normalizedFee]
  rcases schedule.normalizedFee_cases store coins amount with
    ⟨fault, refused⟩ | ⟨isAbsent, _, noDivisor⟩ | ⟨size, outcome, hasDivisor, noted⟩
  -- A refusal leaves no event, so it goes with either event.
  · by_cases hasDivisor : ∃ size, Pool.HasDivisor store coins size
    · rcases hasDivisor with ⟨size, hasDivisor⟩
      exact .inl ⟨size, hasDivisor, refused ▸ .refused fault⟩
    · exact .inr ⟨hasDivisor, refused ▸ .refused fault⟩
  · exact .inr ⟨noDivisor, isAbsent ▸ .absent⟩
  · exact .inl ⟨size, hasDivisor, noted ▸ Traced.notes_noting _ outcome⟩

/-- Whatever the arguments of a charge are, it leaves an event only when the fee is absent. -/
theorem perform_charge_notes (operation : FeeOperation) (arguments : List Value) :
    ∃ event : Event, event.level = .debug ∧
      (perform store (.charge operation) (.schedule schedule origin :: arguments)).Notes event := by
  -- A charge with too few or too many arguments is refused, which goes with any event.
  cases operation with
  | rate fee =>
      rcases arguments with _ | ⟨amount, _ | ⟨second, rest⟩⟩
      · exact ⟨.invalidPoolSize .absent, rfl, .refused _⟩
      · exact ⟨_, rfl, perform_rate_notes fee amount⟩
      · exact ⟨.invalidPoolSize .absent, rfl, .refused _⟩
  | normalizedTrade =>
      rcases arguments with _ | ⟨coins, _ | ⟨amount, _ | ⟨third, rest⟩⟩⟩
      · exact ⟨.invalidPoolSize .absent, rfl, .refused _⟩
      · exact ⟨.invalidPoolSize .absent, rfl, .refused _⟩
      · rcases @perform_normalized_notes store schedule origin coins amount with
          ⟨size, _, notes⟩ | ⟨_, notes⟩
        · exact ⟨_, rfl, notes⟩
        · exact ⟨_, rfl, notes⟩
      · exact ⟨.invalidPoolSize .absent, rfl, .refused _⟩

theorem perform_never_adjusted {operation : ScheduleOperation} {arguments : List Value}
    {event : Event} (member : event ∈ (perform store operation arguments).events) (coins : Value)
    (numerator : UInt64) : event ≠ .adjustedNumeratorAbsent coins numerator := by
  rintro rfl
  unfold perform at member
  split at member
  case h_1 =>
    split at member <;> cases member
  case h_2 fee calculator amount =>
    cases calculator with
    | schedule rates origin =>
        have same := (@perform_rate_notes store rates origin fee amount).eq_of_mem member
        cases same
    | _ => cases member
  case h_3 calculator coins amount =>
    cases calculator with
    | schedule rates origin =>
        rcases @perform_normalized_notes store rates origin coins amount with
          ⟨size, _, notes⟩ | ⟨_, notes⟩
        · cases notes.eq_of_mem member
        · cases notes.eq_of_mem member
    | _ => cases member
  case h_5 fee operation =>
    cases fee with
    | absent => cases List.mem_singleton.1 member
    | _ => cases member
  all_goals cases member

end ScheduleOperation

theorem Operation.perform_never_adjusted {store : Store} {operation : Operation}
    {arguments : List Value} {event : Event}
    (member : event ∈ (operation.perform store arguments).outcome.events) (coins : Value)
    (numerator : UInt64) : event ≠ .adjustedNumeratorAbsent coins numerator := by
  cases operation with
  | schedule operation => exact ScheduleOperation.perform_never_adjusted member coins numerator
  | form operation =>
      have silent := FormOperation.perform_events store operation arguments
      rw [Operation.perform, silent] at member
      cases member
  | word | compare | mulDiv | text | inquire => cases member

/-- The number of coins that is told to be invalid is one that was accepted, and of integers just
those that fit eight bits and have no divisor. -/
theorem ScheduleOperation.perform_invalidPoolSize {store : Store} {schedule : Schedule}
    {origin : Origin} {coins amount : Value} :
    ((perform store (.charge .normalizedTrade) [.schedule schedule origin, coins, amount]).events =
        [.invalidPoolSize coins] →
      (∃ bound, store.bindWord (.whole coinsWidth) coins = .ok bound) ∧
        ¬∃ size, Pool.HasDivisor store coins size) ∧
    ∀ number, store.Denotes coins number →
      ((perform store (.charge .normalizedTrade)
          [.schedule schedule origin, coins, amount]).events = [.invalidPoolSize coins] ↔
        (0 ≤ number ∧ number ≤ 2 ^ 8 - 1) ∧ (number < 2 ∨ 64 < number)) := by
  have told : (perform store (.charge .normalizedTrade)
        [.schedule schedule origin, coins, amount]).events = [.invalidPoolSize coins] →
      (∃ bound, store.bindWord (.whole coinsWidth) coins = .ok bound) ∧
        ¬∃ size, Pool.HasDivisor store coins size := by
    intro events_eq
    simp only [perform, Calculator.normalizedFee, Traced.map] at events_eq
    rcases schedule.normalizedFee_cases store coins amount with
      ⟨fault, refused⟩ | ⟨_, accepted, noDivisor⟩ | ⟨size, outcome, _, noted⟩
    · rw [refused] at events_eq
      cases events_eq
    · exact ⟨accepted, noDivisor⟩
    · rw [noted] at events_eq
      rcases outcome with fault | _ | fee <;> cases events_eq
  refine ⟨told, fun number denotes => ⟨fun events_eq => ?_, ?_⟩⟩
  · rcases told events_eq with ⟨⟨bound, bound_eq⟩, noDivisor⟩
    rcases Store.bind_eq_ok_of_bindWord (fun _ => ⟨number, denotes⟩) bound_eq with
      ⟨byte, byteDenoted, binds⟩
    rcases denotes.isInRange 8 binds with ⟨size, rfl, fits⟩
    have le : size ≤ 2 ^ 8 - 1 := fits_iff_le.1 fits
    refine ⟨by omega, Classical.by_contradiction fun valid => noDivisor ⟨size, denotes, ?_⟩⟩
    omega
  · rintro ⟨⟨natural, bounded⟩, invalid⟩
    rcases Int.eq_ofNat_of_zero_le natural with ⟨size, rfl⟩
    have le : size ≤ 2 ^ 8 - 1 := by omega
    have binds := Store.bind_of_fits (Pool.holds_sizeWidth store) denotes (fits_iff_le.2 le)
    have charged := @Schedule.normalizedFee_of_invalidSize schedule store coins amount _ binds
      (by simp only; omega)
    simp only [perform, Calculator.normalizedFee, charged, Traced.map]

namespace ScheduleOperation

/-- A charge leaves one event when the fee is absent and none otherwise. The event about a
proportional fee has the amount as it was passed and the rate of this fee. The one about the
normalized fee has the numbers that led to it, or it tells of a number of coins without a divisor.
No operation leaves the event about an absent scaled numerator. -/
theorem absence_noted (store : Store) (schedule : Schedule) (origin : Origin) :
    (∀ operation arguments, ∃ event : Event, event.level = .debug ∧
      (perform store (.charge operation) (.schedule schedule origin :: arguments)).Notes event) ∧
    (∀ fee amount, ∃ event : Event,
      (perform store (.charge (.rate fee)) [.schedule schedule origin, amount]).Notes event ∧
      event.name = fee.name ++ "_unrepresentable" ∧
      event.fields = [(fee.amountName, amount),
        ("numerator", .whole (schedule.rate fee).numerator.toNat),
        ("denominator", .whole (schedule.rate fee).denominator.toNat)]) ∧
    (∀ coins amount, ∃ event : Event,
      (perform store (.charge .normalizedTrade) [.schedule schedule origin, coins, amount]).Notes
        event ∧
      ((∃ size : Nat, Pool.HasDivisor store coins size ∧
          event.name = "normalized_trade_fee_unrepresentable" ∧
          event.fields = [("n_coins", coins), ("amount", amount),
            ("adjusted_numerator",
              .whole (schedule.trade.numerator.toNat * size / (4 * (size - 1)) : Nat)),
            ("denominator", .whole schedule.trade.denominator.toNat)]) ∨
        (¬∃ size, Pool.HasDivisor store coins size) ∧
          event.name = "normalized_trade_fee_invalid_pool_size" ∧
          event.fields = [("n_coins", coins)])) ∧
    (∀ coins amount,
      ((perform store (.charge .normalizedTrade)
          [.schedule schedule origin, coins, amount]).events = [.invalidPoolSize coins] →
        (∃ bound, store.bindWord (.whole coinsWidth) coins = .ok bound) ∧
          ¬∃ size, Pool.HasDivisor store coins size) ∧
      ∀ number, store.Denotes coins number →
        ((perform store (.charge .normalizedTrade)
            [.schedule schedule origin, coins, amount]).events = [.invalidPoolSize coins] ↔
          (0 ≤ number ∧ number ≤ 2 ^ 8 - 1) ∧ (number < 2 ∨ 64 < number))) ∧
    ∀ (operation : Operation) (arguments : List Value) (event : Event),
      event ∈ (operation.perform store arguments).outcome.events →
        ∀ coins numerator, event ≠ .adjustedNumeratorAbsent coins numerator := by
  refine ⟨?_, ?_, ?_, ?_, ?_⟩
  · intro operation arguments
    exact perform_charge_notes operation arguments
  · intro fee amount
    exact ⟨_, perform_rate_notes fee amount, rfl, rfl⟩
  · intro coins amount
    rcases @perform_normalized_notes store schedule origin coins amount with
      ⟨size, hasDivisor, notes⟩ | ⟨noDivisor, notes⟩
    · exact ⟨_, notes, .inl ⟨size, hasDivisor, rfl, rfl⟩⟩
    · exact ⟨_, notes, .inr ⟨noDivisor, rfl, rfl⟩⟩
  · intro coins amount
    exact perform_invalidPoolSize
  · intro operation arguments event member
    exact Operation.perform_never_adjusted member

/-- Three coins at a rate of seven without a denominator, and a single coin. -/
theorem absence_noted_of_coins :
    let schedule : Schedule := ⟨⟨0, 0⟩, ⟨0, 0⟩, ⟨7, 0⟩, ⟨0, 0⟩⟩
    (∃ event, (perform .empty (.charge .normalizedTrade)
        [.schedule schedule [], .whole 3, .whole 5]).events = [event] ∧
      event.fields = [("n_coins", .whole 3), ("amount", .whole 5),
        ("adjusted_numerator", .whole 2), ("denominator", .whole 0)]) ∧
      (perform .empty (.charge .normalizedTrade)
          [.schedule schedule [], .whole 1, .text "amount"]).events =
        [.invalidPoolSize (.whole 1)] := by
  have isAbsent : (perform .empty (.charge .normalizedTrade)
      [.schedule ⟨⟨0, 0⟩, ⟨0, 0⟩, ⟨7, 0⟩, ⟨0, 0⟩⟩ [], .whole 3, .whole 5]).result =
        .ok .absent := rfl
  have adjusted_eq : (((7 : UInt64).toNat * 3 / (4 * (3 - 1)) : Nat) : Int) = 2 := by decide
  intro schedule
  rcases absence_noted .empty schedule [] with ⟨_, _, normalized, invalid, _⟩
  have three : Pool.HasDivisor .empty (.whole 3) 3 := ⟨.inl rfl, by decide, by decide⟩
  constructor
  · rcases normalized (.whole 3) (.whole 5) with
      ⟨event, notes, ⟨size, hasDivisor, _, fields_eq⟩ | ⟨noDivisor, _⟩⟩
    · have size_eq := hasDivisor.1.unique three.1
      obtain rfl : size = 3 := by omega
      rw [← adjusted_eq]
      exact ⟨event, notes.events_of_absent isAbsent, fields_eq⟩
    · exact (noDivisor ⟨3, three⟩).elim
  · exact ((invalid (.whole 1) (.text "amount")).2 1 (.inl rfl)).2 (by decide)

end ScheduleOperation

end PoolFees
