import PoolFees.Proofs.Fee.Configured
import PoolFees.Proofs.FixedPoint.Equality

/-!
# Operands that are no amounts

The three operands of multiplying and dividing are bound to amounts one after the other, and only
then is anything computed. So the first operand that denotes no amount decides what the fault is,
whatever the others are, and an operand that denotes no amount never leads to an absent result. A
proportional fee asks the same of its amount, and leaves no event when it is refused.

A loose word that holds no integer is not bound by what it denotes, but by the order of its content.
Of such words nothing is said here.
-/

namespace PoolFees

/-- A list in which something fails has a first item that does. -/
theorem exists_first_failing {α : Type} {holds : α → Prop} {items : List α}
    (fails : ∃ item ∈ items, ¬holds item) :
    ∃ before item after, items = before ++ item :: after ∧ (∀ earlier ∈ before, holds earlier) ∧
      ¬holds item := by
  induction items with
  | nil =>
      rcases fails with ⟨item, member, _⟩
      cases member
  | cons first rest ih =>
      by_cases firstHolds : holds first
      · have restFails : ∃ item ∈ rest, ¬holds item := by
          rcases fails with ⟨item, member, itemFails⟩
          rcases List.mem_cons.1 member with rfl | inRest
          · exact (itemFails firstHolds).elim
          · exact ⟨item, inRest, itemFails⟩
        rcases ih restFails with ⟨before, item, after, rfl, beforeHold, itemFails⟩
        exact ⟨first :: before, item, after, rfl,
          List.forall_mem_cons.2 ⟨firstHolds, beforeHold⟩, itemFails⟩
      · exact ⟨[], first, rest, rfl, nofun, firstHolds⟩

/-- A number outside 64 bits is refused for its range, or for its length where it is too long to be
written. -/
theorem Word.ofIntAt_of_outside {number : Int} (outside : ¬(0 ≤ number ∧ number ≤ 2 ^ 64 - 1)) :
    ∃ fault, ofIntAt MulDiv.amount number = .error fault ∧
      fault.kind = if Numeral.Writable number then .wordOverflow else .value := by
  have widthWritable : Numeral.Writable MulDiv.amountWidth := MulDiv.amount.writable_bits
  have reports : ∀ fault : Fault, fault.numerals = [(MulDiv.amountWidth : Int), number] →
      fault.reported = if Numeral.Writable number then fault else .numeralTooLong := by
    intro fault numerals_eq
    rw [Fault.reported, numerals_eq]
    simp only [List.mem_cons, List.not_mem_nil, or_false, forall_eq_or_imp, forall_eq,
      widthWritable, true_and]
  by_cases negative : number < 0
  · rw [ofIntAt, if_pos negative]
    refine ⟨_, rfl, ?_⟩
    rw [reports _ rfl, apply_ite Fault.kind]
    rfl
  · have tooLarge : ¬Fits MulDiv.amount.bits number.toNat := by
      intro fits
      have bounded : number.toNat ≤ 2 ^ 64 - 1 := fits_iff_le.1 fits
      omega
    rw [ofIntAt, if_neg negative, dif_neg tooLarge]
    refine ⟨_, rfl, ?_⟩
    rw [reports _ rfl, apply_ite Fault.kind]
    rfl

namespace Store

variable {store : Store} {value left right divisor operand : Value}

/-- A value denotes an integer of 64 bits. -/
def DenotesAmount (store : Store) (value : Value) : Prop :=
  ∃ number : Int, store.Denotes value number ∧ 0 ≤ number ∧ number ≤ 2 ^ 64 - 1

/-- The kind of the fault about a value that denotes no amount. The fault about the range would name
the number, so a number that is too long to be written is refused for its length. -/
inductive Offends (store : Store) (value : Value) : FaultKind → Prop where
  | notInteger (notNumber : ∀ number, ¬store.Denotes value number) : Offends store value .type
  | outOfRange {number : Int} (denotes : store.Denotes value number)
      (outside : ¬(0 ≤ number ∧ number ≤ 2 ^ 64 - 1)) (writable : Numeral.Writable number) :
      Offends store value .wordOverflow
  | tooLong {number : Int} (denotes : store.Denotes value number)
      (outside : ¬(0 ≤ number ∧ number ≤ 2 ^ 64 - 1)) (notWritable : ¬Numeral.Writable number) :
      Offends store value .value

theorem Offends.unique {kind otherKind : FaultKind} (offends : store.Offends value kind)
    (other : store.Offends value otherKind) : kind = otherKind := by
  cases offends with
  | notInteger notNumber =>
      cases other with
      | notInteger => rfl
      | outOfRange denotes | tooLong denotes => exact (notNumber _ denotes).elim
  | outOfRange denotes outside writable =>
      cases other with
      | notInteger notNumber => exact (notNumber _ denotes).elim
      | outOfRange => rfl
      | tooLong otherDenotes _ notWritable =>
          exact (notWritable (otherDenotes.unique denotes ▸ writable)).elim
  | tooLong denotes outside notWritable =>
      cases other with
      | notInteger notNumber => exact (notNumber _ denotes).elim
      | outOfRange otherDenotes _ writable =>
          exact (notWritable (denotes.unique otherDenotes ▸ writable)).elim
      | tooLong => rfl

/-- Behind a left operand that is bound the next operand that is refused decides. -/
theorem mulDiv_eq_error_of_right (limits : MulDiv.Limits) {leftWord : Word} {fault : Fault}
    (leftBinds : LooseWord.bind store (.whole MulDiv.amountWidth) left = .ok (.ofWord leftWord))
    (refused : LooseWord.bind store (.whole MulDiv.amountWidth) right = .error fault ∨
      ∃ rightWord,
        LooseWord.bind store (.whole MulDiv.amountWidth) right = .ok (.ofWord rightWord) ∧
        LooseWord.bind store (.whole MulDiv.amountWidth) divisor = .error fault) :
    store.mulDiv limits left right divisor = .error fault := by
  have leftRead : (LooseWord.representation store).bind left = .ok (.ofWord leftWord) := leftBinds
  rw [mulDiv, recordMulDiv_eq_loose, MulDiv.find, MulDiv.call, leftRead,
    MulDiv.Recorded.unseen_bind]
  rcases refused with refused | ⟨rightWord, rightBinds, refused⟩
  · have rightRead : (LooseWord.representation store).bind right = .error fault := refused
    rw [rightRead]
    rfl
  · have rightRead : (LooseWord.representation store).bind right = .ok (.ofWord rightWord) :=
      rightBinds
    have divisorRead : (LooseWord.representation store).bind divisor = .error fault := refused
    rw [rightRead, MulDiv.Recorded.unseen_bind, divisorRead]
    rfl

/-- The first operand that is refused decides, whatever the operands behind it are. -/
theorem mulDiv_eq_error_of_first (limits : MulDiv.Limits) {before after : List Value}
    {fault : Fault} (operands_eq : [left, right, divisor] = before ++ operand :: after)
    (bound : ∀ earlier ∈ before, ∃ word : Word,
      LooseWord.bind store (.whole MulDiv.amountWidth) earlier = .ok (.ofWord word))
    (refused : LooseWord.bind store (.whole MulDiv.amountWidth) operand = .error fault) :
    store.mulDiv limits left right divisor = .error fault := by
  rcases before with _ | ⟨first, _ | ⟨second, _ | ⟨third, rest⟩⟩⟩
  · simp only [List.nil_append, List.cons.injEq] at operands_eq
    rcases operands_eq with ⟨rfl, _⟩
    exact mulDiv_eq_error_of_left limits refused
  · simp only [List.cons_append, List.nil_append, List.cons.injEq] at operands_eq
    rcases operands_eq with ⟨rfl, rfl, _⟩
    rcases bound left List.mem_cons_self with ⟨leftWord, leftBinds⟩
    exact mulDiv_eq_error_of_right limits leftBinds (.inl refused)
  · simp only [List.cons_append, List.nil_append, List.cons.injEq] at operands_eq
    rcases operands_eq with ⟨rfl, rfl, rfl, _⟩
    rw [List.forall_mem_cons, List.forall_mem_singleton] at bound
    rcases bound with ⟨⟨leftWord, leftBinds⟩, rightWord, rightBinds⟩
    exact mulDiv_eq_error_of_right limits leftBinds (.inr ⟨rightWord, rightBinds, refused⟩)
  · have lengths := congrArg List.length operands_eq
    simp only [List.length_append, List.length_cons, List.length_nil] at lengths
    omega

theorem DenotesAmount.binds (amount : store.DenotesAmount value) :
    ∃ word : Word, LooseWord.bind store (.whole MulDiv.amountWidth) value = .ok (.ofWord word) := by
  rcases amount with ⟨number, denotes, natural, bounded⟩
  rcases Int.eq_ofNat_of_zero_le natural with ⟨amount, rfl⟩
  have le : amount ≤ 2 ^ 64 - 1 := by omega
  exact ⟨_, bind_amount denotes (fits_iff_le.2 le)⟩

/-- What denotes no amount is not bound, and the fault tells what is wrong with it. -/
theorem bind_of_notAmount (holds : store.HoldsInteger value)
    (notAmount : ¬store.DenotesAmount value) :
    ∃ fault, LooseWord.bind store (.whole MulDiv.amountWidth) value = .error fault ∧
      store.Offends value fault.kind := by
  by_cases isNumber : ∃ number : Int, store.Denotes value number
  · rcases isNumber with ⟨number, denotes⟩
    have outside : ¬(0 ≤ number ∧ number ≤ 2 ^ 64 - 1) :=
      fun inRange => notAmount ⟨number, denotes, inRange⟩
    rcases Word.ofIntAt_of_outside outside with ⟨fault, refused, kind_eq⟩
    have refusedByInteger : Word.ofInt store.memory MulDiv.amountWidth number = .error fault :=
      (Word.ofInt_of_holds (MulDiv.holds_amount store) number).trans refused
    refine ⟨fault, ?_, ?_⟩
    · rw [LooseWord.bind_of_denotes denotes, refusedByInteger]
      rfl
    · rw [kind_eq]
      split
      · rename_i writable
        exact .outOfRange denotes outside writable
      · rename_i notWritable
        exact .tooLong denotes outside notWritable
  · have notNumber : ∀ number, ¬store.Denotes value number := not_exists.1 isNumber
    refine ⟨.notInteger value.typeName, ?_, .notInteger notNumber⟩
    cases value with
    | whole number => exact (notNumber number (.inl rfl)).elim
    | word bound origin => exact (notNumber bound.value (.inr ⟨_, rfl⟩)).elim
    | looseWord | sharedWord => exact (isNumber (holds rfl)).elim
    | _ => rfl

/-- A calculation is refused for a value: the fault is the one of binding the value to an amount,
and it tells what is wrong with the value. -/
def RefusedFor (store : Store) (value : Value) (outcome : Except Fault Value) : Prop :=
  ∃ fault, outcome = .error fault ∧
    WordOperation.perform store .bindAmount [value] = .error fault ∧
    store.Offends value fault.kind

section Refused

variable (holds : store.HoldsInteger operand) (notAmount : ¬store.DenotesAmount operand)

include holds notAmount

theorem perform_compute_refusedFor (limits : MulDiv.Limits) {before after : List Value}
    (operands_eq : [left, right, divisor] = before ++ operand :: after)
    (amounts : ∀ earlier ∈ before, store.DenotesAmount earlier) :
    store.RefusedFor operand
      (MulDivOperation.perform store (.compute limits) [left, right, divisor]) := by
  rcases bind_of_notAmount holds notAmount with ⟨fault, refused, offends⟩
  have outcome := mulDiv_eq_error_of_first limits operands_eq
    (fun earlier member => (amounts earlier member).binds) refused
  refine ⟨fault, ?_, ?_, offends⟩
  · rw [MulDivOperation.perform, outcome]
    rfl
  · rw [WordOperation.perform, bindWord_whole, refused]
    rfl

theorem perform_charge_refusedFor (schedule : Schedule) (fee : RateFee) (origin : Origin) :
    store.RefusedFor operand (ScheduleOperation.perform store (.charge (.rate fee))
      [.schedule schedule origin, operand]).result ∧
    (ScheduleOperation.perform store (.charge (.rate fee))
      [.schedule schedule origin, operand]).events = [] := by
  rcases bind_of_notAmount holds notAmount with ⟨fault, refused, offends⟩
  have charged : schedule.rateFee store fee operand = .silent (.error fault) := by
    rw [Schedule.rateFee_eq_noting, mulDiv_eq_error_of_left _ refused]
    rfl
  simp only [ScheduleOperation.perform, Calculator.rateFee, charged]
  refine ⟨⟨fault, rfl, ?_, offends⟩, rfl⟩
  rw [WordOperation.perform, bindWord_whole, refused]
  rfl

end Refused

theorem perform_compute_eq_ok (limits : MulDiv.Limits)
    (amounts : ∀ operand ∈ [left, right, divisor], store.DenotesAmount operand) :
    ∃ result, MulDivOperation.perform store (.compute limits) [left, right, divisor] =
      .ok result := by
  rw [List.forall_mem_cons, List.forall_mem_cons, List.forall_mem_singleton] at amounts
  rcases amounts with ⟨leftAmount, rightAmount, divisorAmount⟩
  rcases leftAmount.binds with ⟨leftWord, leftBinds⟩
  rcases rightAmount.binds with ⟨rightWord, rightBinds⟩
  rcases divisorAmount.binds with ⟨divisorWord, divisorBinds⟩
  rw [MulDivOperation.perform, mulDiv_eq_scaled? limits leftBinds rightBinds divisorBinds]
  exact ⟨_, rfl⟩

theorem perform_charge_eq_ok (schedule : Schedule) (fee : RateFee) (origin : Origin)
    (amount : store.DenotesAmount value) :
    ∃ result, (ScheduleOperation.perform store (.charge (.rate fee))
      [.schedule schedule origin, value]).result = .ok result := by
  rcases amount with ⟨number, denotes, natural, bounded⟩
  rcases Int.eq_ofNat_of_zero_le natural with ⟨amount, rfl⟩
  have le : amount ≤ 2 ^ 64 - 1 := by omega
  exact ⟨_, schedule.chargesAt_rate fee store value amount origin denotes (fits_iff_le.2 le)⟩

/-- An operand that denotes no amount is refused, also where the result would be absent whatever it
is, and the first such operand decides. -/
theorem amounts_required (store : Store) :
    (∀ limits left right divisor,
      (∀ operand ∈ [left, right, divisor], store.HoldsInteger operand) →
        ((∃ fault, MulDivOperation.perform store (.compute limits) [left, right, divisor] =
            .error fault) ↔
          ∃ operand ∈ [left, right, divisor], ¬store.DenotesAmount operand)) ∧
    (∀ limits left right divisor before operand after,
      [left, right, divisor] = before ++ operand :: after →
      (∀ earlier ∈ before, store.DenotesAmount earlier) →
      store.HoldsInteger operand → ¬store.DenotesAmount operand →
        store.RefusedFor operand
          (MulDivOperation.perform store (.compute limits) [left, right, divisor])) ∧
    ∀ schedule fee amount origin, store.HoldsInteger amount →
      ((∃ fault, (ScheduleOperation.perform store (.charge (.rate fee))
          [.schedule schedule origin, amount]).result = .error fault) ↔
        ¬store.DenotesAmount amount) ∧
      (¬store.DenotesAmount amount →
        store.RefusedFor amount (ScheduleOperation.perform store (.charge (.rate fee))
          [.schedule schedule origin, amount]).result ∧
        (ScheduleOperation.perform store (.charge (.rate fee))
          [.schedule schedule origin, amount]).events = []) := by
  refine ⟨?_, ?_, ?_⟩
  · intro limits left right divisor hold
    constructor
    · rintro ⟨fault, refused⟩
      apply Classical.by_contradiction
      intro allAmounts
      have amounts : ∀ operand ∈ [left, right, divisor], store.DenotesAmount operand := by
        simpa only [not_exists, not_and, not_not] using allAmounts
      rcases perform_compute_eq_ok limits amounts with ⟨result, accepted⟩
      rw [refused] at accepted
      cases accepted
    · intro someNotAmount
      rcases exists_first_failing someNotAmount with
        ⟨before, operand, after, operands_eq, amounts, notAmount⟩
      have member : operand ∈ [left, right, divisor] := by
        rw [operands_eq]
        exact List.mem_append_right before List.mem_cons_self
      rcases perform_compute_refusedFor (hold operand member) notAmount limits operands_eq amounts
        with ⟨fault, refused, _⟩
      exact ⟨fault, refused⟩
  · intro limits left right divisor before operand after operands_eq amounts holds notAmount
    exact perform_compute_refusedFor holds notAmount limits operands_eq amounts
  · intro schedule fee amount origin holds
    have refusedFor := fun notAmount =>
      perform_charge_refusedFor holds notAmount schedule fee origin
    refine ⟨⟨?_, ?_⟩, refusedFor⟩
    · rintro ⟨fault, refused⟩ isAmount
      rcases perform_charge_eq_ok schedule fee origin isAmount with ⟨result, accepted⟩
      rw [refused] at accepted
      cases accepted
    · intro notAmount
      rcases refusedFor notAmount with ⟨⟨fault, refused, _⟩, _⟩
      exact ⟨fault, refused⟩

/-- A negative left operand in the store decides before a text and before a zero as the divisor, and
a truth value is no amount of a fee. -/
theorem amounts_required_of_shared :
    let store : Store := ⟨[⟨.whole (-1), .whole 8⟩], [], [], .usual⟩
    let schedule : Schedule := ⟨⟨0, 0⟩, ⟨0, 0⟩, ⟨7, 9⟩, ⟨0, 0⟩⟩
    (∃ fault, MulDivOperation.perform store (.compute MulDiv.balanced)
        [.whole 1, .sharedWord 0, .whole 0] = .error fault) ∧
      (∃ fault, MulDivOperation.perform store (.compute MulDiv.imbalanced)
          [.whole 1, .sharedWord 0, .text "0"] = .error fault ∧ fault.kind = .wordOverflow) ∧
      ∃ fault, ScheduleOperation.perform store (.charge (.rate .trade))
          [.schedule schedule [], .truth true] = .silent (.error fault) ∧ fault.kind = .type := by
  intro store schedule
  rcases amounts_required store with ⟨refuses_iff, firstDecides, fees⟩
  have denotes : store.Denotes (.sharedWord 0) (-1) := .inr ⟨.whole 8, rfl⟩
  have holds : store.HoldsInteger (.sharedWord 0) := fun _ => ⟨-1, denotes⟩
  have notAmount : ¬store.DenotesAmount (.sharedWord 0) := by
    rintro ⟨number, otherDenotes, natural, _⟩
    rw [otherDenotes.unique denotes] at natural
    exact absurd natural (by decide)
  have truthNotNumber : ∀ number, ¬store.Denotes (.truth true) number := by
    rintro number (same | ⟨_, found⟩)
    · cases same
    · cases found
  have one : store.DenotesAmount (.whole 1) := ⟨1, .inl rfl, by decide, by decide⟩
  refine ⟨?_, ?_, ?_⟩
  · have allHold : ∀ operand ∈ [.whole 1, .sharedWord 0, .whole 0], store.HoldsInteger operand := by
      rw [List.forall_mem_cons, List.forall_mem_cons, List.forall_mem_singleton]
      exact ⟨nofun, holds, nofun⟩
    rw [refuses_iff MulDiv.balanced _ _ _ allHold]
    exact ⟨.sharedWord 0, by simp, notAmount⟩
  · have earlier : ∀ earlier ∈ [.whole 1], store.DenotesAmount earlier :=
      List.forall_mem_singleton.2 one
    rcases firstDecides MulDiv.imbalanced (.whole 1) (.sharedWord 0) (.text "0") [.whole 1] _ _ rfl
      earlier holds notAmount with ⟨fault, refused, _, offends⟩
    have outOfRange : store.Offends (.sharedWord 0) .wordOverflow :=
      .outOfRange denotes (by decide) (by decide +kernel)
    exact ⟨fault, refused, offends.unique outOfRange⟩
  · have notAmount : ¬store.DenotesAmount (.truth true) :=
      fun ⟨number, denotes, _⟩ => truthNotNumber number denotes
    rcases (fees schedule .trade (.truth true) [] nofun).2 notAmount with
      ⟨⟨fault, refused, _, offends⟩, noEvents⟩
    refine ⟨fault, ?_, offends.unique (.notInteger truthNotNumber)⟩
    rw [Traced.silent, ← refused, ← noEvents]

/-- A left operand that is too long to be written is refused for its length: the fault about the
range cannot be worded. -/
theorem refusal_of_long_number :
    let long : Value := .whole (Nat.pow 10 Numeral.maxDigits)
    (∃ fault, MulDivOperation.perform .empty (.compute MulDiv.balanced)
        [long, .whole 1, .whole 1] = .error fault ∧ fault.kind = .value) ∧
      ¬∃ fault, MulDivOperation.perform .empty (.compute MulDiv.balanced)
        [long, .whole 1, .whole 1] = .error fault ∧ fault.kind = .wordOverflow := by
  intro long
  have refused : Store.empty.mulDiv MulDiv.balanced long (.whole 1) (.whole 1) =
      .error .numeralTooLong := by decide +kernel
  rw [MulDivOperation.perform, refused]
  refine ⟨⟨_, rfl, rfl⟩, ?_⟩
  rintro ⟨fault, same, kind_eq⟩
  cases same
  cases kind_eq

end Store

end PoolFees
