import Mathlib.Data.List.Sort
import PoolFees.Proofs.Form.Filling

/-!
# Lists of amounts

A list of amounts is read item by item, and every item is read as it is when it stands alone. How
the results and the complaints follow the order of the items is known of every validator from
`PoolFees.Proofs.Validation.Reading`. What is known of amounts alone is that their validator gives
the same answer as reading a value by itself, and that nothing is lost of what it says.
-/

namespace PoolFees

theorem AmountFault.writable_of_reported {fault : AmountFault} {number : Int}
    (shown : number ∈ fault.reported.numerals) : Numeral.Writable number := by
  unfold reported at shown
  split at shown
  · rename_i writable
    exact writable number shown
  · cases shown

namespace Amount

variable {value : Value}

theorem exists_reported_of_ofInt {given : Shown} {number : Int} {fault : AmountFault}
    (refused : ofInt given number = .error fault) :
    ∃ cause : AmountFault, fault = cause.reported := by
  rcases integer_cases number with negative | ⟨amount, rfl⟩ | above
  · rw [ofInt_of_negative negative] at refused
    cases refused
    exact ⟨_, rfl⟩
  · rw [ofInt_amount] at refused
    cases refused
  · rw [ofInt_of_tooLarge above] at refused
    cases refused
    exact ⟨_, rfl⟩

/-- The fault about a value is reported as it is. -/
theorem reported_of_ofValue {fault : AmountFault} (refused : ofValue value = .error fault) :
    (Fault.amount fault).reported = .amount fault := by
  have writable : ∀ number ∈ fault.numerals, Numeral.Writable number := by
    intro number shown
    unfold ofValue at refused
    split at refused
    · rcases exists_reported_of_ofInt refused with ⟨cause, rfl⟩
      exact AmountFault.writable_of_reported shown
    · split at refused
      · rcases exists_reported_of_ofInt refused with ⟨cause, rfl⟩
        exact AmountFault.writable_of_reported shown
      · cases refused
        cases shown
    · cases refused
      cases shown
  exact if_pos writable

theorem validate_eq_ok_iff {amount : UInt64} :
    validate value = .ok amount ↔ ofValue value = .ok amount := by
  unfold validate
  cases ofValue value <;> simp [Except.mapError]

theorem validate_eq_error_iff {cause : ComplaintCause} : validate value = .error cause ↔
    ∃ fault, ofValue value = .error fault ∧ cause = .amount fault := by
  unfold validate
  cases ofValue value <;> simp [Except.mapError, eq_comm]

end Amount

namespace FormOperation

variable {store : Store} {value : Value}

/-- What comes of reading a value as an amount when it stands alone. -/
def readAlone (store : Store) (value : Value) : Except Fault Value :=
  (perform store readAmount [value]).outcome.result

theorem readAlone_of_accepted {amount : UInt64} (accepts : Amount.ofValue value = .ok amount) :
    readAlone store value = .ok (.whole amount.toNat) := by
  simp only [readAlone, perform, Effect.answer, Effect.pure, Traced.silent, accepts]

theorem readAlone_of_refused {fault : AmountFault}
    (refused : Amount.ofValue value = .error fault) :
    readAlone store value = .error (.amount fault) := by
  simp only [readAlone, perform, Effect.answer, Effect.pure, Traced.silent, refused, refuse,
    Amount.reported_of_ofValue refused]

theorem isRefused_iff_readAlone : Validation.isRefused Amount.validate value = true ↔
    ∃ fault, readAlone store value = .error fault := by
  rw [Validation.isRefused_iff]
  constructor
  · rintro ⟨cause, refused⟩
    rcases Amount.validate_eq_error_iff.1 refused with ⟨fault, alone, _⟩
    exact ⟨_, readAlone_of_refused alone⟩
  · rintro ⟨fault, refused⟩
    cases read : Amount.ofValue value with
    | ok amount =>
        rw [readAlone_of_accepted read] at refused
        cases refused
    | error cause => exact ⟨_, Amount.validate_eq_error_iff.2 ⟨cause, read, rfl⟩⟩

theorem not_isRefused_of_readAlone {result : Value} (accepts : readAlone store value = .ok result) :
    Validation.isRefused Amount.validate value = false := by
  rw [Bool.eq_false_iff]
  intro refused
  rcases (@isRefused_iff_readAlone store value).1 refused with ⟨fault, refuses⟩
  cases accepts.symm.trans refuses

/-- A complaint tells why the item at a position of a list is refused when it stands alone. -/
def TellsWhy (store : Store) (items : List Value) (position : Nat) (complaint : Complaint) : Prop :=
  ∃ item fault, items[position]? = some item ∧ readAlone store item = .error fault ∧
    complaint.parts = ("value_error", [.key "values", .index position],
      "Value error, " ++ fault.message)

theorem perform_of_accepted {items : List Value} (origin : Origin)
    (accepts : ∀ item ∈ items, ∃ result, readAlone store item = .ok result) :
    ∃ amounts : List UInt64,
      List.Forall₂ (fun item amount => readAlone store item = .ok (.whole amount.toNat))
        items amounts ∧
      perform store readAmounts [.list items origin] =
        .answer store (.ok (.list (amounts.map fun amount => .whole amount.toNat) [])) := by
  have kept : ∀ item ∈ items, Validation.isRefused Amount.validate item = false := by
    intro item member
    rcases accepts item member with ⟨_, accepted⟩
    exact not_isRefused_of_readAlone accepted
  rcases @Validation.readList_of_accepted _ Amount.listTitle Amount.listKey _ _ origin kept with
    ⟨amounts, given, read⟩
  refine ⟨amounts, given.imp ?_, by simp only [perform, Amount.ofList, read]⟩
  intro item amount accepted
  exact readAlone_of_accepted (Amount.validate_eq_ok_iff.1 accepted)

theorem perform_of_refusedItem {items : List Value} (origin : Origin)
    (refuses : ∃ item ∈ items, ∃ fault, readAlone store item = .error fault) :
    ∃ (report : Report) (positions : List Nat),
      perform store readAmounts [.list items origin] = .answer store (.error (.invalid report)) ∧
      positions.Pairwise (· < ·) ∧
      (∀ position, position ∈ positions ↔
        ∃ item fault, items[position]? = some item ∧ readAlone store item = .error fault) ∧
      List.Forall₂ (TellsWhy store items) positions report.complaints := by
  have someRefused : ∃ item ∈ items, Validation.isRefused Amount.validate item = true := by
    rcases refuses with ⟨item, member, refused⟩
    exact ⟨item, member, isRefused_iff_readAlone.2 refused⟩
  refine ⟨⟨Amount.listTitle,
      Validation.complaintsOf (items.mapIdx (Validation.readItem Amount.listKey Amount.validate))⟩,
    (Validation.refusals Amount.validate items).map Prod.snd, ?_,
    Validation.refusals_increase Amount.validate items, ?_, ?_⟩
  · simp only [perform, Amount.ofList, Validation.readList_of_refused origin someRefused, refuse,
      Fault.reported, Fault.numerals, List.not_mem_nil, false_imp_iff, implies_true, if_true]
  · intro position
    simp only [List.mem_map, Prod.exists, Validation.mem_refusals_iff, exists_eq_right,
      @isRefused_iff_readAlone store, exists_and_left]
  · rw [List.forall₂_map_left_iff]
    refine (Validation.complaintsOf_items Amount.listKey Amount.validate items).imp ?_
    rintro ⟨item, position⟩ complaint ⟨found, cause, refused, rfl⟩
    rcases Amount.validate_eq_error_iff.1 refused with ⟨fault, alone, rfl⟩
    exact ⟨item, _, found, readAlone_of_refused alone, rfl⟩

/-- A list of amounts is accepted exactly when each of its items is accepted alone, and gives the
amounts of the items in their order. Otherwise it is refused with one complaint for each item that
is refused alone, in the order of the positions of these items, and each complaint tells the
position of its item and what is wrong with it. -/
theorem perform_readAmounts (store : Store) (items : List Value) (origin : Origin) :
    let listed := perform store readAmounts [.list items origin]
    ((∃ result, listed.outcome.result = .ok result) ↔
      ∀ item ∈ items, ∃ result, readAlone store item = .ok result) ∧
    ((∀ item ∈ items, ∃ result, readAlone store item = .ok result) →
      ∃ amounts : List UInt64,
        List.Forall₂ (fun item amount => readAlone store item = .ok (.whole amount.toNat))
          items amounts ∧
        listed = .answer store (.ok (.list (amounts.map fun amount => .whole amount.toNat) []))) ∧
    ((∃ item ∈ items, ∃ fault, readAlone store item = .error fault) →
      ∃ (report : Report) (positions : List Nat),
        listed = .answer store (.error (.invalid report)) ∧
        positions.Pairwise (· < ·) ∧
        (∀ position, position ∈ positions ↔
          ∃ item fault, items[position]? = some item ∧ readAlone store item = .error fault) ∧
        List.Forall₂ (TellsWhy store items) positions report.complaints) := by
  intro listed
  refine ⟨⟨?_, ?_⟩, perform_of_accepted origin, perform_of_refusedItem origin⟩
  · rintro ⟨result, succeeds⟩ item member
    cases read : readAlone store item with
    | ok result => exact ⟨result, rfl⟩
    | error fault =>
        rcases perform_of_refusedItem origin ⟨item, member, fault, read⟩ with ⟨_, _, refused, _⟩
        rw [show listed = _ from refused] at succeeds
        cases succeeds
  · intro accepts
    rcases perform_of_accepted origin accepts with ⟨_, _, performs⟩
    rw [show listed = _ from performs]
    exact ⟨_, rfl⟩

/-- A truth value and a text that is no numeral are reported at their own positions among items that
are accepted, and without them the list is accepted. -/
theorem perform_readAmounts_of_mixed :
    (∃ report : Report,
      perform .empty readAmounts [.list [.text " 3 ", .truth true, .whole 7, .text "x"] []] =
        .answer .empty (.error (.invalid report)) ∧
      report.complaints.map Complaint.parts =
        [("value_error", [.key "values", .index 1],
            "Value error, Uint64 must be string or int, got bool"),
          ("value_error", [.key "values", .index 3],
            "Value error, Uint64 must be a decimal integer string: 'x'")]) ∧
    perform .empty readAmounts [.list [.text " 3 ", .whole 7] []] =
      .answer .empty (.ok (.list [.whole 3, .whole 7] [])) := by
  have three : readAlone .empty (.text " 3 ") = .ok (.whole 3) := rfl
  have seven : readAlone .empty (.whole 7) = .ok (.whole 7) := rfl
  have truth : readAlone .empty (.truth true) = .error (.amount (.wrongType "bool")) := rfl
  have letter : readAlone .empty (.text "x") = .error (.amount (.notNumeral "x")) := rfl
  constructor
  · rcases (perform_readAmounts .empty [.text " 3 ", .truth true, .whole 7, .text "x"] []).2.2
      ⟨.truth true, by simp, _, truth⟩ with ⟨report, positions, refused, increase, refusals, told⟩
    have positions_eq : positions = [1, 3] := by
      apply increase.eq_of_mem_iff (by decide)
      intro position
      rw [refusals]
      rcases position with _ | _ | _ | _ | position <;> simp [three, truth, seven, letter]
    rw [positions_eq, List.forall₂_cons_left_iff] at told
    rcases told with ⟨first, rest, ⟨_, _, found, read, firstParts⟩, told, complaints_eq⟩
    rw [List.forall₂_cons_left_iff] at told
    rcases told with ⟨second, others, ⟨_, _, otherFound, otherRead, secondParts⟩, told, rfl⟩
    rw [List.forall₂_nil_left_iff] at told
    cases found
    cases otherFound
    cases truth.symm.trans read
    cases letter.symm.trans otherRead
    refine ⟨report, refused, ?_⟩
    rw [complaints_eq, told, List.map_cons, List.map_singleton, firstParts, secondParts]
    rfl
  · rcases (perform_readAmounts .empty [.text " 3 ", .whole 7] []).2.1
      (by simp [three, seven]) with ⟨amounts, given, performs⟩
    rw [List.forall₂_cons_left_iff] at given
    rcases given with ⟨first, rest, firstRead, given, rfl⟩
    rw [List.forall₂_cons_left_iff] at given
    rcases given with ⟨second, others, secondRead, given, rfl⟩
    rw [List.forall₂_nil_left_iff] at given
    have firstValue := Except.ok.inj (firstRead.symm.trans three)
    have secondValue := Except.ok.inj (secondRead.symm.trans seven)
    rw [performs, given, List.map_cons, List.map_singleton, firstValue, secondValue]

end FormOperation

end PoolFees
