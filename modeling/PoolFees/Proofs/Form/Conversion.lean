import Mathlib.Algebra.Group.Int.Defs
import Mathlib.Algebra.Group.Nat.Defs
import PoolFees.Proofs.Fee.Configured

/-!
# Making schedules of unchecked values

A schedule is made of eight values of any type. `Schedule.Validates` says what comes of it: the
schedule with exactly these values when all of them are integers of 64 bits, and otherwise a fault
whose kind is decided by the first value, in the order of the fields, that is not.

A form is turned into a schedule in this way when it has an entry for each field and no entry that
hides what is needed for it. Whatever else was assigned to the form makes no difference.
-/

namespace PoolFees

namespace Value

/-- A value is an integer of 64 bits. Truth values are not integers. -/
def IsAmount (value : Value) : Prop :=
  ∃ number : Int, value = .whole number ∧ 0 ≤ number ∧ number ≤ 2 ^ 64 - 1

theorem isAmount_iff {value : Value} :
    value.IsAmount ↔ ∃ amount : UInt64, value = .whole amount.toNat := by
  constructor
  · rintro ⟨number, rfl, natural, bounded⟩
    have below : number.toNat < UInt64.size := by
      rw [UInt64.size]
      omega
    refine ⟨UInt64.ofNatLT number.toNat below, ?_⟩
    rw [UInt64.toNat_ofNatLT, Int.toNat_of_nonneg natural]
  · rintro ⟨amount, rfl⟩
    have bounded : amount.toNat < 2 ^ 64 := amount.toNat_lt
    exact ⟨amount.toNat, rfl, by omega, by omega⟩

/-- The kind of the fault about a value that is not an integer of 64 bits. A number that is too long
to be written cannot be told in the fault about its range. -/
inductive Offends : Value → FaultKind → Prop where
  | notInteger {value : Value} (notWhole : ∀ number, value ≠ .whole number) : Offends value .type
  | outOfRange {number : Int} (outside : ¬(0 ≤ number ∧ number ≤ 2 ^ 64 - 1))
      (writable : Numeral.Writable number) : Offends (.whole number) .feeSchedule
  | tooLong {number : Int} (outside : ¬(0 ≤ number ∧ number ≤ 2 ^ 64 - 1))
      (notWritable : ¬Numeral.Writable number) : Offends (.whole number) .value

end Value

namespace Schedule

variable {values : Field → Value} {field : Field} {value : Value} {fault : Fault}

theorem offends_of_numberOf (refused : numberOf field value = .error fault) :
    value.Offends fault.kind := by
  unfold numberOf at refused
  split at refused
  · split at refused
    · cases refused
    · rename_i number notInRange
      have outside : ¬(0 ≤ number ∧ number ≤ 2 ^ 64 - 1) := by
        rw [UInt64.size] at notInRange
        omega
      rw [← Except.error.inj refused, Fault.reported, Fault.numerals]
      simp only [List.forall_mem_singleton]
      split
      · rename_i writable
        exact .outOfRange outside writable
      · rename_i notWritable
        exact .tooLong outside notWritable
  · rename_i notWhole
    rw [← Except.error.inj refused]
    exact .notInteger notWhole

/-- A check of several fields in order fails at the first one that fails. -/
theorem forM_eq_error {fields : List Field}
    (refused : (fields.forM fun field => (numberOf field (values field)).map fun _ => ()) =
      .error fault) :
    ∃ before field after, fields = before ++ field :: after ∧
      (∀ earlier ∈ before, (values earlier).IsAmount) ∧ (values field).Offends fault.kind := by
  induction fields with
  | nil => cases refused
  | cons first rest ih =>
      cases checked : numberOf first (values first) with
      | error other =>
          simp only [List.forM, checked] at refused
          cases refused
          refine ⟨[], first, rest, rfl, ?_, offends_of_numberOf checked⟩
          intro earlier member
          cases member
      | ok number =>
          simp only [List.forM, checked] at refused
          rcases ih refused with ⟨before, field, after, rfl, earlierAmounts, offends⟩
          refine ⟨first :: before, field, after, rfl, ?_, offends⟩
          rw [List.forall_mem_cons]
          exact ⟨Value.isAmount_iff.2 ⟨number, numberOf_eq_ok_iff.1 checked⟩, earlierAmounts⟩

/-- What comes of making a schedule of eight values. -/
structure Validates (values : Field → Value) (outcome : Except Fault Schedule) : Prop where
  succeeds_iff : (∃ schedule, outcome = .ok schedule) ↔ ∀ field, (values field).IsAmount
  yields : ∀ schedule, outcome = .ok schedule →
    ∀ field, values field = .whole (schedule.get field).toNat
  refuses : ∀ fault, outcome = .error fault → ∃ before field after,
    Field.all = before ++ field :: after ∧ (∀ earlier ∈ before, (values earlier).IsAmount) ∧
      (values field).Offends fault.kind

theorem ofValues_validates (values : Field → Value) : Validates values (ofValues values) := by
  constructor
  case succeeds_iff =>
    rw [ofValues_succeeds_iff]
    simp only [Value.isAmount_iff]
  case yields =>
    intro schedule made
    rcases Classical.skolem.1 (ofValues_succeeds_iff.1 ⟨schedule, made⟩) with ⟨amounts, values_eq⟩
    obtain rfl : values = fun field => .whole (amounts field).toNat := funext values_eq
    rw [ofValues_amounts] at made
    cases made
    intro field
    rw [get_ofFields]
  case refuses =>
    intro fault refused
    rw [ofValues] at refused
    cases checked : Field.all.forM fun field => (numberOf field (values field)).map fun _ => () with
    | error other =>
        rw [checked] at refused
        cases refused
        exact forM_eq_error checked
    | ok =>
        rw [checked] at refused
        cases refused

end Schedule

namespace Value

variable {value : Value}

/-- What an entry of a form is outlined as is an integer only when the entry is. -/
theorem outline_eq_whole_iff {number : Int} :
    value.outline = .whole number ↔ value = .whole number := by
  cases value <;> simp [outline]

theorem isAmount_outline_iff : value.outline.IsAmount ↔ value.IsAmount := by
  simp only [IsAmount, outline_eq_whole_iff]

theorem offends_of_outline {kind : FaultKind} (offends : value.outline.Offends kind) :
    value.Offends kind := by
  generalize outlined : value.outline = outline at offends
  cases offends with
  | notInteger notWhole =>
      refine .notInteger ?_
      intro number isWhole
      rw [outline_eq_whole_iff.2 isWhole] at outlined
      exact notWhole number outlined.symm
  | outOfRange outside writable =>
      rw [outline_eq_whole_iff.1 outlined]
      exact .outOfRange outside writable
  | tooLong outside notWritable =>
      rw [outline_eq_whole_iff.1 outlined]
      exact .tooLong outside notWritable

end Value

/-- What comes of the outlines of eight values comes of the values. -/
theorem Schedule.Validates.of_outline {values : Field → Value} {outcome : Except Fault Schedule}
    (validates : Validates (fun field => (values field).outline) outcome) :
    Validates values outcome := by
  constructor
  case succeeds_iff =>
    rw [validates.succeeds_iff]
    simp only [Value.isAmount_outline_iff]
  case yields =>
    intro schedule made field
    exact Value.outline_eq_whole_iff.1 (validates.yields schedule made field)
  case refuses =>
    intro fault refused
    rcases validates.refuses fault refused with ⟨before, field, after, all_eq, amounts, offends⟩
    refine ⟨before, field, after, all_eq, ?_, Value.offends_of_outline offends⟩
    intro earlier member
    exact Value.isAmount_outline_iff.1 (amounts earlier member)

/-- Entries of which a schedule can be made, if their values allow it: there is one for each field,
and none hides what is needed. -/
structure Entries.IsConvertible (entries : Entries) : Prop where
  complete : ∀ field : Field, (entries.lookup field.name).isSome = true
  unhidden : ∀ ability ∈ [Form.Ability.schedule, .record], entries.lookup ability.name = none

theorem Form.toSchedule_validates {entries : Entries} (convertible : entries.IsConvertible) :
    Schedule.Validates (fun field => (entries.lookup field.name).getD .absent)
      (toSchedule entries) := by
  have complete : (Field.all.filter fun field => (entries.lookup field.name).isNone) = [] := by
    rw [List.filter_eq_nil_iff]
    intro field _
    rw [Option.isNone_iff_eq_none, ← Option.not_isSome_iff_eq_none, convertible.complete field]
    exact not_not_intro rfl
  have made : toSchedule entries = Schedule.ofValues fun field =>
      ((entries.lookup field.name).getD .absent).outline := by
    rw [toSchedule, Entries.checkAbilities_of_unhidden convertible.unhidden]
    change entries.toSchedule = _
    rw [Entries.toSchedule, complete]
  rw [made]
  exact (Schedule.ofValues_validates _).of_outline

theorem Store.fieldValue_of_lookup {store : Store} {handle : Nat} {entries : Entries}
    {field : Field} {value : Value} (found : store.entries? handle = some entries)
    (entry : entries.lookup field.name = some value) :
    store.fieldValue handle field = .ok value := by
  rcases Option.bind_eq_some_iff.1 found with ⟨form, known, _⟩
  simp only [fieldValue, member, Validation.member, known, found, entry]

theorem FormOperation.perform_toSchedule {store : Store} {handle : Nat} {entries : Entries}
    (found : store.entries? handle = some entries) :
    perform store toSchedule [.form handle] =
      .answer store ((Form.toSchedule entries).map (.schedule · [])) := by
  simp only [perform, entriesOf, found]
  rfl

end PoolFees
