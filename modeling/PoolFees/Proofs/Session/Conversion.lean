import PoolFees.Proofs.Form.Conversion
import PoolFees.Proofs.Session.Closed

/-!
# Converting in a session

Forms are changed without a check, and a schedule is checked when it is made. As long as no record
becomes the entries of a form, every form has an entry for each field and nothing hides how it is
turned into a schedule, whatever is assigned to it under other names. So what comes of a conversion
is decided by the eight values alone, at any point of a run.
-/

namespace PoolFees

theorem Entries.lookup_map (entries : Entries) (change : Value → Value) (name : String) :
    (entries.map fun (name, value) => (name, change value)).lookup name =
      (entries.lookup name).map change := by
  induction entries with
  | nil => rfl
  | cons entry rest ih =>
      rw [List.map_cons, List.lookup_cons, List.lookup_cons]
      split
      · rfl
      · exact ih

namespace Entries.IsConvertible

variable {entries : Entries}

theorem entriesOf (amounts : Field → UInt64) :
    (Form.entriesOf amounts : Entries).IsConvertible := by
  constructor
  · intro field
    rw [Form.lookup_entriesOf]
    rfl
  · intro ability _
    exact Form.lookup_entriesOf_ability amounts ability

/-- What is put among the entries must not hide how a schedule is made. -/
theorem put (convertible : entries.IsConvertible) {name : String} (value : Value)
    (hidesNot : ∀ ability ∈ [Form.Ability.schedule, .record], ability.name ≠ name) :
    Entries.IsConvertible (entries.put name value) := by
  constructor
  · intro field
    by_cases same : field.name = name
    · rw [same, lookup_put_same]
      rfl
    · rw [lookup_put_other entries same]
      exact convertible.complete field
  · intro ability needed
    rw [lookup_put_other entries (hidesNot ability needed)]
    exact convertible.unhidden ability needed

theorem map (convertible : entries.IsConvertible) (change : Value → Value) :
    Entries.IsConvertible (entries.map fun (name, value) => (name, change value)) := by
  constructor
  · intro field
    rw [lookup_map, Option.isSome_map]
    exact convertible.complete field
  · intro ability needed
    rw [lookup_map, convertible.unhidden ability needed]
    rfl

end Entries.IsConvertible

namespace Store

variable {store : Store}

/-- Every form has entries of which a schedule can be made, if their values allow it. -/
def Convertible (store : Store) : Prop :=
  ∀ form ∈ store.forms, ∃ entries, store.records[form.entries]? = some entries ∧
    entries.IsConvertible

namespace Convertible

theorem entries? (convertible : store.Convertible) {handle : Nat} {entries : Entries}
    (found : store.entries? handle = some entries) : entries.IsConvertible := by
  rcases Option.bind_eq_some_iff.1 found with ⟨form, known, found⟩
  rcases convertible form (List.mem_of_getElem? known) with ⟨others, othersFound, isConvertible⟩
  cases found.symm.trans othersFound
  exact isConvertible

theorem addForm (convertible : store.Convertible) (amounts : Field → UInt64) :
    (store.addForm (Form.entriesOf amounts)).Convertible := by
  unfold Convertible
  rw [Store.addForm, List.forall_mem_append, List.forall_mem_singleton]
  constructor
  · intro form member
    rcases convertible form member with ⟨entries, found, isConvertible⟩
    rcases List.getElem?_eq_some_iff.1 found with ⟨inRange, _⟩
    exact ⟨entries, (List.getElem?_append_left inRange).trans found, isConvertible⟩
  · exact ⟨_, List.getElem?_concat_length, .entriesOf amounts⟩

theorem put (convertible : store.Convertible) (handle : Nat) {name : String} (value : Value)
    (hidesNot : ∀ ability ∈ [Form.Ability.schedule, .record], ability.name ≠ name) :
    (store.put handle name value).Convertible := by
  unfold Store.put
  split
  · rename_i changed known
    intro form member
    rcases convertible form member with ⟨entries, found, isConvertible⟩
    change ∃ entries, (store.records.modify changed.entries _)[form.entries]? = _ ∧ _
    rw [List.getElem?_modify, found]
    split
    · exact ⟨_, rfl, isConvertible.put value hidesNot⟩
    · exact ⟨_, rfl, isConvertible⟩
  · exact convertible

theorem modifyForm (convertible : store.Convertible) {change : Form → Form}
    (sameEntries : ∀ form, (change form).entries = form.entries) (handle : Nat) :
    (store.modifyForm handle change).Convertible := by
  refine forall_mem_modify convertible ?_ handle
  intro form isConvertible
  rw [sameEntries]
  exact isConvertible

theorem replace (convertible : store.Convertible) (replacement : Replacement) :
    (store.replace replacement).Convertible := by
  unfold Convertible
  rw [Store.replace, Store.map, List.forall_mem_map]
  intro form member
  rcases convertible form member with ⟨entries, found, isConvertible⟩
  refine ⟨_, ?_, isConvertible.map replacement.apply⟩
  rw [List.getElem?_map, found]
  rfl

end Convertible

end Store

/-- What comes of turning a form into a schedule is decided by the values in its fields. -/
def Store.Converts (store : Store) (handle : Nat) : Prop :=
  ∃ values outcome, (∀ field, store.fieldValue handle field = .ok (values field)) ∧
    FormOperation.perform store .toSchedule [.form handle] =
      .answer store (outcome.map (.schedule · [])) ∧
    Schedule.Validates values outcome

theorem Store.converts {store : Store} {handle : Nat} {entries : Entries}
    (found : store.entries? handle = some entries) (convertible : entries.IsConvertible) :
    store.Converts handle := by
  refine ⟨_, _, ?_, FormOperation.perform_toSchedule found, Form.toSchedule_validates convertible⟩
  intro field
  rcases Option.isSome_iff_exists.1 (convertible.complete field) with ⟨value, entry⟩
  rw [fieldValue_of_lookup found entry, entry, Option.getD_some]

/-- Nothing that is assigned to a form but all entries at once hides how a schedule is made. -/
theorem Assignment.Does.convertible {store : Store} {receiver value : Value} {name : String}
    {effect : Effect} (does : Does store value receiver name effect)
    (notEntries : name ≠ Form.entriesName) (convertible : store.Convertible) :
    effect.store.Convertible := by
  cases does with
  | refuse | setWord => exact convertible
  | moveWord => exact convertible.replace _
  | setField handle field =>
      have puts : (store.put handle field.name value).Convertible := by
        apply convertible.put handle value
        intro ability _
        exact field.name_ne_ability ability
      simp only [Form.assignField]
      split
      · exact puts
      · exact puts
  | setEntries => exact (notEntries rfl).elim
  | setReserved handle notField reserved =>
      have hidesNot : ∀ ability ∈ [PoolFees.Form.Ability.schedule, .record],
          ability.name ≠ name := by
        have isPublic : ∀ ability ∈ [PoolFees.Form.Ability.schedule, .record],
            isReserved ability.name = false := by decide +kernel
        rintro ability needed rfl
        rw [isPublic ability needed] at reserved
        cases reserved
      change (Form.assignReserved store handle name value).Convertible
      unfold Form.assignReserved
      split
      · refine convertible.modifyForm ?_ handle
        intro form
        rfl
      · split
        · refine convertible.modifyForm ?_ handle
          intro form
          rfl
        · split
          · refine convertible.modifyForm ?_ handle
            intro form
            rfl
          · exact convertible.put handle value hidesNot

theorem Value.eq_form_of_identity? {value : Value} {handle : Nat}
    (isForm : value.identity? = some (.form handle)) : value = .form handle := by
  have notMade (origin : Origin) : origin.identity? ≠ some (.form handle) := by
    cases origin <;> simp [Origin.identity?]
  cases value with
  | form =>
      cases isForm
      rfl
  | real | list | record | word | looseWord | fixedPoint | looseFixedPoint | schedule | calculator
  | capability => exact (notMade _ isForm).elim
  | _ => cases isForm

namespace Session

variable {session : Session} {request : Request}

theorem convertible_after (convertible : session.store.Convertible)
    (notEntries : ∀ receiver name value, session.Assigns request receiver name value →
      name ≠ Assignment.Form.entriesName) : (session.after request).store.Convertible := by
  have step := session.step_after request
  generalize session.after request = next at step
  cases step with
  | answer => exact convertible
  | fill amounts => exact convertible.addForm amounts
  | assign assigns does => exact does.convertible (notEntries _ _ _ assigns) convertible

theorem start_convertible : start.store.Convertible := by
  intro form member
  cases member

/-- Every form that an argument stands for has entries. -/
theorem Closed.entries?_isSome (closed : session.Closed) {origin : Origin} {argument : Argument}
    {handle : Nat} (evaluates : session.evaluate origin argument = .ok (.form handle)) :
    ∃ entries, session.store.entries? handle = some entries := by
  have isKnown : handle < session.store.forms.length :=
    (closed.evaluate evaluates).here _ rfl
  have known : session.store.form? handle = some session.store.forms[handle] :=
    List.getElem?_eq_getElem isKnown
  have inRange := closed.store.entries _ (List.getElem_mem isKnown)
  refine ⟨session.store.records[session.store.forms[handle].entries], ?_⟩
  rw [Store.entries?, known]
  exact List.getElem?_eq_getElem inRange

/-- Every schedule has eight integers of 64 bits, and no fee on an amount of 64 bits in proportion
to one of its rates is refused. What comes of turning a form into a schedule is decided by the eight
values in its fields, when the form has an entry for each field and none that hides how this is
done; all forms do in a run that never assigns all entries of a form at once. Eight bare values are
decided about in the same way. -/
theorem conversion_of_run (requests : List Request) :
    let session := start.run requests
    (∀ (rates : Schedule) (origin : Origin) (position : Nat), position < Field.all.length →
      ∃ number : Value, number.IsAmount ∧
        FormOperation.perform session.store .entry [.schedule rates origin, .whole position] =
          .answer session.store (.ok number)) ∧
    (∀ handle entries, session.store.entries? handle = some entries → entries.IsConvertible →
      session.store.Converts handle) ∧
    (start.AssignsOnly (· ≠ Assignment.Form.entriesName) requests →
      ∀ origin argument handle, session.evaluate origin argument = .ok (.form handle) →
        session.store.Converts handle) ∧
    (∀ (values : Field → Value) (origin : Origin), ∃ outcome,
      ScheduleOperation.perform session.store .make [.list (Field.all.map values) origin] =
        .silent (outcome.map (.schedule · [])) ∧ Schedule.Validates values outcome) ∧
    ∀ (rates : Schedule) (origin : Origin) (fee : RateFee) (amount : Value) (number : Nat),
      session.store.Denotes amount number → number ≤ 2 ^ 64 - 1 →
      ∃ charged, (ScheduleOperation.perform session.store (.charge (.rate fee))
        [.schedule rates origin, amount]).result = .ok charged := by
  intro session
  refine ⟨?_, ?_, ?_, ?_, ?_⟩
  · intro rates origin position inRange
    refine ⟨.whole (rates.get Field.all[position]).toNat, ?_, ?_⟩
    · exact Value.isAmount_iff.2 ⟨rates.get Field.all[position], rfl⟩
    · have found : FormOperation.fieldAt position = .ok Field.all[position] := by
        rw [FormOperation.fieldAt, if_neg (by omega), Int.toNat_natCast,
          List.getElem?_eq_getElem inRange]
      simp only [FormOperation.perform, found]
      rfl
  · intro handle entries found convertible
    exact Store.converts found convertible
  · intro notEntries origin argument handle evaluates
    have convertible : session.store.Convertible := by
      refine notEntries.preserves (P := fun session => session.store.Convertible) ?_
        start_convertible
      intro session request convertible notEntries
      exact convertible_after convertible notEntries
    rcases ((start_closed _).run requests).entries?_isSome evaluates with ⟨entries, found⟩
    exact Store.converts found (convertible.entries? found)
  · intro values origin
    exact ⟨_, ScheduleOperation.perform_make session.store values origin,
      Schedule.ofValues_validates values⟩
  · intro rates origin fee amount number denotes bounded
    have fits : Fits MulDiv.amountWidth number := by
      change number < 2 ^ 64
      omega
    exact ⟨_, rates.chargesAt_rate fee session.store amount number origin denotes fits⟩

/-- Of two fields that are assigned unusable values the first one decides, whichever was assigned to
first. -/
theorem conversion_of_assigned_fields :
    let fields : List (String × Argument) := Field.all.map fun field => (field.name, .whole 7)
    let requests : List Request := [⟨.form .fill, [.record fields]⟩,
      ⟨.form .assign, [.register 0, .text "withdraw_fee_numerator", .truth true]⟩,
      ⟨.form .assign, [.register 0, .text "trade_fee_numerator", .whole (-1)]⟩]
    let session := start.run requests
    start.AssignsOnly (· ≠ Assignment.Form.entriesName) requests ∧
      session.store.Converts 0 ∧
      (match (FormOperation.perform session.store .toSchedule [.form 0]).outcome.result with
        | .ok _ => none
        | .error fault => some fault.kind) = some .feeSchedule := by
  intro fields requests session
  have notEntries : start.AssignsOnly (· ≠ Assignment.Form.entriesName) requests := by
    decide +kernel
  have isForm : (session.register 0).identity? = some (.form 0) := by decide +kernel
  have evaluates : session.evaluate [] (.register 0) = .ok (.form 0) :=
    congrArg Except.ok (Value.eq_form_of_identity? isForm)
  rcases conversion_of_run requests with ⟨_, _, converts, _⟩
  exact ⟨notEntries, converts notEntries [] (.register 0) 0 evaluates, by decide +kernel⟩

/-- A form whose entries are assigned all at once can have eight numbers in its fields and be
refused as a schedule nevertheless, when another entry hides how the schedule is made. -/
theorem conversion_fails :
    let fields : List (String × Argument) := Field.all.map fun field => (field.name, .whole 7)
    let requests : List Request := [⟨.form .fill, [.record fields]⟩,
      ⟨.form .assign, [.register 0, .text "__dict__", .record (("to_config", .whole 1) :: fields)]⟩]
    let store := (start.run requests).store
    (∀ field ∈ Field.all, (store.fieldValue 0 field).toOption.bind Value.integer? = some 7) ∧
      (match (FormOperation.perform store .toSchedule [.form 0]).outcome.result with
        | .ok _ => none
        | .error fault => some fault.kind) = some .type := by
  decide +kernel

end Session

end PoolFees
