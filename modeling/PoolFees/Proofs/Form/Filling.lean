import PoolFees.Proofs.Form.Fresh
import PoolFees.Proofs.Validation.Reading

/-!
# Filling forms from records

A field is given under its external name or, where that is absent, under its own name. A record
fills a form exactly when it gives every field, and gives it as an amount; otherwise the report has
one complaint for each field that fails, in the order of the fields. So nothing matters about a
record but what it has under the key of each field.

All three ways to use a record, with or without making a schedule of it, agree on that.
-/

namespace PoolFees

namespace Entries

variable {entries others : Entries}

/-- The order of the entries does not matter when their names are distinct. -/
theorem lookup_of_perm (reordered : others.Perm entries)
    (distinct : (entries.map Prod.fst).Nodup) (key : String) :
    others.lookup key = entries.lookup key := by
  induction reordered with
  | nil => rfl
  | cons entry _ hypothesis =>
      rcases entry with ⟨name, value⟩
      simp only [List.lookup_cons, hypothesis (List.nodup_cons.1 distinct).2]
  | swap first second rest =>
      rcases first with ⟨firstName, firstValue⟩
      rcases second with ⟨secondName, secondValue⟩
      have names : firstName ≠ secondName := by
        rintro rfl
        exact (List.nodup_cons.1 distinct).1 List.mem_cons_self
      by_cases isFirst : key = firstName
      · have notSecond : (key == secondName) = false := by
          rw [beq_eq_false_iff_ne, isFirst]
          exact names
        simp only [List.lookup_cons, notSecond]
      · have notFirst : (key == firstName) = false := beq_eq_false_iff_ne.2 isFirst
        simp only [List.lookup_cons, notFirst]
  | trans _ last firstHypothesis lastHypothesis =>
      have distinctBetween := (last.map Prod.fst).nodup_iff.2 distinct
      rw [firstHypothesis distinctBetween, lastHypothesis distinct]

end Entries

/-- What a complaint tells: the label and the text of its cause, and the place it is about. -/
def Complaint.parts (complaint : Complaint) : String × List Place × String :=
  (complaint.cause.label, complaint.place, complaint.cause.message)

namespace Field

/-- The key under which a record gives a field: the external name if it is there, otherwise the
name if that is. -/
def key? (field : Field) (entries : Entries) : Option String :=
  [field.externalName, field.name].find? fun key => (entries.lookup key).isSome

/-- A record gives a field as an amount. -/
def Gives (entries : Entries) (field : Field) (amount : UInt64) : Prop :=
  ∃ key value, field.key? entries = some key ∧ entries.lookup key = some value ∧
    Amount.ofValue value = .ok amount

/-- What there is to tell about a field that fails. -/
def failure? (entries : Entries) (field : Field) : Option (String × List Place × String) :=
  match field.key? entries with
  | none => some ("missing", [.key field.externalName], "Field required")
  | some key =>
    match (entries.lookup key).map Amount.ofValue with
    | some (.error fault) => some ("value_error", [.key key], "Value error, " ++ fault.message)
    | _ => none

/-- Two records have the same under the external name of a field and, where that is absent, under
its name. -/
def AgreeOn (field : Field) (entries others : Entries) : Prop :=
  others.lookup field.externalName = entries.lookup field.externalName ∧
    (entries.lookup field.externalName = none →
      others.lookup field.name = entries.lookup field.name)

variable {entries others : Entries} {field : Field}

theorem entry?_eq_none_iff : field.entry? entries = none ↔ field.key? entries = none := by
  simp only [key?, entry?, names, Validation.FieldNames.entry?, List.find?]
  cases entries.lookup field.externalName with
  | some value => simp
  | none => cases entries.lookup field.name <;> simp

theorem entry?_eq_some_iff {key : String} {value : Value} :
    field.entry? entries = some (key, value) ↔
      field.key? entries = some key ∧ entries.lookup key = some value := by
  simp only [key?, entry?, names, Validation.FieldNames.entry?, List.find?]
  cases external : entries.lookup field.externalName with
  | some found =>
      simp only [Option.isSome_some, Option.some.injEq, Prod.mk.injEq]
      constructor
      · rintro ⟨rfl, rfl⟩
        exact ⟨rfl, external⟩
      · rintro ⟨rfl, same⟩
        exact ⟨rfl, Option.some.inj (external.symm.trans same)⟩
  | none =>
      cases own : entries.lookup field.name with
      | some found =>
          simp only [Option.isSome_none, Option.isSome_some, Option.map_some, Option.some.injEq,
            Prod.mk.injEq]
          constructor
          · rintro ⟨rfl, rfl⟩
            exact ⟨rfl, own⟩
          · rintro ⟨rfl, same⟩
            exact ⟨rfl, Option.some.inj (own.symm.trans same)⟩
      | none => simp

theorem entry?_of_agreeOn (agree : field.AgreeOn entries others) :
    field.entry? others = field.entry? entries := by
  simp only [names, entry?, Validation.FieldNames.entry?, agree.1]
  cases external : entries.lookup field.externalName with
  | some value => rfl
  | none => simp only [agree.2 external]

theorem read_of_agreeOn (agree : field.AgreeOn entries others) :
    field.read others = field.read entries := by
  simp only [read_eq, entry?_of_agreeOn agree]

/-- A field is read as an amount exactly when the record gives it as that amount. -/
theorem read_eq_ok_iff {amount : UInt64} :
    field.read entries = .ok amount ↔ Gives entries field amount := by
  cases given : field.entry? entries with
  | none =>
      simp only [read_eq, given, reduceCtorEq, false_iff]
      rintro ⟨key, value, used, _⟩
      rw [entry?_eq_none_iff.1 given] at used
      cases used
  | some entry =>
      rcases entry with ⟨key, value⟩
      rcases entry?_eq_some_iff.1 given with ⟨used, found⟩
      have givesIff : Gives entries field amount ↔ Amount.ofValue value = .ok amount := by
        constructor
        · rintro ⟨_, _, sameKey, sameValue, accepted⟩
          cases used.symm.trans sameKey
          cases found.symm.trans sameValue
          exact accepted
        · intro accepted
          exact ⟨key, value, used, found, accepted⟩
      rw [givesIff]
      simp only [read_eq, given]
      cases Amount.ofValue value with
      | ok other => simp only [Except.ok.injEq]
      | error fault => simp only [reduceCtorEq]

/-- A field that is not read is reported with what there is to tell about it. -/
theorem failure?_eq : failure? entries field =
    match field.read entries with
    | .ok _ => none
    | .error complaint => some complaint.parts := by
  cases given : field.entry? entries with
  | none =>
      simp only [failure?, entry?_eq_none_iff.1 given, read_eq, given]
      rfl
  | some entry =>
      rcases entry with ⟨key, value⟩
      rcases entry?_eq_some_iff.1 given with ⟨used, found⟩
      simp only [failure?, used, found, Option.map_some, read_eq, given]
      cases Amount.ofValue value <;> rfl

/-- A record fails to give a field exactly when there is something to tell about it. -/
theorem failure?_eq_none_iff :
    failure? entries field = none ↔ ∃ amount, Gives entries field amount := by
  simp only [← read_eq_ok_iff, failure?_eq]
  cases field.read entries with
  | ok amount => simp only [Except.ok.injEq, exists_eq']
  | error complaint => simp only [reduceCtorEq, exists_false]

end Field

namespace Form

variable {entries : Entries}

/-- The complaints about the fields of a record tell of each field that fails, in order. -/
theorem parts_complaints (entries : Entries) (fields : List Field) :
    (Validation.complaintsOf (fields.map fun field => field.read entries)).map Complaint.parts =
      fields.filterMap (Field.failure? entries) := by
  rw [Validation.complaintsOf, List.filterMap_map, List.map_filterMap]
  congr 1
  funext field
  rw [Field.failure?_eq, Function.comp_apply]
  cases field.read entries <;> rfl

theorem ofRecord_of_gives {amounts : Field → UInt64}
    (gives : ∀ field, Field.Gives entries field (amounts field)) :
    ofRecord entries = .ok (entriesOf amounts) := by
  have reads : ∀ field : Field, field.read entries = .ok (amounts field) := by
    intro field
    exact Field.read_eq_ok_iff.2 (gives field)
  have silent :
      Validation.complaintsOf (Field.all.map fun field => field.read entries) = [] := by
    rw [Validation.complaintsOf, List.filterMap_map, List.filterMap_eq_nil_iff]
    intro field _
    rw [Function.comp_apply, reads field]
  rw [ofRecord, Validation.collect_of_silent silent]
  simp only [Except.map, reads, Except.toOption, Option.getD_some]

theorem ofRecord_of_fails (fails : ¬∀ field, ∃ amount, Field.Gives entries field amount) :
    ∃ report : Report, ofRecord entries = .error report ∧ report.title = title ∧
      report.complaints.map Complaint.parts = Field.all.filterMap (Field.failure? entries) := by
  have tells := parts_complaints entries Field.all
  have complains :
      Validation.complaintsOf (Field.all.map fun field => field.read entries) ≠ [] := by
    intro silent
    apply fails
    intro field
    rw [silent] at tells
    have noFailure := List.filterMap_eq_nil_iff.1 tells.symm field (Field.mem_all field)
    exact Field.failure?_eq_none_iff.1 noFailure
  refine ⟨⟨title, _⟩, ?_, rfl, tells⟩
  rw [ofRecord, Validation.collect_of_complaints complains]
  rfl

end Form

/-- The message of a report about few complaints begins with a numeral of how many there are. -/
theorem Report.message_counts {report : Report} (few : report.complaints.length ≤ 8) :
    Numeral.Denotes (Numeral.write report.complaints.length) report.complaints.length ∧
      report.message = Numeral.write report.complaints.length ++
        (if report.complaints.length = 1 then " validation error for " else
          " validation errors for ") ++ report.title := by
  have enough : Nat.pow 10 1 ≤ Nat.pow 10 Numeral.maxDigits := by
    rw [Nat.pow_eq, Nat.pow_eq]
    exact Nat.pow_le_pow_right (by decide) (by decide)
  have writable : Numeral.Writable report.complaints.length :=
    Nat.lt_of_lt_of_le (Nat.lt_of_le_of_lt few (by decide : 8 < Nat.pow 10 1)) enough
  exact ⟨Numeral.denotes_write writable, rfl⟩

namespace FormOperation

/-- The ways to use a record that gives the fields of a form. -/
def readings : List FormOperation := [fill, fillFields, readSchedule]

theorem mem_readings_iff {operation : FormOperation} :
    operation ∈ readings ↔
      operation = fill ∨ operation = fillFields ∨ operation = readSchedule := by
  simp only [readings, List.mem_cons, List.not_mem_nil, or_false]

variable {store : Store} {value : Value} {entries : Entries}

theorem perform_of_filled {amounts : Field → UInt64}
    (given : store.record? value = some entries)
    (filled : Form.ofRecord entries = .ok (Form.entriesOf amounts)) :
    (∀ operation ∈ [fill, fillFields], perform store operation [value] =
      .update (store.addForm (Form.entriesOf amounts)) (.form store.forms.length)) ∧
    perform store readSchedule [value] =
      .answer store (.ok (.schedule (Schedule.ofFields amounts) [])) := by
  constructor
  · intro operation reading
    simp only [List.mem_cons, List.not_mem_nil, or_false] at reading
    rcases reading with rfl | rfl
    · simp only [perform, fillFrom, given, filled, keep]
    · simp only [perform, given, filled, keep]
  · simp only [perform, scheduleFrom, given, filled, Form.toSchedule_entriesOf, Except.map]

theorem perform_of_refused {report : Report} (given : store.record? value = some entries)
    (refused : Form.ofRecord entries = .error report) :
    ∀ operation ∈ readings,
      perform store operation [value] = .answer store (.error (.invalid report)) := by
  have reported : (Fault.invalid report).reported = .invalid report := by
    simp [Fault.reported, Fault.numerals]
  intro operation reading
  rcases mem_readings_iff.1 reading with rfl | rfl | rfl
  · simp only [perform, fillFrom, given, refused, keep, Effect.refuse, PoolFees.refuse, reported]
  · simp only [perform, given, refused, keep, Effect.refuse, PoolFees.refuse, reported]
  · simp only [perform, scheduleFrom, given, refused, PoolFees.refuse, reported, Except.map]

theorem succeeds_iff {operation : FormOperation} (given : store.record? value = some entries)
    (reading : operation ∈ readings) :
    (∃ result, (perform store operation [value]).outcome.result = .ok result) ↔
      ∀ field, ∃ amount, Field.Gives entries field amount := by
  by_cases gives : ∀ field, ∃ amount, Field.Gives entries field amount
  · simp only [gives, implies_true, iff_true]
    rcases Classical.axiomOfChoice gives with ⟨amounts, gives⟩
    have performs := perform_of_filled given (Form.ofRecord_of_gives gives)
    rcases mem_readings_iff.1 reading with rfl | rfl | rfl
    · rw [performs.1 fill (by decide)]
      exact ⟨_, rfl⟩
    · rw [performs.1 fillFields (by decide)]
      exact ⟨_, rfl⟩
    · rw [performs.2]
      exact ⟨_, rfl⟩
  · simp only [gives, iff_false]
    rintro ⟨result, succeeds⟩
    rcases Form.ofRecord_of_fails gives with ⟨report, refused, _⟩
    rw [perform_of_refused given refused operation reading] at succeeds
    cases succeeds

/-- Records that agree on every field have the same effect. -/
theorem perform_of_agreeOn {other : Value} {others : Entries}
    (given : store.record? value = some entries) (givenOther : store.record? other = some others)
    (agree : ∀ field : Field, field.AgreeOn entries others) :
    ∀ operation ∈ readings, perform store operation [other] = perform store operation [value] := by
  have same : Form.ofRecord others = Form.ofRecord entries := by
    have reads : ∀ field : Field, field.read others = field.read entries := by
      intro field
      exact Field.read_of_agreeOn (agree field)
    simp only [Form.ofRecord, reads]
  intro operation reading
  rcases mem_readings_iff.1 reading with rfl | rfl | rfl
  · simp only [perform, fillFrom, given, givenOther, same]
  · simp only [perform, given, givenOther, same]
  · simp only [perform, scheduleFrom, given, givenOther, same]

/-- A record fills a form exactly when it gives every field as an amount, and the fields have these
amounts then. Otherwise there is one complaint for each field that fails, in the order of the
fields. A schedule is made of a record in the same cases and with the same complaints. Only what the
record has under the key of each field matters, so neither its other entries nor their order do. -/
theorem perform_record (given : store.record? value = some entries) :
    (∀ operation ∈ readings,
      (∃ result, (perform store operation [value]).outcome.result = .ok result) ↔
        ∀ field, ∃ amount, Field.Gives entries field amount) ∧
    (∀ amounts : Field → UInt64, (∀ field, Field.Gives entries field (amounts field)) →
      let filled := store.addForm (Form.entriesOf amounts)
      (∀ operation ∈ [fill, fillFields],
        perform store operation [value] = .update filled (.form store.forms.length)) ∧
      (∀ field, filled.fieldValue store.forms.length field =
        .ok (.whole (amounts field).toNat)) ∧
      ∃ schedule, perform store readSchedule [value] = .answer store (.ok (.schedule schedule [])) ∧
        ∀ field, schedule.get field = amounts field) ∧
    ((¬∀ field, ∃ amount, Field.Gives entries field amount) →
      ∃ report : Report,
        (∀ operation ∈ readings,
          perform store operation [value] = .answer store (.error (.invalid report))) ∧
        report.complaints.map Complaint.parts = Field.all.filterMap (Field.failure? entries) ∧
        Numeral.Denotes (Numeral.write report.complaints.length) report.complaints.length ∧
        (Fault.invalid report).message = Numeral.write report.complaints.length ++
          (if report.complaints.length = 1 then " validation error for " else
            " validation errors for ") ++ "FeesModel") ∧
    (∀ other others, store.record? other = some others →
      (∀ field : Field, field.AgreeOn entries others) → ∀ operation ∈ readings,
        perform store operation [other] = perform store operation [value]) ∧
    ∀ others origin, others.Perm entries → (entries.map Prod.fst).Nodup →
      ∀ operation ∈ readings,
        perform store operation [.record others origin] = perform store operation [value] := by
  refine ⟨?_, ?_, ?_, ?_, ?_⟩
  · intro operation reading
    exact succeeds_iff given reading
  · intro amounts gives
    have performs := perform_of_filled given (Form.ofRecord_of_gives gives)
    refine ⟨performs.1, ?_, Schedule.ofFields amounts, performs.2, ?_⟩
    · intro field
      exact Store.fieldValue_addForm store amounts field
    · intro field
      exact Schedule.get_ofFields amounts field
  · intro fails
    rcases Form.ofRecord_of_fails fails with ⟨report, refused, titled, tells⟩
    have few : report.complaints.length ≤ 8 := by
      rw [← List.length_map Complaint.parts, tells]
      exact List.length_filterMap_le _ Field.all
    rcases Report.message_counts few with ⟨counts, message⟩
    refine ⟨report, perform_of_refused given refused, tells, counts, ?_⟩
    rw [titled] at message
    exact message
  · intro other others givenOther agree
    exact perform_of_agreeOn given givenOther agree
  · intro others origin reordered distinct
    refine perform_of_agreeOn given rfl ?_
    intro field
    have sameLookup := Entries.lookup_of_perm reordered distinct
    exact ⟨sameLookup field.externalName, fun _ => sameLookup field.name⟩

/-- An unusable entry under the external name counts although the one under the name is usable. -/
theorem perform_shadowed_entry :
    ∃ report, perform .empty fill [.record [("admin_trade_fee_numerator", .whole 1),
        ("adminTradeFeeNumerator", .truth true)] []] =
          .answer .empty (.error (.invalid report)) ∧
      (report.complaints.map Complaint.parts).head? = some ("value_error",
        [.key "adminTradeFeeNumerator"], "Value error, Uint64 must be string or int, got bool") ∧
      report.complaints.length = 8 := by
  have fails : ¬∀ field, ∃ amount, Field.Gives [("admin_trade_fee_numerator", .whole 1),
      ("adminTradeFeeNumerator", .truth true)] field amount := by
    intro gives
    have noFailure := Field.failure?_eq_none_iff.2 (gives ⟨.adminTrade, .numerator⟩)
    revert noFailure
    decide
  have given : Store.empty.record? (.record [("admin_trade_fee_numerator", .whole 1),
      ("adminTradeFeeNumerator", .truth true)] []) = some _ := rfl
  rcases (perform_record given).2.2.1 fails with ⟨report, refused, tells, _⟩
  refine ⟨report, refused fill (by decide), ?_, ?_⟩
  · rw [tells]
    decide
  · rw [← List.length_map Complaint.parts, tells]
    decide

end FormOperation

end PoolFees
