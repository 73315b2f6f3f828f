import PoolFees.Proofs.Form.Conversion
import PoolFees.Proofs.Session.Closed

/-!
# What stays as it is

Schedules, words and fixed-point numbers keep what is in them over every run, as long as nothing is
assigned under the names of the parts of a word, which are reserved, and no record becomes the
entries of a form. Forms change field by field.

Without reserved names a session is orderly: each form has a record of its own, which no value
shares, with an entry for each field. Then an assignment to a field changes this field of this form
and nothing else, and every other assignment is refused.
-/

namespace PoolFees

namespace Identity

/-- Whether an identity is a handle. -/
def isHandle : Identity → Bool
  | made _ => false
  | _ => true

/-- A handle of a form. -/
def IsForm (identity : Identity) : Prop := ∃ handle, identity = .form handle

/-- What is a handle is known. -/
def HandleIn (known : Identity → Prop) (identity : Identity) (_ : Value) : Prop :=
  identity.isHandle = true → known identity

/-- What is made has no handle of its own. -/
theorem handleIn_of_made {known : Identity → Prop} {origin : Origin}
    {made : List Nat → Option Value} (identity : Identity) (value : Value)
    (holds : KnownOrMade (HandleIn known) origin made identity value) :
    identity.HandleIn known value := by
  rcases holds with isKnown | ⟨path, rfl, _⟩
  · exact isKnown
  · intro isHandle
    cases isHandle

end Identity

/-- All handles in a value are known. -/
def Value.HandlesIn (known : Identity → Prop) (value : Value) : Prop :=
  value.IsKnown (Identity.HandleIn known)

namespace Store

variable {store later : Store} {handle : Nat} {entries : Entries} {value : Value}

theorem fieldValue_of_none (absent : store.entries? handle = none) (field : Field) :
    store.fieldValue handle field = refuse .wrongReceiver := by
  unfold fieldValue member Validation.member
  rw [absent]
  split
  · rename_i found
    cases found
  · rfl

/-- Each form has a record of its own with an entry for each field, and no other attributes. -/
structure Orderly (store : Store) : Prop where
  forms : ∀ handle form, store.form? handle = some form → form = ⟨handle, .absent, .absent, none⟩
  records : store.records.length = store.forms.length
  complete : ∀ entries ∈ store.records, ∀ field : Field,
    (entries.lookup field.name).isSome = true

namespace Orderly

theorem entries?_eq (orderly : store.Orderly) (known : handle < store.forms.length) :
    store.entries? handle = store.records[handle]? := by
  have form_eq := orderly.forms handle _ (List.getElem?_eq_getElem known)
  rw [entries?, form?, List.getElem?_eq_getElem known, form_eq]
  rfl

theorem entries?_isSome (orderly : store.Orderly) (known : handle < store.forms.length) :
    ∃ entries, store.entries? handle = some entries := by
  rw [orderly.entries?_eq known, List.getElem?_eq_getElem (by rw [orderly.records]; exact known)]
  exact ⟨_, rfl⟩

theorem lookup_isSome (orderly : store.Orderly) (found : store.entries? handle = some entries)
    (field : Field) : (entries.lookup field.name).isSome = true := by
  rcases Option.bind_eq_some_iff.1 found with ⟨form, _, found⟩
  exact orderly.complete entries (List.mem_of_getElem? found) field

/-- The fields of a form are known by its entries. -/
theorem fieldValue_congr (orderly : store.Orderly)
    (sameEntries : later.entries? handle = store.entries? handle) (field : Field) :
    later.fieldValue handle field = store.fieldValue handle field := by
  cases found : store.entries? handle with
  | none => rw [fieldValue_of_none found, fieldValue_of_none (sameEntries.trans found)]
  | some entries =>
      rcases Option.isSome_iff_exists.1 (orderly.lookup_isSome found field) with ⟨value, entry⟩
      rw [fieldValue_of_lookup found entry, fieldValue_of_lookup (sameEntries.trans found) entry]

theorem form?_put (store : Store) (handle : Nat) (name : String) (value : Value) (other : Nat) :
    (store.put handle name value).form? other = store.form? other := by
  unfold Store.put
  split <;> rfl

/-- What is put into one form is not put into another one. -/
theorem entries?_put_other (orderly : store.Orderly) {other : Nat} (differs : other ≠ handle)
    (name : String) (value : Value) :
    (store.put handle name value).entries? other = store.entries? other := by
  rw [entries?, entries?, form?_put]
  cases known : store.form? other with
  | none => rfl
  | some form =>
      obtain rfl := orderly.forms other form known
      change (store.put handle name value).records[other]? = store.records[other]?
      unfold Store.put
      split
      · rename_i form found
        obtain rfl := orderly.forms handle form found
        exact List.getElem?_modify_ne _ _ (Ne.symm differs)
      · rfl

theorem put (orderly : store.Orderly) (handle : Nat) (field : Field) (value : Value) :
    (store.put handle field.name value).Orderly := by
  constructor
  · intro other form known
    rw [form?_put] at known
    exact orderly.forms other form known
  · unfold Store.put
    split
    · rw [List.length_modify]
      exact orderly.records
    · exact orderly.records
  · unfold Store.put
    split
    · refine forall_mem_modify orderly.complete ?_ _
      intro entries complete other
      by_cases same : other.name = field.name
      · rw [same, Entries.lookup_put_same]
        rfl
      · rw [Entries.lookup_put_other entries same]
        exact complete other
    · exact orderly.complete

theorem entries?_addForm_old (orderly : store.Orderly) (known : handle < store.forms.length)
    (entries : Entries) : (store.addForm entries).entries? handle = store.entries? handle := by
  rcases orderly.entries?_isSome known with ⟨old, found⟩
  rw [found]
  rcases Option.bind_eq_some_iff.1 found with ⟨form, form_eq, found⟩
  rcases List.getElem?_eq_some_iff.1 found with ⟨inRange, _⟩
  rw [entries?, form?_addForm_old known, form_eq]
  exact (List.getElem?_append_left inRange).trans found

theorem addForm (orderly : store.Orderly) (amounts : Field → UInt64) :
    (store.addForm (Form.entriesOf amounts)).Orderly := by
  constructor
  · intro handle form known
    rw [form?, Store.addForm, List.getElem?_append] at known
    split at known
    · exact orderly.forms handle form known
    · rename_i notOld
      rcases List.getElem?_eq_some_iff.1 known with ⟨isNew, form_eq⟩
      rw [List.length_singleton] at isNew
      have handle_eq : handle = store.records.length := by
        rw [orderly.records]
        omega
      subst handle_eq
      rw [List.getElem_singleton] at form_eq
      exact form_eq.symm
  · rw [Store.addForm, List.length_append, List.length_append, orderly.records]
    rfl
  · rw [Store.addForm, List.forall_mem_append, List.forall_mem_singleton]
    refine ⟨orderly.complete, ?_⟩
    intro field
    rw [Form.lookup_entriesOf]
    rfl

/-- Assigning to a field of a form tells nobody. -/
theorem assignField_eq (orderly : store.Orderly) (handle : Nat) (field : Field) (value : Value) :
    Assignment.Form.assignField store handle field value =
      .update (store.put handle field.name value) .absent := by
  have unobserved : (store.form? handle).bind Form.observer = none := by
    cases known : store.form? handle with
    | none => rfl
    | some form =>
        obtain rfl := orderly.forms handle form known
        rfl
  simp only [Assignment.Form.assignField, form?_put, unobserved]

/-- After an assignment to a field of a form, this field has the value and no other one changed. -/
theorem fieldValue_put (orderly : store.Orderly) (known : handle < store.forms.length)
    (field : Field) (value : Value) (other : Nat) (otherField : Field) :
    (store.put handle field.name value).fieldValue other otherField =
      if other = handle ∧ otherField = field then .ok value
      else store.fieldValue other otherField := by
  rcases orderly.entries?_isSome known with ⟨entries, found⟩
  have changed : (store.put handle field.name value).entries? handle =
      some (entries.put field.name value) := by
    rw [entries?_put_same, found, Option.map_some]
  by_cases sameForm : other = handle
  · subst sameForm
    by_cases sameField : otherField = field
    · subst sameField
      rw [if_pos ⟨rfl, rfl⟩]
      exact fieldValue_of_lookup changed (entries.lookup_put_same _ value)
    · rw [if_neg fun same => sameField same.2]
      have differs : otherField.name ≠ field.name := fun same =>
        sameField (Field.name_injective same)
      rcases Option.isSome_iff_exists.1 (orderly.lookup_isSome found otherField) with ⟨old, entry⟩
      rw [fieldValue_of_lookup found entry]
      apply fieldValue_of_lookup changed
      rw [Entries.lookup_put_other entries differs, entry]
  · rw [if_neg fun same => sameForm same.1]
    exact orderly.fieldValue_congr (orderly.entries?_put_other sameForm field.name value) otherField

end Orderly

end Store

theorem Assignment.not_moving_of_public {name : String} (isPublic : isReserved name = false) :
    name ∉ movingNames := by
  have reserved : ∀ moving ∈ movingNames, isReserved moving = true := by decide +kernel
  intro member
  rw [reserved name member] at isPublic
  cases isPublic

theorem Assignment.perform_field (store : Store) (handle : Nat) (field : Field) (value : Value) :
    perform store field.name value (.form handle) = Form.assignField store handle field value := by
  simp only [perform, Form.assign, Field.ofName?_name]

/-- Under a name that is not reserved an assignment is refused, or it changes a field of a form. -/
theorem Assignment.Does.of_public {store : Store} {receiver value : Value} {name : String}
    {effect : Effect} (does : Does store value receiver name effect)
    (isPublic : isReserved name = false) :
    (∃ fault, effect = .refuse store fault) ∨
      ∃ handle field, receiver = .form handle ∧ name = field.name ∧
        effect = Form.assignField store handle field value := by
  have notMoving := not_moving_of_public isPublic
  simp only [movingNames, List.mem_cons, List.not_mem_nil, not_or] at notMoving
  rcases notMoving with ⟨notContent, notWidth, notEntries, _⟩
  cases does with
  | refuse receiver name fault => exact .inl ⟨fault, rfl⟩
  | moveWord origin found changes | setWord found changes =>
      rw [Word.assign?_eq_none notContent notWidth] at changes
      cases changes
  | setField handle field => exact .inr ⟨handle, field, rfl, rfl, rfl⟩
  | setEntries => exact (notEntries rfl).elim
  | setReserved _ _ reserved =>
      rw [reserved] at isPublic
      cases isPublic

namespace Session

variable {session : Session} {request : Request}

/-- All values in an orderly session are fixed, save for the forms in them. -/
structure Orderly (session : Session) : Prop where
  knows : session.Knows (Identity.HandleIn Identity.IsForm)
  store : session.store.Orderly

theorem start_orderly : start.Orderly := by
  refine ⟨⟨?_, ?_, ?_, ?_⟩, ⟨?_, rfl, ?_⟩⟩
  case refine_5 =>
    intro handle form known
    cases known
  all_goals
    intro value member
    cases member

theorem Orderly.after (orderly : session.Orderly)
    (isPublic : ∀ receiver name value, session.Assigns request receiver name value →
      Assignment.isReserved name = false) : (session.after request).Orderly := by
  have step := session.step_after request
  generalize session.after request = next at step
  cases step with
  | answer result resultIn =>
      refine ⟨⟨?_, orderly.knows.store⟩, orderly.store⟩
      rw [List.forall_mem_append, List.forall_mem_singleton]
      exact ⟨orderly.knows.registers, (resultIn orderly.knows).mono Identity.handleIn_of_made⟩
  | fill amounts result isNew =>
      refine ⟨⟨?_, orderly.knows.store.addForm ?_⟩, orderly.store.addForm amounts⟩
      · rw [List.forall_mem_append, List.forall_mem_singleton]
        refine ⟨orderly.knows.registers, ?_⟩
        rcases isNew with rfl | rfl
        · exact .plain rfl rfl
        · exact .single rfl (fun _ => ⟨_, rfl⟩) rfl
      · exact Form.entriesOf_isKnown amounts
  | assign assigns does =>
      have argumentsIn := orderly.knows.evaluateAll assigns.2
      rw [List.forall_mem_cons, List.forall_mem_cons, List.forall_mem_singleton] at argumentsIn
      have valueIn := argumentsIn.2.2.mono Identity.handleIn_of_made
      have registersIn : ∀ value ∈ session.registers ++ [.absent],
          value.IsKnown (Identity.HandleIn Identity.IsForm) := by
        rw [List.forall_mem_append, List.forall_mem_singleton]
        exact ⟨orderly.knows.registers, .plain rfl rfl⟩
      rcases does.of_public (isPublic _ _ _ assigns) with
        ⟨fault, rfl⟩ | ⟨handle, field, rfl, rfl, rfl⟩
      · exact ⟨⟨registersIn, orderly.knows.store⟩, orderly.store⟩
      · rw [orderly.store.assignField_eq]
        exact ⟨⟨registersIn, orderly.knows.store.put valueIn handle field.name⟩,
          orderly.store.put handle field _⟩

/-- A request that assigns under no reserved name only changes a field of a form. -/
structure ChangesFieldOnly (session : Session) (request : Request) : Prop where
  keeps : session.Keeps (session.after request)
  changes : ∀ handle field value, session.Assigns request (.form handle) field.name value →
    (session.effect request).outcome = .silent (.ok .absent) ∧
      ∀ other otherField, (session.after request).store.fieldValue other otherField =
        if other = handle ∧ otherField = field then .ok value
        else session.store.fieldValue other otherField
  changesNothing : (∀ handle (field : Field) value,
      ¬session.Assigns request (.form handle) field.name value) →
    ∀ handle < session.store.forms.length, ∀ field,
      (session.after request).store.fieldValue handle field =
        session.store.fieldValue handle field
  refuses : ∀ receiver name value, session.Assigns request receiver name value →
    (∀ handle (field : Field), ¬(receiver = .form handle ∧ name = field.name)) →
    ∃ fault, session.Refuses request fault

theorem Orderly.changesFieldOnly (orderly : session.Orderly) (closed : session.Closed)
    (isPublic : ∀ receiver name value, session.Assigns request receiver name value →
      Assignment.isReserved name = false) : session.ChangesFieldOnly request := by
  constructor
  case keeps =>
    apply keeps_after
    intro receiver name value assigns
    exact Assignment.not_moving_of_public (isPublic receiver name value assigns)
  case changes =>
    intro handle field value assigns
    have argumentsIn := closed.evaluateAll assigns.2
    rw [List.forall_mem_cons] at argumentsIn
    have known : handle < session.store.forms.length := argumentsIn.1.here _ rfl
    have performs := Assignment.perform_field session.store handle field value
    rw [orderly.store.assignField_eq] at performs
    rw [effect_of_assigns assigns, after_of_assigns assigns, performs]
    exact ⟨rfl, orderly.store.fieldValue_put known field value⟩
  case changesNothing =>
    intro noField handle known field
    have step := session.step_after request
    generalize session.after request = next at step
    cases step with
    | answer => rfl
    | fill amounts =>
        exact orderly.store.fieldValue_congr
          (orderly.store.entries?_addForm_old known (Form.entriesOf amounts)) field
    | assign assigns does =>
        rcases does.of_public (isPublic _ _ _ assigns) with
          ⟨fault, rfl⟩ | ⟨other, otherField, rfl, rfl, _⟩
        · rfl
        · exact (noField other otherField _ assigns).elim
  case refuses =>
    intro receiver name value assigns notField
    have does := Assignment.perform_does session.store name value receiver
    rcases does.of_public (isPublic _ _ _ assigns) with
      ⟨fault, refuses⟩ | ⟨handle, field, isForm, isField, _⟩
    · exact ⟨fault, assigns.refuses refuses⟩
    · exact (notField handle field ⟨isForm, isField⟩).elim

theorem Orderly.run (orderly : session.Orderly) {requests : List Request}
    (isPublic : session.AssignsOnly (Assignment.isReserved · = false) requests) :
    (session.run requests).Orderly :=
  isPublic.preserves (fun _ _ orderly isPublic => orderly.after isPublic) orderly

/-- What is obtained in a run stays as it is. Schedules do so whatever follows, and nothing is
assigned to a part of a schedule or a fixed-point number, or to what a word is read by. All results,
with the contents of all words, stay what they are as long as nothing is assigned under the two
names of the parts of a word or to all entries of a form at once. In a run without reserved names,
all values are fixed but forms, an assignment to a field of a form changes this field and no other
one of any form, nothing else changes a form, and every other assignment is refused. -/
theorem unchanged_of_run (before : List Request) :
    let session := start.run before
    (∀ (later : List Request) (position : Nat) (rates : Schedule) (origin : Origin),
      session.registers[position]? = some (Value.schedule rates origin) →
      (session.run later).registers[position]? = some (Value.schedule rates origin)) ∧
    (∀ request receiver name value, session.Assigns request receiver name value →
      (receiver.isFrozen = true → session.Refuses request (.frozen name)) ∧
      ∀ word, session.store.word? receiver = some word → name ≠ Assignment.Word.contentName →
        name ≠ Assignment.Word.widthName →
        session.Refuses request (Assignment.Word.fault name value)) ∧
    (∀ later, session.AssignsOnly (· ∉ Assignment.movingNames) later →
      session.registers <+: (session.run later).registers ∧
      ∀ value, (session.run later).store.word? value = session.store.word? value) ∧
    (start.AssignsOnly (Assignment.isReserved · = false) before →
      (∀ value ∈ session.registers, value.HandlesIn Identity.IsForm) ∧
      ∀ request, (∀ receiver name value, session.Assigns request receiver name value →
        Assignment.isReserved name = false) → session.ChangesFieldOnly request) := by
  intro session
  refine ⟨?_, ?_, ?_, ?_⟩
  · intro later position rates origin found
    exact getElem?_run found (fun replacement => rfl) later
  · intro request receiver name value assigns
    refine ⟨assigns.refuses_frozen, ?_⟩
    intro word isWord notContent notWidth
    exact assigns.refuses_word isWord notContent notWidth
  · intro later assignsOnly
    exact ⟨assignsOnly.keeps.registers, assignsOnly.keeps.word?⟩
  · intro isPublic
    have orderly : session.Orderly := start_orderly.run isPublic
    refine ⟨orderly.knows.registers, ?_⟩
    intro request requestPublic
    exact orderly.changesFieldOnly ((start_closed _).run before) requestPublic

/-- A form is turned into a schedule before and after one of its fields is assigned to; a word and a
schedule refuse the assignment. -/
theorem unchanged_of_assigned_field :
    let fields : List (String × Argument) := Field.all.map fun field => (field.name, .whole 7)
    let before : List Request := [⟨.word .bindByte, [.whole 7]⟩, ⟨.form .fill, [.record fields]⟩,
      ⟨.form .toSchedule, [.register 1]⟩,
      ⟨.form .assign, [.register 0, .text "value", .whole 9]⟩,
      ⟨.form .assign, [.register 1, .text "trade_fee_numerator", .whole 9]⟩]
    let session := start.run before
    let request : Request := ⟨.form .assign, [.register 1, .text "withdraw_fee_numerator", .absent]⟩
    start.AssignsOnly (Assignment.isReserved · = false) before ∧
      session.registers.map Value.typeName =
        ["CheckedUint", "FeesModel", "FeeConfig", "NoneType", "NoneType"] ∧
      session.AssignsOnly (Assignment.isReserved · = false) [request] ∧
      session.ChangesFieldOnly request := by
  intro fields before session request
  have beforePublic : start.AssignsOnly (Assignment.isReserved · = false) before := by
    decide +kernel
  have requestPublic : session.AssignsOnly (Assignment.isReserved · = false) [request] := by
    decide +kernel
  rcases unchanged_of_run before with ⟨_, _, _, changes⟩
  refine ⟨beforePublic, by decide +kernel, requestPublic, ?_⟩
  exact (changes beforePublic).2 request requestPublic.1

/-- The number in a word can be replaced after all, under the name that is kept for it. -/
theorem assignment_changes_word :
    let before := start.run [⟨.word .bindByte, [.whole 1]⟩]
    let request : Request := ⟨.form .assign, [.register 0, .text "_value", .whole 5]⟩
    let after := before.after request
    ((before.store.word? (before.register 0)).bind fun word => word.content.integer?) = some 1 ∧
      (before.effect request).outcome.result.toBool = true ∧
      ((after.store.word? (after.register 0)).bind fun word => word.content.integer?) = some 5 := by
  decide +kernel

end Session

end PoolFees
