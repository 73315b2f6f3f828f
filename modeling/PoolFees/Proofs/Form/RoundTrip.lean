import PoolFees.LooseWord.Agreement
import PoolFees.Proofs.Form.Written

/-!
# Reading what was written

What is written of a form fills another form with the same amounts, whether it is a record or a
document and under which names the fields are written. The two forms are equal, the same schedule is
made of both, and the second one is written as the first one was.

Two conditions are needed for this. Forms are only equal when the same was assigned to their
attributes, and a form that was filled has nothing assigned to them. And a document lists the fields
in the order in which the form holds them, while a form that was filled holds them in the order of
`Field.all`.
-/

namespace List

theorem allM_eq_some_true {α : Type} {check : α → Option Bool} {items : List α}
    (checks : ∀ item ∈ items, check item = some true) : items.allM check = some true := by
  induction items with
  | nil => rfl
  | cons item rest ih =>
      have later := ih fun other member => checks other (List.mem_cons_of_mem _ member)
      simp [List.allM, checks item List.mem_cons_self, later]

end List

namespace PoolFees.Store

variable {store : Store} {entries others : Entries} {order otherOrder : List Field}
  {amounts : Field → UInt64}

section Equality

variable {same : Value → Value → Option Bool}

theorem matchesItem_of_same {value other : Value} (equal : same value other = some true) :
    Value.matchesItem same value other = some true := by
  unfold Value.matchesItem
  split
  · rfl
  · exact equal

/-- Entries that all belong to fields are equal when the fields have the same amounts. -/
theorem same_of_hasAmounts
    (sameWhole : ∀ number : Int, same (.whole number) (.whole number) = some true)
    (has : Form.HasAmounts entries order amounts)
    (othersHave : Form.HasAmounts others otherOrder amounts)
    (length_eq : entries.length = others.length) (areFields : entries.areFields = true) :
    entries.same same others = some true := by
  rw [Entries.same, if_pos length_eq]
  apply List.allM_eq_some_true
  rintro ⟨name, value⟩ member
  rcases Option.isSome_iff_exists.1 (List.all_eq_true.1 areFields _ member) with ⟨field, named⟩
  obtain rfl := Field.name_of_ofName? named
  rw [has.value_of_mem member]
  simp only [othersHave.lookup]
  exact matchesItem_of_same (sameWhole _)

theorem sameFields_of_hasAmounts
    (sameWhole : ∀ number : Int, same (.whole number) (.whole number) = some true)
    (has : Form.HasAmounts entries order amounts)
    (othersHave : Form.HasAmounts others otherOrder amounts) :
    entries.sameFields same others = some true := by
  apply List.allM_eq_some_true
  intro field _
  simp only [has.lookup, othersHave.lookup]
  exact matchesItem_of_same (sameWhole _)

/-- Forms with the same amounts are equal as long as nothing else can be told apart in both. -/
theorem sameForm_of_hasAmounts (sameAbsent : same .absent .absent = some true)
    (sameWhole : ∀ number : Int, same (.whole number) (.whole number) = some true)
    {record other : Nat} {observer otherObserver : Option Value}
    (found : store.records[record]? = some entries)
    (otherFound : store.records[other]? = some others)
    (has : Form.HasAmounts entries order amounts)
    (othersHave : Form.HasAmounts others otherOrder amounts)
    (onlyFields : entries.areFields = true ∨ others.areFields = true) :
    store.sameForm same ⟨record, .absent, .absent, observer⟩
      ⟨other, .absent, .absent, otherObserver⟩ = some true := by
  have fields_eq : entries.fields.length = others.fields.length := by
    rw [has.length_fields, othersHave.length_fields]
  -- With as many entries as the form that has nothing but fields, the other one has nothing else
  -- either. Otherwise only the fields of the two are compared.
  by_cases length_eq : entries.length = others.length
  · have areFields : entries.areFields = true := by
      rcases onlyFields with areFields | areFields
      · exact areFields
      · rw [Entries.areFields_iff] at areFields ⊢
        omega
    have equal := same_of_hasAmounts sameWhole has othersHave length_eq areFields
    simp [sameForm, sameAbsent, found, otherFound, equal]
  · have differ : entries.same same others = some false := if_neg length_eq
    have notBoth : (entries.areFields && others.areFields) = false := by
      rw [Bool.and_eq_false_imp]
      intro areFields
      rw [Bool.eq_false_iff, Ne, Entries.areFields_iff]
      rw [Entries.areFields_iff] at areFields
      omega
    simp [sameForm, sameAbsent, found, otherFound, differ, notBoth,
      sameFields_of_hasAmounts sameWhole has othersHave]

end Equality

/-- A form with the given entries holds the given amounts in the given order, and nothing was
assigned to its attributes. -/
structure HoldsAmounts (store : Store) (handle : Nat) (entries : Entries) (order : List Field)
    (amounts : Field → UInt64) : Prop where
  untouched : ∃ record observer, store.form? handle = some ⟨record, .absent, .absent, observer⟩
  found : store.entries? handle = some entries
  hasAmounts : Form.HasAmounts entries order amounts

theorem holdsAmounts_addForm (store : Store) (amounts : Field → UInt64) :
    (store.addForm (Form.entriesOf amounts)).HoldsAmounts store.forms.length
      (Form.entriesOf amounts) Field.all amounts where
  untouched := ⟨_, _, store.form?_addForm_new _⟩
  found := store.entries?_addForm_new _
  hasAmounts := Form.hasAmounts_entriesOf amounts

variable {handle other : Nat}

theorem HoldsAmounts.addForm (holds : store.HoldsAmounts handle entries order amounts)
    (added : Entries) : (store.addForm added).HoldsAmounts handle entries order amounts := by
  rcases holds.untouched with ⟨record, observer, form_eq⟩
  have known : handle < store.forms.length := (List.getElem?_eq_some_iff.1 form_eq).1
  have kept : (store.addForm added).form? handle = some ⟨record, .absent, .absent, observer⟩ := by
    rw [form?_addForm_old known, form_eq]
  have found := holds.found
  simp only [entries?, form_eq, Option.bind_eq_bind, Option.bind_some] at found
  have present : record < store.records.length := (List.getElem?_eq_some_iff.1 found).1
  refine ⟨⟨record, observer, kept⟩, ?_, holds.hasAmounts⟩
  simp only [entries?, kept, Option.bind_eq_bind, Option.bind_some]
  simp only [Store.addForm, List.getElem?_append_left present, found]

/-- Forms are compared two levels deep: the form itself and the amounts in it. -/
theorem sameTo_of_holdsAmounts (depth : Nat)
    (holds : store.HoldsAmounts handle entries order amounts)
    (otherHolds : store.HoldsAmounts other others otherOrder amounts)
    (onlyFields : entries.areFields = true ∨ others.areFields = true) :
    store.sameTo (depth + 2) (.form handle) (.form other) = some true := by
  rcases holds.untouched with ⟨record, observer, form_eq⟩
  rcases otherHolds.untouched with ⟨otherRecord, otherObserver, otherForm_eq⟩
  have found := holds.found
  have otherFound := otherHolds.found
  simp only [entries?, form_eq, Option.bind_eq_bind, Option.bind_some] at found
  simp only [entries?, otherForm_eq, Option.bind_eq_bind, Option.bind_some] at otherFound
  have sameWhole : ∀ number : Int,
      store.sameTo (depth + 1) (.whole number) (.whole number) = some true := by
    intro number
    rw [store.sameTo_whole depth, beq_self_eq_true]
  have outcome := @sameForm_of_hasAmounts store _ _ _ _ _ _ rfl sameWhole _ _ observer otherObserver
    found otherFound holds.hasAmounts otherHolds.hasAmounts onlyFields
  rw [sameTo]
  simp only [word?, sameOther, form_eq, otherForm_eq]
  exact outcome

theorem equals_of_holdsAmounts (holds : store.HoldsAmounts handle entries order amounts)
    (otherHolds : store.HoldsAmounts other others otherOrder amounts)
    (onlyFields : entries.areFields = true ∨ others.areFields = true) :
    store.equals (.form handle) (.form other) = .ok true := by
  -- The full depth of a comparison is 1000 levels, of which forms with amounts need two.
  have outcome : store.same (.form handle) (.form other) = some true :=
    sameTo_of_holdsAmounts 998 holds otherHolds onlyFields
  rw [equals, outcome]

/-- Records of the same amounts are equal in whatever order they list the fields. -/
theorem equals_recordEntries (store : Store) (naming : Naming) (origin otherOrigin : Origin)
    (complete : order.Perm Field.all) (otherComplete : otherOrder.Perm Field.all) :
    store.equals (.record (Form.recordEntries naming order amounts) origin)
      (.record (Form.recordEntries naming otherOrder amounts) otherOrigin) = .ok true := by
  have length_eq : (Form.recordEntries naming order amounts).length =
      (Form.recordEntries naming otherOrder amounts).length := by
    rw [Form.recordEntries, Form.recordEntries, List.length_map, List.length_map,
      complete.length_eq, otherComplete.length_eq]
  have equal : Entries.same (store.sameTo 999) (Form.recordEntries naming order amounts)
      (Form.recordEntries naming otherOrder amounts) = some true := by
    rw [Entries.same, if_pos length_eq]
    apply List.allM_eq_some_true
    intro entry member
    rcases List.mem_map.1 member with ⟨field, _, rfl⟩
    have listed : field ∈ otherOrder := otherComplete.mem_iff.2 (Field.mem_all field)
    have found : (Form.recordEntries naming otherOrder amounts).lookup (naming.of field) =
        some (.whole (amounts field).toNat) :=
      Field.lookup_key (Form.isKey_naming naming).injective
        (fun field => .whole (amounts field).toNat) listed
    simp only [found]
    apply matchesItem_of_same
    rw [store.sameTo_whole 998, beq_self_eq_true]
  have outcome : store.same (.record (Form.recordEntries naming order amounts) origin)
      (.record (Form.recordEntries naming otherOrder amounts) otherOrigin) = some true := equal
  rw [equals, outcome]

end PoolFees.Store

namespace PoolFees.FormOperation

variable {store : Store} {handle : Nat} {entries : Entries} {order : List Field}
  {amounts : Field → UInt64}

theorem perform_record_of_holds (holds : store.HoldsAmounts handle entries order amounts)
    (naming : Naming) : perform store (record naming) [.form handle] =
      .answer store (.ok (.record (Form.recordEntries naming order amounts) [])) := by
  have usable : entries.checkAbilities [.record] = .ok () :=
    holds.hasAmounts.checkAbilities (by decide)
  simp only [perform, entriesOf, holds.found, usable,
    Store.recordOf_of_hasAmounts naming holds.hasAmounts, Bind.bind, Except.bind]

theorem perform_document_of_holds (holds : store.HoldsAmounts handle entries order amounts)
    (naming : Naming) : perform store (document naming) [.form handle] =
      .answer store (.ok (.text (Form.compactText (Form.memberText naming amounts) order))) := by
  have usable : entries.checkAbilities [.document] = .ok () :=
    holds.hasAmounts.checkAbilities (by decide)
  simp only [perform, entriesOf, holds.found, usable,
    Store.documentText_of_hasAmounts naming holds.hasAmounts, Bind.bind, Except.bind, Except.map,
    String.ofList_toList]

theorem perform_toSchedule_of_holds (holds : store.HoldsAmounts handle entries order amounts) :
    perform store toSchedule [.form handle] =
      .answer store (.ok (.schedule (Schedule.ofFields amounts) [])) := by
  simp only [perform, entriesOf, holds.found, holds.hasAmounts.toSchedule, Bind.bind, Except.bind,
    Except.map]

/-- What is written of a form that holds amounts fills an equal form, of which the same schedule is
made. Its record is equal too, and the record and the document are the same when the first form held
the fields in the order of all forms that were filled. -/
theorem perform_written (holds : store.HoldsAmounts handle entries order amounts)
    (naming : Naming) :
    let filled := store.addForm (Form.entriesOf amounts)
    let again := Value.form store.forms.length
    ∃ written rewritten text retext schedule,
      perform store (record naming) [.form handle] = .answer store (.ok (.record written [])) ∧
      perform store (document naming) [.form handle] = .answer store (.ok (.text text)) ∧
      perform store toSchedule [.form handle] = .answer store (.ok (.schedule schedule [])) ∧
      (∀ value, store.record? value = some written →
        (∀ operation ∈ [fill, fillFields],
          perform store operation [value] = .update filled again) ∧
        perform store readSchedule [value] = .answer store (.ok (.schedule schedule []))) ∧
      perform store fillText [.text text] = .update filled again ∧
      Comparison.perform filled .equal [again, .form handle] = .ok (.truth true) ∧
      Comparison.perform filled .equal [.form handle, again] = .ok (.truth true) ∧
      perform filled (record naming) [again] = .answer filled (.ok (.record rewritten [])) ∧
      perform filled (document naming) [again] = .answer filled (.ok (.text retext)) ∧
      (∀ origin other, Comparison.perform filled .equal
        [.record rewritten origin, .record written other] = .ok (.truth true)) ∧
      (order = Field.all → rewritten = written ∧ retext = text) := by
  have kept := holds.addForm (Form.entriesOf amounts)
  have fresh := store.holdsAmounts_addForm amounts
  have complete := holds.hasAmounts.complete
  have onlyFields : (Form.entriesOf amounts).areFields = true := by
    rw [Entries.areFields_iff, fresh.hasAmounts.length_fields, Form.entriesOf, List.length_map]
  have filled : Form.ofRecord (Form.recordEntries naming order amounts) =
      .ok (Form.entriesOf amounts) := by
    apply Form.ofRecord_of_keys complete (Form.isKey_naming naming)
    intro field
    exact Amount.ofInt_amount _ (amounts field)
  refine ⟨_, _, _, _, _, perform_record_of_holds holds naming,
    perform_document_of_holds holds naming, perform_toSchedule_of_holds holds, ?_, ?_, ?_, ?_,
    perform_record_of_holds fresh naming, perform_document_of_holds fresh naming, ?_, ?_⟩
  · intro value given
    exact perform_of_filled given filled
  · exact perform_fillText_of_read
      (Form.ofText_of_writes complete (Form.writes_memberText naming amounts))
  · have equal := Store.equals_of_holdsAmounts fresh kept (.inl onlyFields)
    simp only [Comparison.perform, equal, Except.map]
  · have equal := Store.equals_of_holdsAmounts kept fresh (.inr onlyFields)
    simp only [Comparison.perform, equal, Except.map]
  · intro origin other
    simp only [Comparison.perform, Store.equals_recordEntries _ naming origin other
      (List.Perm.refl _) complete, Except.map]
  · rintro rfl
    exact ⟨rfl, rfl⟩

/-- A form that also has a note and holds its fields in reverse. -/
theorem perform_written_of_reversed :
    let entries : Entries := ("_note", .text "old") :: (Form.entriesOf fun _ => 7).reverse
    let store : Store := ⟨[], [entries], [⟨0, .absent, .absent, none⟩], .usual⟩
    let filled := store.addForm (Form.entriesOf fun _ => 7)
    store.HoldsAmounts 0 entries Field.all.reverse (fun _ => 7) ∧
      ∃ text, perform store (document .external) [.form 0] = .answer store (.ok (.text text)) ∧
        perform store fillText [.text text] = .update filled (.form 1) ∧
        Comparison.perform filled .equal [.form 1, .form 0] = .ok (.truth true) := by
  intro entries store filled
  have holds : store.HoldsAmounts 0 entries Field.all.reverse (fun _ => 7) := by
    refine ⟨⟨0, none, rfl⟩, rfl, List.reverse_perm _, rfl, ?_⟩
    intro ability _
    cases ability <;> rfl
  rcases perform_written holds .external with
    ⟨_, _, text, _, _, _, documented, _, _, filledAgain, equal, _⟩
  exact ⟨holds, text, documented, filledAgain, equal⟩

/-- Without the conditions on attributes, on hidden abilities and on the order this fails for forms
that have an amount in each field: a form to an attribute of which something was assigned equals no
form that was filled, a form that hides how it is written has no record, and a form with the two
numbers of each rate exchanged is not written as the form that is filled from its document. -/
theorem perform_written_fails :
    let entries := Form.entriesOf fun _ => 7
    let exchanged := Form.recordEntries .own
      (RateFee.all.flatMap fun fee => [⟨fee, .denominator⟩, ⟨fee, .numerator⟩]) fun _ => 7
    let ofHidden : Store := ⟨[], [entries], [⟨0, .whole 1, .absent, none⟩], .usual⟩
    let ofAdditional : Store :=
      ⟨[], [entries], [⟨0, .absent, .record [] [], none⟩], .usual⟩
    let ofAbility : Store :=
      ⟨[], [entries ++ [("model_dump", .whole 1)]], [⟨0, .absent, .absent, none⟩], .usual⟩
    let ofExchanged : Store := ⟨[], [exchanged], [⟨0, .absent, .absent, none⟩], .usual⟩
    (∀ store ∈ [ofHidden, ofAdditional, ofAbility, ofExchanged], ∀ field : Field,
      store.fieldValue 0 field = .ok (.whole 7)) ∧
    (∀ store ∈ [ofHidden, ofAdditional], ∃ written,
      perform store (record .own) [.form 0] = .answer store (.ok (.record written [])) ∧
      perform store fill [.record written []] = .update (store.addForm entries) (.form 1) ∧
      Comparison.perform (store.addForm entries) .equal [.form 1, .form 0] = .ok (.truth false)) ∧
    perform ofAbility (record .own) [.form 0] = .refuse ofAbility (.notCallable "int") ∧
    ∃ text retext,
      perform ofExchanged (document .own) [.form 0] = .answer ofExchanged (.ok (.text text)) ∧
      perform ofExchanged fillText [.text text] =
        .update (ofExchanged.addForm entries) (.form 1) ∧
      perform (ofExchanged.addForm entries) (document .own) [.form 1] =
        .answer (ofExchanged.addForm entries) (.ok (.text retext)) ∧
      text ≠ retext := by
  intro entries exchanged ofHidden ofAdditional ofAbility ofExchanged
  refine ⟨?_, ?_, rfl, ?_⟩
  · intro store member field
    rcases field with ⟨fee, part⟩
    simp only [List.mem_cons, List.not_mem_nil, or_false] at member
    rcases member with rfl | rfl | rfl | rfl <;> cases fee <;> cases part <;> rfl
  · intro store member
    have filled : Form.ofRecord entries = .ok entries :=
      Form.ofRecord_of_keys (List.Perm.refl _) (Form.isKey_naming .own) fun _ =>
        Amount.ofInt_amount _ 7
    have given : store.record? (.record entries []) = some entries := rfl
    have fills := (perform_of_filled given filled).1 fill (by decide)
    simp only [List.mem_cons, List.not_mem_nil, or_false] at member
    rcases member with rfl | rfl
    · exact ⟨entries, rfl, fills, rfl⟩
    · exact ⟨entries, rfl, fills, rfl⟩
  · have holds : ofExchanged.HoldsAmounts 0 exchanged
        (RateFee.all.flatMap fun fee => [⟨fee, .denominator⟩, ⟨fee, .numerator⟩]) (fun _ => 7) :=
      ⟨⟨0, none, rfl⟩, rfl, Form.hasAmounts_recordEntries (by decide) fun _ => 7⟩
    have fresh := ofExchanged.holdsAmounts_addForm fun _ => 7
    have read := Form.ofText_of_writes holds.hasAmounts.complete
      (Form.writes_memberText .own fun _ => 7)
    refine ⟨_, _, perform_document_of_holds holds .own, perform_fillText_of_read read,
      perform_document_of_holds fresh .own, ?_⟩
    decide +kernel

end PoolFees.FormOperation
