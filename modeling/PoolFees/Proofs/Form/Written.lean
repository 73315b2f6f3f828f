import PoolFees.Proofs.Form.Document

/-!
# What is written of a form

A form can hold more than the amounts it was filled with. `Form.HasAmounts` says that all fields
have amounts, in some order, and that the form can be written and turned into a schedule. Which
other entries it has makes no difference to either.

Such a form is written as a record with its amounts under the chosen names, or as the compact object
with one member for each of them. Each member is one of the ways to write its field that
`Field.Writes` has, so the document can be read again.
-/

namespace PoolFees

namespace Field

theorem ofName?_name (field : Field) : ofName? field.name = some field := by
  have each : ∀ field ∈ all, ofName? field.name = some field := by decide
  exact each field (mem_all field)

theorem name_of_ofName? {field : Field} {name : String} (named : ofName? name = some field) :
    field.name = name := by
  have same : (field.name == name) = true := by
    have passes := List.find?_some named
    exact passes
  exact eq_of_beq same

end Field

namespace Entries

variable {entries : Entries}

/-- A field is found among the entries that belong to fields as it is among all entries. -/
theorem lookup_fields (entries : Entries) (field : Field) :
    entries.fields.lookup field = entries.lookup field.name := by
  induction entries with
  | nil => rfl
  | cons entry rest ih =>
      rcases entry with ⟨name, value⟩
      cases named : Field.ofName? name with
      | none =>
          have differs : (field.name == name) = false := by
            rw [beq_eq_false_iff_ne]
            rintro rfl
            rw [Field.ofName?_name] at named
            cases named
          simp only [fields, List.filterMap_cons, named, Option.map_none, List.lookup_cons, differs]
          exact ih
      | some other =>
          obtain rfl := Field.name_of_ofName? named
          have sameTest : (field.name == other.name) = (field == other) := by
            rw [Bool.eq_iff_iff, beq_iff_eq, beq_iff_eq]
            exact Field.name_injective.eq_iff
          simp only [fields, List.filterMap_cons, named, Option.map_some, List.lookup_cons,
            sameTest]
          split
          · rfl
          · exact ih

theorem mem_fields {field : Field} {value : Value} (member : (field.name, value) ∈ entries) :
    (field, value) ∈ entries.fields := by
  have found : (Field.ofName? field.name).map (fun field => (field, value)) =
      some (field, value) := by
    rw [Field.ofName?_name, Option.map_some]
  exact List.mem_filterMap.2 ⟨(field.name, value), member, found⟩

theorem areFields_iff : entries.areFields = true ↔ entries.fields.length = entries.length := by
  simp only [areFields, fields, List.filterMap_length_eq_length, List.all_eq_true,
    Option.isSome_map]

end Entries

namespace Form

/-- Entries from which a form with the given amounts is written and turned into a schedule: each
field has its amount, and the fields come in the given order. There may be other entries, unless
they hide an ability that is needed for this. -/
structure HasAmounts (entries : Entries) (order : List Field) (amounts : Field → UInt64) :
    Prop where
  complete : order.Perm Field.all
  fields : entries.fields = order.map fun field => (field, .whole (amounts field).toNat)
  unhidden : ∀ ability ∈ [Ability.record, .document, .schedule], entries.lookup ability.name = none

/-- The record of a form with the given amounts. -/
def recordEntries (naming : Naming) (order : List Field) (amounts : Field → UInt64) : Entries :=
  order.map fun field => (naming.of field, .whole (amounts field).toNat)

theorem hasAmounts_recordEntries {order : List Field} (complete : order.Perm Field.all)
    (amounts : Field → UInt64) : HasAmounts (recordEntries .own order amounts) order amounts := by
  refine ⟨complete, ?_, ?_⟩
  · simp only [recordEntries, Naming.of, Entries.fields, List.filterMap_map, Function.comp_def,
      Field.ofName?_name, Option.map_some]
    rw [List.filterMap_eq_map']
  · intro ability _
    exact Field.lookup_ability (fun field => .whole (amounts field).toNat) order ability

/-- A form that was filled is its own record. -/
theorem hasAmounts_entriesOf (amounts : Field → UInt64) :
    HasAmounts (entriesOf amounts) Field.all amounts :=
  hasAmounts_recordEntries (List.Perm.refl Field.all) amounts

namespace HasAmounts

variable {entries others : Entries} {order : List Field} {amounts : Field → UInt64}

theorem lookup (has : HasAmounts entries order amounts) (field : Field) :
    entries.lookup field.name = some (.whole (amounts field).toNat) := by
  have listed : field ∈ order := has.complete.mem_iff.2 (Field.mem_all field)
  rw [← Entries.lookup_fields, has.fields]
  exact Field.lookup_field (fun field => .whole (amounts field).toNat) listed

theorem value_of_mem (has : HasAmounts entries order amounts) {field : Field} {value : Value}
    (member : (field.name, value) ∈ entries) : value = .whole (amounts field).toNat := by
  have inFields := Entries.mem_fields member
  rw [has.fields] at inFields
  rcases List.mem_map.1 inFields with ⟨_, _, same⟩
  cases same
  rfl

theorem length_fields (has : HasAmounts entries order amounts) :
    entries.fields.length = Field.all.length := by
  rw [has.fields, List.length_map, has.complete.length_eq]

theorem checkAbilities (has : HasAmounts entries order amounts) {abilities : List Ability}
    (needed : abilities ⊆ [.record, .document, .schedule]) :
    entries.checkAbilities abilities = .ok () := by
  apply Entries.checkAbilities_of_unhidden
  intro ability used
  exact has.unhidden ability (needed used)

theorem toSchedule (has : HasAmounts entries order amounts) :
    Form.toSchedule entries = .ok (Schedule.ofFields amounts) := by
  have needed : [Ability.schedule, .record] ⊆ [.record, .document, .schedule] := by decide
  apply toSchedule_of_lookup has.lookup
  intro ability used
  exact has.unhidden ability (needed used)

end HasAmounts

/-- The member for a field in the document of a form with the given amounts. -/
def memberText (naming : Naming) (amounts : Field → UInt64) (field : Field) : String :=
  String.ofList (Json.quote (naming.of field)) ++ ":" ++ Numeral.write (amounts field).toNat

theorem writes_memberText (naming : Naming) (amounts : Field → UInt64) (field : Field) :
    field.Writes (amounts field) (memberText naming amounts field) := by
  have isInteger : Json.IsInteger (Numeral.write (amounts field).toNat).toList
      (amounts field).toNat := by
    refine .inl ⟨Int.natCast_nonneg _, ?_⟩
    rw [Int.natAbs_natCast]
    exact Numeral.toList_write_ofNat _
  refine ⟨Json.quote (naming.of field), (Numeral.write (amounts field).toNat).toList, ?_, ?_,
    .inl isInteger⟩
  · simp [memberText]
  · cases naming with
    | own => exact .inr (Json.isText_quote field.name)
    | external => exact .inl (Json.isText_quote field.externalName)

theorem isKey_naming (naming : Naming) : Field.IsKey naming.of := by
  intro field
  cases naming with
  | own => exact .inr rfl
  | external => exact .inl rfl

end Form

namespace Json

/-- The compact form of an object that is not empty. -/
theorem write_object {members : List (String × Json)} (some : members ≠ []) :
    write (object members) =
      '{' :: (List.intercalate [','] (members.map fun (key, value) =>
        quote key ++ ':' :: write value) ++ ['}']) := by
  induction members with
  | nil => exact absurd rfl some
  | cons member rest ih =>
      rcases member with ⟨key, value⟩
      cases rest with
      | nil => simp [write, writeMembers]
      | cons next rest =>
        rcases next with ⟨nextKey, nextValue⟩
        have later := ih (by simp)
        simp only [write, writeMembers, List.map_cons, List.cons.injEq, true_and] at later ⊢
        rw [later]
        simp

end Json

namespace Store

variable {store : Store} {entries : Entries} {order : List Field} {amounts : Field → UInt64}

theorem recordOf_of_hasAmounts (naming : Naming) (has : Form.HasAmounts entries order amounts) :
    store.recordOf naming entries = Form.recordEntries naming order amounts := by
  have kept : ∀ number : Int,
      Validation.recorded naming.label store Validation.maxDepth [] (.whole number) =
        pure (.whole number) := fun _ => rfl
  rw [recordOf, Validation.recordOf, Naming.label, has.fields, List.map_map, List.mapM_map]
  simp only [Function.comp_def, kept, pure_bind, List.mapM_pure]
  rfl

theorem documentText_of_hasAmounts (naming : Naming) (has : Form.HasAmounts entries order amounts) :
    store.documentText naming entries =
      .ok (Form.compactText (Form.memberText naming amounts) order).toList := by
  have members_eq : Validation.members naming.label
        (Validation.document naming.label store Validation.maxDepth []) entries =
      .ok (order.map fun field => (naming.of field, .whole (amounts field).toNat)) := by
    rw [Validation.members, Naming.label, has.fields, List.map_map, List.mapM_map]
    exact List.mapM_pure
  have some : order ≠ [] := by
    rintro rfl
    exact absurd has.complete.length_eq (by decide)
  simp only [documentText, Validation.documentText, members_eq, Bind.bind, Except.bind]
  rw [Json.write_object (by simpa using some)]
  simp [Form.compactText, Form.memberText, String.toList_intercalate, Function.comp_def, Json.write]

end Store

end PoolFees
