import PoolFees.Operation.Perform
import PoolFees.Proofs.Amount

/-!
# Forms as they were filled

A form that was just filled has one entry for each field, which is an amount, and no others. Its
fields have these amounts as their values, none of its abilities is hidden, and the schedule that is
made of it has the same amounts.
-/

namespace PoolFees

namespace Field

theorem name_injective : Function.Injective name := by
  intro one other same
  have separate : ∀ one ∈ all, ∀ other ∈ all, one.name = other.name → one = other := by decide
  exact separate one (mem_all one) other (mem_all other) same

/-- In a list that has one entry for each of several fields, under keys that tell fields apart, each
is found under its key. -/
theorem lookup_key {κ : Type} [BEq κ] [LawfulBEq κ] {key : Field → κ}
    (injective : Function.Injective key) (content : Field → Value) {fields : List Field}
    {field : Field} (listed : field ∈ fields) :
    (fields.map fun field => (key field, content field)).lookup (key field) =
      some (content field) := by
  induction fields with
  | nil => cases listed
  | cons first rest hypothesis =>
      by_cases same : field = first
      · subst same
        simp only [List.map_cons, List.lookup_cons_self]
      · have differs : (key field == key first) = false := by
          rw [beq_eq_false_iff_ne]
          exact injective.ne same
        have later : field ∈ rest := List.mem_of_ne_of_mem same listed
        simp only [List.map_cons, List.lookup_cons, differs, hypothesis later]

theorem lookup_field (content : Field → Value) {fields : List Field} {field : Field}
    (listed : field ∈ fields) :
    (fields.map fun field => (field, content field)).lookup field = some (content field) := by
  have injective : Function.Injective fun field : Field => field := fun _ _ same => same
  exact lookup_key injective content listed

/-- No ability of a form has the name of a field. -/
theorem name_ne_ability (field : Field) (ability : Form.Ability) : ability.name ≠ field.name := by
  have separate : ∀ field ∈ all, ability.name ≠ field.name := by
    cases ability <;> decide
  exact separate field (mem_all field)

/-- No entry under the name of a field hides an ability. -/
theorem lookup_ability (content : Field → Value) (fields : List Field) (ability : Form.Ability) :
    (fields.map fun field => (field.name, content field)).lookup ability.name = none := by
  rw [List.lookup_eq_none_iff]
  intro entry present
  rcases List.mem_map.1 present with ⟨field, _, rfl⟩
  exact bne_iff_ne.2 (name_ne_ability field ability)

end Field

namespace Form

variable (amounts : Field → UInt64)

@[simp]
theorem lookup_entriesOf (field : Field) :
    (entriesOf amounts).lookup field.name = some (.whole (amounts field).toNat) :=
  Field.lookup_key Field.name_injective (fun field => .whole (amounts field).toNat)
    (Field.mem_all field)

@[simp]
theorem lookup_entriesOf_ability (ability : Ability) :
    (entriesOf amounts).lookup ability.name = none :=
  Field.lookup_ability (fun field => .whole (amounts field).toNat) Field.all ability

end Form

/-- Abilities can be used when no entry has their name. -/
theorem Entries.checkAbilities_of_unhidden {entries : Entries} {abilities : List Form.Ability}
    (unhidden : ∀ ability ∈ abilities, entries.lookup ability.name = none) :
    entries.checkAbilities abilities = .ok () := by
  have unfound :
      (abilities.map Form.Ability.name).findSome? (fun name => entries.lookup name) = none := by
    rw [List.findSome?_map]
    exact List.findSome?_eq_none_iff.2 unhidden
  rw [checkAbilities, Validation.checkUnhidden, unfound]

theorem Schedule.numberOf_amount (field : Field) (amount : UInt64) :
    numberOf field (.whole amount.toNat) = .ok amount := by
  have inRange : 0 ≤ (amount.toNat : Int) ∧ (amount.toNat : Int).toNat < UInt64.size :=
    ⟨Int.natCast_nonneg _, amount.toNat_lt⟩
  rw [numberOf, dif_pos inRange]
  exact congrArg Except.ok (UInt64.toNat_inj.1 UInt64.toNat_ofNatLT)

theorem Schedule.ofValues_amounts (amounts : Field → UInt64) :
    ofValues (fun field => .whole (amounts field).toNat) = .ok (ofFields amounts) := by
  simp only [ofValues, numberOf_amount]
  rfl

/-- The schedule that is made of a form with an amount for each field has these amounts. -/
theorem Form.toSchedule_of_lookup {entries : Entries} {amounts : Field → UInt64}
    (found : ∀ field : Field, entries.lookup field.name = some (.whole (amounts field).toNat))
    (unhidden : ∀ ability ∈ [Ability.schedule, .record], entries.lookup ability.name = none) :
    toSchedule entries = .ok (Schedule.ofFields amounts) := by
  have complete : (Field.all.filter fun field => (entries.lookup field.name).isNone) = [] := by
    rw [List.filter_eq_nil_iff]
    intro field _
    simp only [found, Option.isNone_some, Bool.false_eq_true, not_false_iff]
  have filled : entries.toSchedule = .ok (Schedule.ofFields amounts) := by
    rw [Entries.toSchedule, complete]
    simp only [found, Option.getD_some, Value.outline]
    exact Schedule.ofValues_amounts amounts
  rw [toSchedule, Entries.checkAbilities_of_unhidden unhidden]
  exact filled

theorem Form.toSchedule_entriesOf (amounts : Field → UInt64) :
    toSchedule (entriesOf amounts) = .ok (Schedule.ofFields amounts) :=
  toSchedule_of_lookup (lookup_entriesOf amounts) fun ability _ =>
    lookup_entriesOf_ability amounts ability

namespace Store

theorem form?_addForm_new (store : Store) (entries : Entries) :
    (store.addForm entries).form? store.forms.length =
      some ⟨store.records.length, .absent, .absent, none⟩ := by
  simp [form?, addForm]

/-- A form as it was filled has the amounts that it was filled with in its fields. -/
theorem fieldValue_addForm (store : Store) (amounts : Field → UInt64) (field : Field) :
    (store.addForm (Form.entriesOf amounts)).fieldValue store.forms.length field =
      .ok (.whole (amounts field).toNat) := by
  simp only [fieldValue, member, Validation.member, form?_addForm_new, entries?_addForm_new,
    Form.lookup_entriesOf]

end Store

end PoolFees
