import PoolFees.Amount
import PoolFees.Form
import PoolFees.Validation.Reading

/-!
# Filling forms

A form is filled from a record that gives each field under its external name or, failing that, under
its own name; all other keys are ignored. What is declared is that there are eight fields and that
each of them is an amount. Lists of amounts are read in the same way, item by item. How records and
lists are read against that is the matter of `PoolFees.Validation.Reading`.
-/

namespace PoolFees

namespace Amount

/-- The validator of amounts. -/
def validate (value : Value) : Except ComplaintCause UInt64 := (ofValue value).mapError .amount

/-- What reports call a list of amounts, and the key that it stands under. -/
def listTitle : String := "Amounts"

def listKey : String := "values"

/-- Reads a list of amounts. -/
def ofList : Value → Except Report (List UInt64) := Validation.readList listTitle listKey validate

end Amount

namespace Field

/-- The names under which a record gives a field. -/
def names (field : Field) : Validation.FieldNames := ⟨field.externalName, field.name⟩

/-- The key under which a record gives a field, and the value there. -/
def entry? (field : Field) (entries : Entries) : Option (String × Value) :=
  field.names.entry? entries

/-- Reads a field from a record. -/
def read (field : Field) (entries : Entries) : Except Complaint UInt64 :=
  field.names.read Amount.validate entries

/-- A field is read by what the record gives for it. -/
theorem read_eq (field : Field) (entries : Entries) : field.read entries =
    match field.entry? entries with
    | none => .error ⟨[.key field.externalName], .missing⟩
    | some (key, value) =>
      match Amount.ofValue value with
      | .ok amount => .ok amount
      | .error fault => .error ⟨[.key key], .amount fault⟩ := by
  rw [read, Validation.FieldNames.read, entry?]
  cases field.names.entry? entries with
  | none => rfl
  | some entry =>
      simp only [Amount.validate]
      cases Amount.ofValue entry.2 <;> rfl

end Field

namespace Form

/-- The entries of the form that is filled from a record. -/
def ofRecord (entries : Entries) : Except Report Entries :=
  (Validation.collect title (Field.all.map fun field => field.read entries)).map fun _ =>
    entriesOf fun field => (field.read entries).toOption.getD 0

/-- The report of a document that is unusable as a whole. -/
def wholly : ComplaintCause → Report := Validation.wholly title

/-- The entries of the form that is filled from the text of a document. -/
def ofText : String → Except Report Entries := Validation.readText title ofRecord

end Form

end PoolFees
