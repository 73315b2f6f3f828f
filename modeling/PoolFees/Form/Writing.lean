import PoolFees.Form
import PoolFees.Validation.Writing

/-!
# Writing forms

A form is written under the names of its fields or under their external ones. Entries that do not
belong to a field are left out. `Naming.label` is all that is declared about this; the rest is the
matter of `PoolFees.Validation.Writing`.
-/

namespace PoolFees

/-- How the entries of forms are named in a record. -/
inductive Naming where
  | own
  | external
deriving DecidableEq, Repr, Inhabited

/-- The entries of a form that belong to fields, with their fields. -/
def Entries.fields (entries : Entries) : List (Field × Value) :=
  entries.filterMap fun (name, value) => (Field.ofName? name).map fun field => (field, value)

namespace Naming

def of : Naming → Field → String
  | own, field => field.name
  | external, field => field.externalName

/-- The entries of a form that are written, under the names that they are written under. -/
def label (naming : Naming) (entries : Entries) : Entries :=
  entries.fields.map fun (field, value) => (naming.of field, value)

end Naming

namespace Store

/-- The record of a form with the given entries. -/
def recordOf (store : Store) (naming : Naming) (entries : Entries) : Entries :=
  Validation.recordOf naming.label store entries

/-- The compact document of a form with the given entries. -/
def documentText (store : Store) (naming : Naming) (entries : Entries) :
    Except Fault (List Char) :=
  Validation.documentText naming.label store entries

end Store

end PoolFees
