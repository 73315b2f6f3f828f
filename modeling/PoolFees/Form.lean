import PoolFees.Validation.Model

/-!
# Forms

A form holds the eight numbers of a fee schedule before they are put to use. It is filled from
external configuration with checked amounts, but its entries can be changed afterwards to values of
any type, and all of them can be replaced at once by those of a record. So being a form promises
nothing about its entries, not even that there is one for each field.

Forms are the instances of a model, so most of what they can do they share with the instances of all
models. Only turning a form into a schedule is their own.
-/

namespace PoolFees

namespace Form

/-- What reports call a form. -/
def title : String := "FeesModel"

/-- The entries of the form with the given amounts. -/
def entriesOf (amounts : Field → UInt64) : Entries :=
  Field.all.map fun field => (field.name, .whole (amounts field).toNat)

/-- What all forms can do. An entry under such a name hides it. -/
inductive Ability where
  | title
  | fieldTexts
  | fields
  | assign
  | record
  | document
  | schedule
deriving DecidableEq, Repr, Inhabited

/-- The name of an ability. -/
def Ability.name : Ability → String
  | title => "__repr_name__"
  | fieldTexts => "__repr_str__"
  | fields => "__repr_args__"
  | assign => "_setattr_handler"
  | record => "model_dump"
  | document => "model_dump_json"
  | schedule => "to_config"

end Form

/-- Refuses to use abilities of a form that are hidden by its entries. -/
def Entries.checkAbilities (entries : Entries) (abilities : List Form.Ability) :
    Except Fault Unit :=
  Validation.checkUnhidden entries (abilities.map Form.Ability.name)

namespace Store

/-- What a form has under a name that not all forms have. -/
def member (store : Store) (handle : Nat) (name : String) : Except Fault Value :=
  Validation.member Form.title store handle name

/-- The value in a field of a form. -/
def fieldValue (store : Store) (handle : Nat) (field : Field) : Except Fault Value :=
  store.member handle field.name

/-- Looks for an operation of a value. A form has none but its abilities. -/
def checkOperation (store : Store) (name : String) (value : Value) : Except Fault Unit :=
  Validation.checkOperation Form.title store name value

end Store

end PoolFees
