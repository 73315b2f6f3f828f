import PoolFees.Effect

/-!
# Assigning to parts of values

What an assignment does is decided by the kind of its receiver and by the name of the part. The two
parts of a word are kept under reserved names, which start with an underscore, and take any value,
so a word can become loose. Schedules and fixed-point numbers are frozen.

A field of a form takes any value, and a record can take the place of all entries at once. The
record is not copied: what is assigned to the form later is seen in the record as well. Forms accept
every other reserved name too and keep what is assigned there among their entries, unless the name
stands for something that all forms have. All other names are refused, and the fault says whether
the part exists, is only read or belongs to all values of the kind.
-/

namespace PoolFees.Assignment

/-- The names that are kept from ordinary use. -/
def isReserved (name : String) : Bool := name.startsWith "_"

/-- The name of the kind of a value. Only another kind could be assigned to it, and no value is
one. -/
def kindName : String := "__class__"

namespace Word

/-- The names of the parts of a word. -/
def contentName : String := "_value"

def widthName : String := "_bits"

/-- The names under which a word is read. -/
def properties : List String := ["value", "bits", "max"]

/-- The names of what all words have in common. -/
def common : List String :=
  ["checked_sub", "checked_mul", "checked_div", "widen", "narrow", "to_u64", "_operand",
    "__annotations__", "__bool__", "__delattr__", "__dir__", "__doc__", "__eq__", "__format__",
    "__ge__", "__getattribute__", "__getstate__", "__gt__", "__hash__", "__init__",
    "__init_subclass__", "__le__", "__lt__", "__module__", "__ne__", "__new__", "__reduce__",
    "__reduce_ex__", "__repr__", "__setattr__", "__sizeof__", "__slots__", "__str__",
    "__subclasshook__"]

/-- Why a value cannot be assigned under a name that is not that of a part. -/
def fault (name : String) (value : Value) : Fault :=
  if name = kindName then .notClass value.fullTypeName
  else if properties.contains name then .readOnly "CheckedUint" name
  else if common.contains name then .readOnlyOperation name
  else .noAttribute "CheckedUint" name

/-- A word after an assignment to one of its parts. -/
def assign? (word : LooseWord) (name : String) (value : Value) : Option LooseWord :=
  if name = contentName then some { word with content := value }
  else if name = widthName then some { word with width := value }
  else none

/-- Assigns a value to a named part of the word that was made at an origin. -/
def assign (store : Store) (word : LooseWord) (origin : Origin) (name : String) (value : Value) :
    Effect :=
  match assign? word name value with
  | some changed => .move (store.addWord changed) ⟨origin, .sharedWord store.words.length⟩
  | none => .refuse store (fault name value)

/-- Assigns a value to a named part of the word with a handle. -/
def assignShared (store : Store) (handle : Nat) (name : String) (value : Value) : Effect :=
  match (store.words[handle]?).bind fun word => assign? word name value with
  | some changed => .update (store.setWord handle changed) .absent
  | none => .refuse store (fault name value)

end Word

namespace Form

/-- The name of all entries together. -/
def entriesName : String := "__dict__"

/-- The name under which references to a form are kept. -/
def referencesName : String := "__weakref__"

/-- The names of the attributes that a form has beside its entries. -/
def hiddenName : String := "__pydantic_private__"

def additionalName : String := "__pydantic_extra__"

def observerName : String := "__pydantic_fields_set__"

/-- The names under which a form is read. -/
def properties : List String := ["model_extra", "model_fields_set", "__fields_set__", "__fields__"]

/-- The names of what is shared by all forms. -/
def common : List String :=
  ["__class_vars__", "__private_attributes__", "__signature__", "__pydantic_complete__",
    "__pydantic_core_schema__", "__pydantic_custom_init__", "__pydantic_decorators__",
    "__pydantic_generic_metadata__", "__pydantic_parent_namespace__", "__pydantic_post_init__",
    "__pydantic_root_model__", "__pydantic_serializer__", "__pydantic_validator__",
    "__pydantic_fields__", "__pydantic_setattr_handlers__", "__pydantic_computed_fields__"]

/-- Why a value cannot be assigned under a name that is not that of an entry, if it cannot. -/
def fault? (name : String) (value : Value) : Option Fault :=
  if name = kindName then some (.notClass value.fullTypeName)
  else if properties.contains name then some (.readOnly Form.title name)
  else if common.contains name then some (.sharedAttribute name)
  else if name = referencesName then some (.readOnlyReference name)
  else if isReserved name then none
  else some (.noField name)

/-- Assigns a value to a field of a form, which is told to the observer of the form. -/
def assignField (store : Store) (handle : Nat) (field : Field) (value : Value) : Effect :=
  let store := store.put handle field.name value
  match (store.form? handle).bind Form.observer with
  | some observer => .answer store ((store.checkOperation "add" observer).map fun _ => .absent)
  | none => .update store .absent

/-- Makes a record the record of entries of a form. -/
def assignEntries (store : Store) (handle : Nat) : Value → Effect
  | .record entries origin =>
    let shared := store.records.length
    let changed := (store.addRecord entries).modifyForm handle fun form =>
      { form with entries := shared }
    .move changed ⟨origin, .sharedRecord shared⟩
  | .sharedRecord shared =>
    .update (store.modifyForm handle fun form => { form with entries := shared }) .absent
  | other => .refuse store (.notRecord other.fullTypeName)

/-- Assigns a value under a name that a form takes beside its fields. -/
def assignReserved (store : Store) (handle : Nat) (name : String) (value : Value) : Store :=
  if name = hiddenName then store.modifyForm handle fun form => { form with hidden := value }
  else if name = additionalName then
    store.modifyForm handle fun form => { form with additional := value }
  else if name = observerName then
    store.modifyForm handle fun form => { form with observer := some value }
  else store.put handle name value

/-- Assigns a value to a named part of a form. Entries can hide how a form does this, but fields are
assigned nevertheless. -/
def assign (store : Store) (handle : Nat) (name : String) (value : Value) : Effect :=
  match Field.ofName? name with
  | some field => assignField store handle field value
  | none =>
    match ((store.entries? handle).getD []).checkAbilities [.assign] with
    | .error fault => .refuse store fault
    | .ok () =>
      if name = entriesName then assignEntries store handle value
      else
        match fault? name value with
        | some fault => .refuse store fault
        | none => .update (assignReserved store handle name value) .absent

end Form

/-- Assigns a value to a named part of another value. -/
def perform (store : Store) (name : String) (value : Value) : Value → Effect
  | .word bound origin => Word.assign store (.ofWord bound) origin name value
  | .looseWord content width origin => Word.assign store ⟨content, width⟩ origin name value
  | .sharedWord handle => Word.assignShared store handle name value
  | .fixedPoint .. | .looseFixedPoint .. | .schedule .. => .refuse store (.frozen name)
  | .form handle => Form.assign store handle name value
  | _ => .refuse store .wrongReceiver

end PoolFees.Assignment
