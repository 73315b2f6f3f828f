import PoolFees.Value.Equality

/-!
# Models

External configuration is checked against models by a library of its own, which knows nothing of
fees. Here is what it does with the instances of every model; the model itself only comes in by its
title. `PoolFees.Form` has the one model that there is.

An instance has a record of entries. An entry that is missing is looked for among the additional
entries of the instance. There is a place for them in every instance, but they are only there when
they were put there. An entry under the name of something that all instances can do hides it.
-/

namespace PoolFees.Validation

/-- Refuses to use what is hidden by entries, given the names under which it is found. -/
def checkUnhidden (entries : Entries) (names : List String) : Except Fault Unit :=
  match names.findSome? fun name => entries.lookup name with
  | some value => refuse (.notCallable value.fullTypeName)
  | none => .ok ()

/-- Whether a value counts as something: a number other than zero, or what is not empty. -/
def isSomething (store : Store) (value : Value) : Except Fault Bool :=
  match value with
  | .absent => .ok false
  | .truth flag => .ok flag
  | .text content => .ok !content.isEmpty
  | .bytes content => .ok !content.isEmpty
  | .list items _ => .ok !items.isEmpty
  | .whole _ | .real .. | .decimal .. => .ok !value.sameQuantity (.whole 0)
  | _ =>
    match store.word? value, store.record? value with
    | some word, _ => (store.equals word.content (.whole 0)).map (!·)
    | none, some entries => .ok !entries.isEmpty
    | none, none => .ok true

/-- What an instance of a model with a title has under a name that not all instances have. -/
def member (title : String) (store : Store) (handle : Nat) (name : String) :
    Except Fault Value := do
  match store.form? handle, store.entries? handle with
  | some form, some entries =>
    match entries.lookup name with
    | some value => .ok value
    | none =>
      if ← isSomething store form.additional then
        match store.record? form.additional with
        | some additional =>
          match additional.lookup name with
          | some value => .ok value
          | none => refuse (.noAttribute title name)
        | none => refuse (.noEntries form.additional.fullTypeName)
      else refuse (.noAttribute title name)
  | _, _ => refuse .wrongReceiver

/-- Looks for an operation that no value has but an object which is known by its operations. -/
def checkOperation (title : String) (store : Store) (name : String) (value : Value) :
    Except Fault Unit :=
  match value with
  | .capability operations _ =>
    if operations.contains name then .ok () else refuse (.noAttribute value.fullTypeName name)
  | .form handle => do
    let found ← member title store handle name
    refuse (.notCallable found.fullTypeName)
  | other => refuse (.noAttribute other.fullTypeName name)

end PoolFees.Validation
