import PoolFees.Store

/-!
# Equality of values

A word is compared by what is in it: it equals another word when their contents are equal, whatever
the widths, and an integer or truth value that equals its content, but no value of another kind.
Numbers that are not words are equal when they stand for the same number, and truth values count as
one and zero. Lists are compared item by item and records key by key, in any order of their keys.
Schedules, forms and fixed-point numbers equal only their own kind, and a calculator equals only
itself.

Within lists, records and forms a value also matches itself when it does not equal itself, as the
number `nan` does. Searching and counting work on the different values of a list: a value is kept
unless it matches one that was kept before. Since a word does not equal a real number of the same
value, it depends on the order which of several values is kept.

Values that change can lie within themselves, so a comparison need not have an outcome: `none` says
that it goes on forever.
-/

namespace PoolFees

namespace Value

/-- Equality of two values as numbers. -/
def sameQuantity (left right : Value) : Bool :=
  match left.quantity?, right.quantity? with
  | some leftQuantity, some rightQuantity => leftQuantity.same rightQuantity
  | _, _ => false

/-- Whether two values are the same item of a list: they are equal, or one is the other. -/
def matchesItem (same : Value → Value → Option Bool) (value other : Value) : Option Bool :=
  if value.isIdentical other then some true else same value other

/-- Equality of lists, item by item. -/
def sameItems (same : Value → Value → Option Bool) (items others : List Value) : Option Bool :=
  if items.length = others.length then
    (items.zip others).allM fun (item, other) => matchesItem same item other
  else some false

end Value

namespace Entries

/-- Equality of records: every entry of one has an equal entry under its key in the other. -/
def same (same : Value → Value → Option Bool) (entries others : Entries) : Option Bool :=
  if entries.length = others.length then
    entries.allM fun (key, value) =>
      match others.lookup key with
      | some other => Value.matchesItem same value other
      | none => some false
  else some false

/-- Whether all entries belong to fields. -/
def areFields (entries : Entries) : Bool :=
  entries.all fun (key, _) => (Field.ofName? key).isSome

/-- Equality of the entries that belong to fields. -/
def sameFields (same : Value → Value → Option Bool) (entries others : Entries) : Option Bool :=
  Field.all.allM fun field =>
    match entries.lookup field.name, others.lookup field.name with
    | some value, some other => Value.matchesItem same value other
    | none, none => some true
    | _, _ => some false

end Entries

namespace Store

/-- Equality of forms. Entries that do not belong to a field are not compared. -/
def sameForm (store : Store) (same : Value → Value → Option Bool) (left right : Form) :
    Option Bool := do
  if !(← same left.hidden right.hidden) then some false
  else if !(← same left.additional right.additional) then some false
  else
    match store.records[left.entries]?, store.records[right.entries]? with
    | some entries, some others =>
      if ← entries.same same others then some true
      else if entries.areFields && others.areFields then some false
      else entries.sameFields same others
    | _, _ => some false

/-- Equality of values that are not words, given the equality of what is in them. -/
def sameOther (store : Store) (same : Value → Value → Option Bool) (left right : Value) :
    Option Bool :=
  match left, right with
  | .absent, .absent => some true
  | .text content, .text others => some (content == others)
  | .bytes content, .bytes others => some (content == others)
  | .list items _, .list others _ => Value.sameItems same items others
  | .fixedPoint number _, .fixedPoint others _ => some (number.same others)
  | .schedule rates _, .schedule others _ => some (rates == others)
  | .form handle, .form other =>
    match store.form? handle, store.form? other with
    | some form, some others => store.sameForm same form others
    | _, _ => some false
  | .calculator .., _ | .capability .., _ => some (left.isIdentical right)
  | _, _ =>
    match store.record? left, store.record? right with
    | some entries, some others => entries.same same others
    | _, _ =>
      match left.fixedPointParts?, right.fixedPointParts? with
      | some (magnitude, places), some (otherMagnitude, otherPlaces) =>
        Value.sameItems same [magnitude, places] [otherMagnitude, otherPlaces]
      | _, _ => some (left.sameQuantity right)

/-- Equality of values that are followed down to a depth. -/
def sameTo (store : Store) : Nat → Value → Value → Option Bool
  | 0, _, _ => none
  | depth + 1, left, right =>
    let same := sameTo store depth
    match store.word? left, store.word? right with
    | some word, some other => same word.content other.content
    | some word, none =>
      if right.integer?.isSome then same word.content right else some false
    | none, some word =>
      if left.integer?.isSome then same word.content left else some false
    | none, none => store.sameOther same left right

/-- Equality of values. -/
def same (store : Store) : Value → Value → Option Bool := store.sameTo maxNesting

/-- Equality of values by a comparison that has to end. -/
def equals (store : Store) (left right : Value) : Except Fault Bool :=
  match store.same left right with
  | some outcome => .ok outcome
  | none => refuse (.endless .comparison)

/-- Whether a list has an item that matches a value. -/
def hasItem (store : Store) (items : List Value) (value : Value) : Bool :=
  items.any fun item => Value.matchesItem store.same item value == some true

/-- Refuses a value in which something can change. Such values cannot be told apart for good, so
they are neither counted nor found. Only the contents of words may change. -/
def checkFixedTo (store : Store) : Nat → Value → Except Fault Unit
  | 0, _ => refuse (.endless .display)
  | depth + 1, value =>
    match store.word? value, value.fixedPointParts? with
    | some word, _ => checkFixedTo store depth word.content
    | none, some (magnitude, places) => do
      checkFixedTo store depth magnitude
      checkFixedTo store depth places
    | none, none =>
      match value with
      | .list .. | .record .. | .sharedRecord _ | .form _ => refuse (.mutableItem value.typeName)
      | _ => .ok ()

def checkFixed (store : Store) : Value → Except Fault Unit := store.checkFixedTo maxNesting

/-- The items that are left when each item that matches one that was kept before is dropped. -/
def distinctAfter (store : Store) (kept : List Value) : List Value → Except Fault (List Value)
  | [] => .ok kept
  | item :: items => do
    store.checkFixed item
    distinctAfter store (if store.hasItem kept item then kept else kept ++ [item]) items

/-- The number of different values in a list. -/
def distinct (store : Store) (items : List Value) : Except Fault Nat :=
  (store.distinctAfter [] items).map List.length

/-- Whether a value is found among the different values of a list. -/
def contains (store : Store) (item : Value) (items : List Value) : Except Fault Bool := do
  let kept ← store.distinctAfter [] items
  store.checkFixed item
  .ok (store.hasItem kept item)

end Store

end PoolFees
