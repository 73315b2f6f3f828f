import PoolFees.Value.Equality

/-!
# The order of values

Numbers are ordered as numbers, texts and bytes by their first difference, and lists by the first
items that differ. Values of other kinds are neither above nor below each other. Numbers in powers
of ten cannot be compared with the number `nan`; with all other numbers `nan` is neither above nor
below them.

A word is above a value when its content is above the content of that value. It is only words that
know how to do this: what is not a word cannot be found to be above a word, while it is below one
when the word is above it.
-/

namespace PoolFees

/-- The two directions in which values are ordered. -/
inductive Relation where
  | below
  | above
deriving DecidableEq, Repr, Inhabited

/-- The sign of a relation in messages. -/
def Relation.sign : Relation → String
  | below => "<"
  | above => ">"

/-- Whether an ordering is the one that a relation asks for. -/
def Relation.admits : Relation → Ordering → Bool
  | below, .lt | above, .gt => true
  | _, _ => false

namespace Value

/-- Whether a number is in powers of ten. -/
def isDecimal : Value → Bool
  | decimal .. => true
  | _ => false

/-- How two values that are neither words nor lists are ordered. -/
def relates (relation : Relation) (left right : Value) : Except Fault Bool :=
  match left, right with
  | text content, text others => .ok (relation.admits (compare content others))
  | bytes content, bytes others =>
    .ok (relation.admits (List.compareLex compare content others))
  | _, _ =>
    match left.quantity?, right.quantity? with
    | some leftQuantity, some rightQuantity =>
      match leftQuantity.compare? rightQuantity with
      | some ordering => .ok (relation.admits ordering)
      | none =>
        if left.isDecimal || right.isDecimal then refuse (.scientific .unordered) else .ok false
    | _, _ => refuse (.notComparable relation.sign left.fullTypeName right.fullTypeName)

end Value

namespace Store

/-- What a word is compared by; every other value is compared itself. -/
def unwrap (store : Store) (value : Value) : Value :=
  match store.word? value with
  | some word => word.content
  | none => value

/-- The first items of two lists that do not match, or the outcome of comparing the lengths when
there are none. -/
def firstDifference (store : Store) : List Value → List Value → Option (Ordering ⊕ (Value × Value))
  | item :: items, other :: others => do
    if ← Value.matchesItem store.same item other then firstDifference store items others
    else some (.inr (item, other))
  | items, others => some (.inl (compare items.length others.length))

/-- Whether a relation holds between values that are followed down to a depth. -/
def relatesTo (store : Store) : Nat → Relation → Value → Value → Except Fault Bool
  | 0, _, _, _ => refuse (.endless .display)
  | depth + 1, relation, left, right =>
    match relation, store.word? left, store.word? right with
    | .above, some word, _ => relatesTo store depth .above word.content (store.unwrap right)
    | .below, _, some word => relatesTo store depth .above word.content (store.unwrap left)
    | _, none, none =>
      match left, right with
      | .list items _, .list others _ =>
        match store.firstDifference items others with
        | none => refuse (.endless .comparison)
        | some (.inl ordering) => .ok (relation.admits ordering)
        | some (.inr (item, other)) => relatesTo store depth relation item other
      | _, _ => left.relates relation right
    | _, _, _ => refuse (.notComparable relation.sign left.fullTypeName right.fullTypeName)

/-- Whether a relation holds between two values. -/
def relates (store : Store) : Relation → Value → Value → Except Fault Bool :=
  store.relatesTo maxNesting

end Store

end PoolFees
