import PoolFees.FixedPoint
import PoolFees.Quantity

/-!
# Values

Callers hand over values of any type, and every operation decides for itself which of them it
accepts. `Value` is the sum of all of them: the plain values of a document, words, fixed-point
numbers, fee schedules, forms and other fee calculators.

Some values change while they are held in several places: forms, the records that hold the entries
of forms, and words to a part of which something was assigned. Of these a value only holds a handle;
`PoolFees.Store` has the store that the handle belongs to.

The parts of a word can be assigned to without a check. A word whose parts need not go together is
loose, and so is a fixed-point number that holds one.
-/

namespace PoolFees

/-- The operations that a fee calculator offers. -/
inductive FeeOperation where
  | rate (fee : RateFee)
  | normalizedTrade
deriving DecidableEq, Repr, Inhabited

namespace FeeOperation

def all : List FeeOperation :=
  [rate .adminTrade, rate .adminWithdraw, rate .trade, rate .withdraw, normalizedTrade]

def name : FeeOperation → String
  | rate fee => fee.name
  | normalizedTrade => "normalized_trade_fee"

end FeeOperation

inductive Value where
  | absent
  | truth (flag : Bool)
  | whole (number : Int)
  | real (number : Binary64) (origin : Origin)
  | text (content : String)
  | bytes (content : List UInt8)
  | list (items : List Value) (origin : Origin)
  | record (entries : List (String × Value)) (origin : Origin)
  /-- A record that holds the entries of a form. -/
  | sharedRecord (handle : Nat)
  | word (bound : Word) (origin : Origin)
  /-- A word whose content need not be a number that fits its width. -/
  | looseWord (content width : Value) (origin : Origin)
  /-- A word of which a part was assigned to. -/
  | sharedWord (handle : Nat)
  | fixedPoint (number : FixedPoint) (origin : Origin)
  /-- A fixed-point number of which a part is a loose word. -/
  | looseFixedPoint (magnitude places : Value) (origin : Origin)
  | decimal (negative : Bool) (number : Scientific)
  | schedule (schedule : Schedule) (origin : Origin)
  | form (handle : Nat)
  /-- A fee calculator that answers every request for a fee with a given value. -/
  | calculator (answers : FeeOperation → Value) (origin : Origin)
  /-- An object of which only the names of its operations are known. -/
  | capability (operations : List String) (origin : Origin)
deriving Inhabited

namespace Value

/-- The identity of a value, if it has one besides its content. -/
def identity? : Value → Option Identity
  | form handle => some (.form handle)
  | sharedRecord handle => some (.record handle)
  | sharedWord handle => some (.word handle)
  | real _ origin | list _ origin | record _ origin | word _ origin | looseWord _ _ origin
  | fixedPoint _ origin | looseFixedPoint _ _ origin | schedule _ origin | calculator _ origin
  | capability _ origin => origin.identity?
  | _ => none

/-- Whether one value is the other, passed on. -/
def isIdentical (left right : Value) : Bool :=
  match left.identity?, right.identity? with
  | some leftIdentity, some rightIdentity => leftIdentity == rightIdentity
  | _, _ => false

/-- The value with an origin, which it keeps if it has one already. -/
def withOrigin (origin : Origin) : Value → Value
  | real number [] => real number origin
  | list items [] => list items origin
  | record entries [] => record entries origin
  | word bound [] => word bound origin
  | looseWord content width [] => looseWord content width origin
  | fixedPoint number [] => fixedPoint number origin
  | looseFixedPoint magnitude places [] => looseFixedPoint magnitude places origin
  | schedule rates [] => schedule rates origin
  | other => other

mutual

/-- A new value with an origin, like the new values that it is made of. -/
def madeAt (origin : Origin) : Value → Value
  | list items [] => list (itemsMadeAt origin 0 items) origin
  | record entries [] => record (entriesMadeAt origin 0 entries) origin
  | looseWord content width [] =>
    looseWord (madeAt (origin ++ [0]) content) (madeAt (origin ++ [1]) width) origin
  | other => other.withOrigin origin

/-- Values made within an origin, of which the first has the given position there. -/
def itemsMadeAt (origin : Origin) (position : Nat) : List Value → List Value
  | [] => []
  | item :: items =>
    madeAt (origin ++ [position]) item :: itemsMadeAt origin (position + 1) items

def entriesMadeAt (origin : Origin) (position : Nat) :
    List (String × Value) → List (String × Value)
  | [] => []
  | (key, value) :: entries =>
    (key, madeAt (origin ++ [position]) value) :: entriesMadeAt origin (position + 1) entries

end

/-- What messages call the type of a value. -/
def typeName : Value → String
  | absent => "NoneType"
  | truth _ => "bool"
  | whole _ => "int"
  | real .. => "float"
  | text _ => "str"
  | bytes _ => "bytes"
  | list .. => "list"
  | record .. | sharedRecord _ => "dict"
  | word .. | looseWord .. | sharedWord _ => "CheckedUint"
  | fixedPoint .. | looseFixedPoint .. | decimal .. => "Decimal"
  | schedule .. => "FeeConfig"
  | form _ => "FeesModel"
  | calculator .. | capability .. => "Schedule"

/-- What messages about comparing, combining and assigning call the type of a value: a number in
powers of ten goes by its full name there. -/
def fullTypeName : Value → String
  | decimal .. => "decimal.Decimal"
  | other => other.typeName

/-- What the fault about a value without a place in a document calls its type. -/
def documentTypeName : Value → String
  | word .. | looseWord .. | sharedWord _ => "swapmath.safe_int.CheckedUint"
  | calculator .. => "abc.Schedule"
  | other => "__main__." ++ other.typeName

/-- The integer that a value counts as beside integers: truth values count as one and zero. -/
def integer? : Value → Option Int
  | truth flag => some flag.toInt
  | whole number => some number
  | _ => none

/-- The integer that a value is, bare or bound to a width. Truth values are not integers, and what
is in a loose word does not count. -/
def integral? : Value → Except Fault Integral
  | whole number => .ok (.whole number)
  | word bound origin => .ok (.word bound origin)
  | other => refuse (.notInteger other.typeName)

def ofIntegral : Integral → Value
  | .whole number => whole number
  | .word bound origin => word bound origin

/-- Whether a value is a loose word. -/
def isLoose : Value → Bool
  | looseWord .. | sharedWord _ => true
  | _ => false

/-- The value of a new word. -/
def ofWord (bound : Word) : Value := word bound []

/-- The number that a value stands for, if it is a number and not a word. -/
def quantity? : Value → Option Quantity
  | truth flag => some (.ofInt flag.toInt)
  | whole number => some (.ofInt number)
  | real number _ => some (.ofBinary64 number)
  | decimal negative number => some (.ofScientific negative number)
  | _ => none

/-- The two parts of a fixed-point number. -/
def fixedPointParts? : Value → Option (Value × Value)
  | fixedPoint number _ => some (ofIntegral number.magnitude, ofIntegral number.places)
  | looseFixedPoint magnitude places _ => some (magnitude, places)
  | _ => none

/-- The value of an optional result. -/
def ofOption (wrap : α → Value) : Option α → Value
  | some result => wrap result
  | none => absent

end Value

/-- Values under names, in order. -/
abbrev Entries : Type := List (String × Value)

namespace Entries

/-- The entries with a value put under a name, in the place of one that is already there. -/
def put : Entries → String → Value → Entries
  | [], name, value => [(name, value)]
  | (other, content) :: rest, name, value =>
    if other = name then (name, value) :: rest else (other, content) :: put rest name value

/-- What is found under a name is among the entries. -/
theorem mem_of_lookup {entries : Entries} {name : String} {value : Value}
    (found : entries.lookup name = some value) : (name, value) ∈ entries := by
  rcases List.lookup_eq_some_iff.1 found with ⟨before, after, entries_eq, _⟩
  rw [entries_eq]
  exact List.mem_append_right before List.mem_cons_self

/-- What was put under a name is found there. -/
theorem lookup_put_same (entries : Entries) (name : String) (value : Value) :
    (entries.put name value).lookup name = some value := by
  induction entries with
  | nil => simp only [put, List.lookup_cons, beq_self_eq_true]
  | cons entry rest hypothesis =>
    obtain ⟨other, content⟩ := entry
    by_cases found : other = name
    · simp only [put, found, if_true, List.lookup_cons, beq_self_eq_true]
    · have differs : (name == other) = false := beq_eq_false_iff_ne.2 (Ne.symm found)
      simp only [put, found, if_false, List.lookup_cons, differs, hypothesis]

/-- Putting a value under a name leaves all other names alone. -/
theorem lookup_put_other (entries : Entries) {name other : String} (differs : other ≠ name)
    (value : Value) : (entries.put name value).lookup other = entries.lookup other := by
  have notSame : (other == name) = false := beq_eq_false_iff_ne.2 differs
  induction entries with
  | nil => simp only [put, List.lookup_nil, List.lookup_cons, notSame]
  | cons entry rest hypothesis =>
    obtain ⟨key, content⟩ := entry
    by_cases replaced : key = name
    · simp only [put, replaced, if_true, List.lookup_cons, notSame]
    · simp only [put, replaced, if_false, List.lookup_cons, hypothesis]

end Entries

/-- The entries of the record of a schedule. -/
def Schedule.entries (schedule : Schedule) : Entries :=
  Field.all.map fun field => (field.name, .whole (schedule.get field).toNat)

/-- The entries of the record of a fixed-point number with the given parts. -/
def Value.partEntries (magnitude places : Value) : Entries :=
  [("value", magnitude), ("decimals", places)]

/-- The entries of the record of a fixed-point number. -/
def FixedPoint.entries (number : FixedPoint) : Entries :=
  Value.partEntries (.ofIntegral number.magnitude) (.ofIntegral number.places)

end PoolFees
