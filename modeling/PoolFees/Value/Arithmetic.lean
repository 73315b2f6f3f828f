import PoolFees.Binary64.Arithmetic
import PoolFees.Scientific.Arithmetic
import PoolFees.Value

/-!
# Arithmetic on values

Two numbers can be combined when they are of one kind or when one of them is an integer: with a
number of another kind an integer becomes one of that kind. Truth values count as integers. Words
are not combined here.

A product can also be a sequence that is repeated as often as an integer says. What comes of it is
refused wherever it could go, so it is enough to know its kind and that there is room for it.
-/

namespace PoolFees.Value

/-- The two operands of an operation, brought to one kind. -/
inductive Operands where
  | whole (left right : Int)
  | real (left right : Binary64)
  | scientific (left right : SignedScientific)

/-- A number as a binary floating-point number, unless it is one in powers of ten. -/
def toReal? : Value → Option (Except Fault Binary64)
  | .real number _ => some (.ok number)
  | other => other.integer?.map fun number =>
    match Binary64.ofInt? number with
    | some nearest => .ok nearest
    | none => refuse .realTooLarge

/-- A number in powers of ten, unless it is a binary floating-point number. -/
def toScientific? : Value → Option SignedScientific
  | .decimal negative number => some ⟨negative, number⟩
  | other => other.integer?.map SignedScientific.ofInt

/-- Brings two values to one kind of numbers, for an operation with a sign. -/
def operands (sign : String) (left right : Value) : Except Fault Operands :=
  match left.integer?, right.integer? with
  | some leftNumber, some rightNumber => .ok (.whole leftNumber rightNumber)
  | _, _ =>
    match left.toReal?, right.toReal? with
    | some leftReal, some rightReal => do
      let leftReal ← leftReal
      let rightReal ← rightReal
      .ok (.real leftReal rightReal)
    | _, _ =>
      match left.toScientific?, right.toScientific? with
      | some leftNumber, some rightNumber => .ok (.scientific leftNumber rightNumber)
      | _, _ => refuse (.noResult sign left.fullTypeName right.fullTypeName)

/-- The value of a number in powers of ten. -/
def ofSignedScientific (number : SignedScientific) : Value :=
  decimal number.negative number.magnitude

/-- The difference of two values. -/
def difference (left right : Value) : Except Fault Value := do
  match ← operands "-" left right with
  | .whole left right => .ok (whole (left - right))
  | .real left right => .ok (real (left.sub right) [])
  | .scientific left right => (left.sub right).map ofSignedScientific

/-- The largest number of items that can be counted. -/
def maxCount : Nat := Nat.pow 2 63 - 1

/-- The largest number of items for which there is memory. -/
def maxItems : Nat := Nat.pow 2 33

/-- The number of items of a sequence, and what the items of a sequence are called when there would
be too many to be counted. There is no such name for lists, for which memory runs out first. -/
def sequence? : Value → Option (Nat × Option String)
  | text content => some (content.length, some "string is")
  | bytes content => some (content.length, some "bytes are")
  | list items _ => some (items.length, none)
  | _ => none

/-- Repeats a sequence with the given number of items. -/
def checkRepetition (length : Nat) (items : Option String) (count : Value) : Except Fault Unit :=
  match count.integer? with
  | none => refuse (.notCount count.fullTypeName)
  | some count =>
    if (maxCount : Int) < count ∨ count < -(maxCount : Int) - 1 then refuse .countTooLarge
    else
      match items with
      | some items =>
        if maxCount < length * count.toNat then refuse (.repetitionTooLong items)
        else if maxItems < length * count.toNat then refuse .outOfMemory
        else .ok ()
      | none => if maxItems < length * count.toNat then refuse .outOfMemory else .ok ()

/-- The product of two values. A repeated sequence is not written out. -/
def product (left right : Value) : Except Fault Value :=
  match left.sequence?, right.sequence? with
  | some (length, items), _ => (checkRepetition length items right).map fun _ => left
  | none, some (length, items) => (checkRepetition length items left).map fun _ => right
  | none, none => do
    match ← operands "*" left right with
    | .whole left right => .ok (whole (left * right))
    | .real left right => .ok (real (left.mul right) [])
    | .scientific left right => (left.mul right).map ofSignedScientific

/-- The whole quotient of two values, rounded down. A quotient of numbers that are not integers is
refused, because it is not an integer either, whatever its value. -/
def quotient (left right : Value) : Except Fault Int := do
  match ← operands "//" left right with
  | .whole left right => .ok (left.fdiv right)
  | .real .. => refuse (.notInteger "float")
  | .scientific left right =>
    if left.magnitude.quotientTooLong right.magnitude then refuse (.scientific .quotientTooLong)
    else refuse (.notInteger "Decimal")

end PoolFees.Value
