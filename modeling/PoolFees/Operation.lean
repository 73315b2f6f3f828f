import PoolFees.Fault.Kind
import PoolFees.Form.Writing
import PoolFees.MulDiv

/-!
# Operations

What the library can be asked to do, in families: an operation works on words, compares values,
multiplies and divides, shows values, works on forms or on schedules, or asks about the library
itself. `PoolFees.Operation.Perform` says what each of them does.
-/

namespace PoolFees

/-- The operations on words. -/
inductive WordOperation where
  /-- Bind a value to a width, which is that of amounts unless another one is given. -/
  | bind
  | bindByte
  | bindAmount
  /-- The largest number that a width can hold. -/
  | largestOf
  | combine (operation : Word.Arithmetic)
  | widen
  | narrow
  | narrowToAmount
  | value
  | width
  | largest
  | isNonzero
  | above
  | below
  | atLeast
  | atMost
deriving DecidableEq, Repr, Inhabited

/-- The operations that compare values of any type. -/
inductive Comparison where
  | equal
  | unequal
  | distinct
  | contains
deriving DecidableEq, Repr, Inhabited

/-- The operations that multiply and divide. -/
inductive MulDivOperation where
  | compute (limits : MulDiv.Limits)
  | wide
  | narrow
deriving DecidableEq, Repr, Inhabited

/-- The operations that make and show values. -/
inductive TextOperation where
  | fixedPoint
  | plain
  | display
  | decimal
deriving DecidableEq, Repr, Inhabited

/-- The operations on forms and their entries. -/
inductive FormOperation where
  | readAmount
  | readAmounts
  | fill
  | fillFields
  | fillText
  | toSchedule
  | readSchedule
  | record (naming : Naming)
  | document (naming : Naming)
  | entry
  | assign
deriving DecidableEq, Repr, Inhabited

/-- The operations on fee schedules and other calculators. -/
inductive ScheduleOperation where
  | make
  | charge (operation : FeeOperation)
  | isCalculator
  | require
deriving DecidableEq, Repr, Inhabited

/-- The questions about the library itself. -/
inductive Inquiry where
  | constants
  | isKind (special general : FaultKind)
deriving DecidableEq, Repr, Inhabited

inductive Operation where
  | word (operation : WordOperation)
  | compare (operation : Comparison)
  | mulDiv (operation : MulDivOperation)
  | text (operation : TextOperation)
  | form (operation : FormOperation)
  | schedule (operation : ScheduleOperation)
  | inquire (inquiry : Inquiry)
deriving DecidableEq, Repr, Inhabited

end PoolFees
