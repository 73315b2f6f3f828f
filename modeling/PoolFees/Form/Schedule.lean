import PoolFees.Form

/-!
# Schedules made of values

A schedule is made of eight values, which are checked in the order of the fields: the first one that
is not an integer within 64 bits decides why there is no schedule. A form is checked like that at
the moment when it is turned into a schedule, whatever was assigned to it before, and it is refused
at once when it lacks a field.
-/

namespace PoolFees

namespace Schedule

/-- The number that a value puts into a field of a schedule. Only bare integers are accepted. -/
def numberOf (field : Field) : Value → Except Fault UInt64
  | .whole number =>
    if inRange : 0 ≤ number ∧ number.toNat < UInt64.size then
      .ok (UInt64.ofNatLT number.toNat inRange.2)
    else refuse (.fieldOutOfRange field number)
  | other => refuse (.fieldNotInteger field other.typeName)

/-- The schedule that has the given values in its fields, which are checked in order. -/
def ofValues (values : Field → Value) : Except Fault Schedule := do
  Field.all.forM fun field => (numberOf field (values field)).map fun _ => ()
  .ok (ofFields fun field =>
    match numberOf field (values field) with
    | .ok number => number
    | .error _ => 0)

end Schedule

/-- An entry of a form as a schedule is made of it. What becomes a record in the record of the form
counts as one, whatever it holds. -/
def Value.outline : Value → Value
  | schedule .. | fixedPoint .. | looseFixedPoint .. | form _ => record [] []
  | other => other

/-- The schedule of the entries of a form. There has to be an entry for each field. -/
def Entries.toSchedule (entries : Entries) : Except Fault Schedule :=
  match Field.all.filter fun field => (entries.lookup field.name).isNone with
  | [] => Schedule.ofValues fun field => ((entries.lookup field.name).getD .absent).outline
  | missing => refuse (.missingFields missing)

/-- The schedule of a form with the given entries. It is made of the record of the form. -/
def Form.toSchedule (entries : Entries) : Except Fault Schedule := do
  entries.checkAbilities [.schedule, .record]
  entries.toSchedule

end PoolFees
