import PoolFees.Fault

/-!
# Kinds of faults

Callers tell faults apart by kind. Kinds form a hierarchy in which a kind can have several more
general ones: a fee schedule that is out of range is both a fault of the fee library and a bad
value. `FaultKind.IsA` is that order.
-/

namespace PoolFees

inductive FaultKind where
  /-- Every fault. -/
  | any
  | arithmetic
  | value
  | type
  /-- Every fault that fee calculations raise themselves. -/
  | fees
  | feeSchedule
  | instruction
  /-- Every fault of the words. -/
  | word
  | wordOverflow
  | wordMismatch
  | overflow
  | conversion
  | scientificOverflow
  | memory
  | recursion
  | assignment
  | frozen
  | validation
  | writing
  | receiver
deriving DecidableEq, Repr, Inhabited

namespace FaultKind

/-- The kinds that include a kind, the kind itself first. -/
def generalizations : FaultKind → List FaultKind
  | any => [any]
  | arithmetic => [arithmetic, any]
  | value => [value, any]
  | type => [type, any]
  | fees => [fees, any]
  | feeSchedule => [feeSchedule, fees, value, any]
  | instruction => [instruction, fees, any]
  | word => [word, arithmetic, any]
  | wordOverflow => [wordOverflow, word, arithmetic, any]
  | wordMismatch => [wordMismatch, word, arithmetic, any]
  | overflow => [overflow, arithmetic, any]
  | conversion => [conversion, arithmetic, any]
  | scientificOverflow => [scientificOverflow, arithmetic, any]
  | memory => [memory, any]
  | recursion => [recursion, any]
  | assignment => [assignment, any]
  | frozen => [frozen, assignment, any]
  | validation => [validation, value, any]
  | writing => [writing, value, any]
  | receiver => [receiver]

/-- Every fault of the first kind is also one of the second. -/
def IsA (special general : FaultKind) : Prop := general ∈ special.generalizations

instance (special general : FaultKind) : Decidable (special.IsA general) :=
  inferInstanceAs (Decidable (_ ∈ _))

end FaultKind

/-- The kind of a fault. -/
def Fault.kind : Fault → FaultKind
  | wrongReceiver => .receiver
  | notInteger _ | notComparable .. | noResult .. | notCount _ | fieldNotInteger ..
  | missingFields _ | mutableItem _ | notClass _ | notRecord _ | notCallable _ | noEntries _ =>
    .type
  | negativeWord .. | wordTooLarge .. => .wordOverflow
  | widthMismatch .. => .wordMismatch
  | notLiteral _ | literalTooLong _ | notReal _ | notHexadecimal _ | negativeWidth
  | numeralTooLong | narrowerWidth .. | noField _ | amount _ => .value
  | widthTooLarge | countTooLarge | repetitionTooLong _ | realTooLarge => .overflow
  | scientific .overflow => .scientificOverflow
  | scientific _ => .conversion
  | outOfMemory => .memory
  | endless _ => .recursion
  | readOnly .. | readOnlyOperation _ | readOnlyReference _ | sharedAttribute _ | noAttribute .. =>
    .assignment
  | frozen _ => .frozen
  | fieldOutOfRange .. => .feeSchedule
  | feeUnavailable _ => .instruction
  | circularDocument | documentTooDeep | unwritable _ | notUtf8 _ => .writing
  | invalid _ => .validation

end PoolFees
