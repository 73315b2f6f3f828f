import PoolFees.Assignment
import PoolFees.Constants
import PoolFees.Form.Reading
import PoolFees.Form.Schedule
import PoolFees.Operation
import PoolFees.Scientific.Literal

/-!
# Performing operations

An operation is performed on the values of its arguments and on the store of what can change, and on
nothing else. Most operations leave the store as it is: only filling a form and assigning to a part
of a value change it. An operation that is not defined on its arguments has no receiver.
-/

namespace PoolFees

namespace WordOperation

/-- Performs an operation on a word and on operands that are not loose. -/
def performOn (memory : Memory) (receiver : Word) : WordOperation → List Value → Except Fault Value
  | combine operation, [operand] => (receiver.combine operation operand).map (.ofOption .ofWord)
  | widen, [.whole bits] => (receiver.widen memory bits).map .ofWord
  | narrow, [.whole bits] => (receiver.narrow memory bits).map (.ofOption .ofWord)
  | narrowToAmount, [] => .ok (.ofOption .ofWord (receiver.resize? MulDiv.amount))
  | value, [] => .ok (.whole receiver.value)
  | width, [] => .ok (.whole receiver.width.bits)
  | largest, [] => .ok (.whole (Word.largest receiver.width))
  | isNonzero, [] => .ok (.truth (receiver.value != 0))
  | _, _ => refuse .wrongReceiver

/-- Performs an operation on the parts of a word. -/
def performLoose (store : Store) (receiver : LooseWord) :
    WordOperation → List Value → Except Fault Value
  | combine operation, [operand] =>
    (receiver.combine store operation operand).map (.ofOption LooseWord.toValue)
  | widen, [bits] => (receiver.widen store bits).map LooseWord.toValue
  | narrow, [bits] => (receiver.narrow store bits).map (.ofOption LooseWord.toValue)
  | narrowToAmount, [] =>
    (receiver.narrow store (.whole MulDiv.amountWidth)).map (.ofOption LooseWord.toValue)
  | value, [] => .ok receiver.content
  | width, [] => .ok receiver.width
  | largest, [] => (receiver.largest store).map fun number => .whole number
  | isNonzero, [] => (receiver.isNonzero store).map .truth
  | _, _ => refuse .wrongReceiver

/-- Whether an operation that gives the width as a value does so by an integer. -/
def widthIsWhole : WordOperation → List Value → Bool
  | widen, [.whole _] | narrow, [.whole _] => true
  | widen, _ | narrow, _ => false
  | _, _ => true

/-- Compares a word with a value. A word is only below another word. -/
def compareWord (store : Store) (receiver operand : Value) : WordOperation → Except Fault Value
  | above => (store.relates .above receiver operand).map .truth
  | below =>
    if (store.word? operand).isSome then (store.relates .below receiver operand).map .truth
    else refuse (.notComparable "<" "CheckedUint" operand.fullTypeName)
  | atLeast => refuse (.notComparable ">=" "CheckedUint" operand.fullTypeName)
  | atMost => refuse (.notComparable "<=" "CheckedUint" operand.fullTypeName)
  | _ => refuse .wrongReceiver

/-- Whether an operation compares a word with a value. -/
def isComparison : WordOperation → Bool
  | above | below | atLeast | atMost => true
  | _ => false

/-- Performs an operation that has a word as its receiver. -/
def performWith (store : Store) (receiver : Value) (operands : List Value)
    (operation : WordOperation) : Except Fault Value :=
  match store.word? receiver with
  | none => refuse .wrongReceiver
  | some parts =>
    match operation.isComparison, operands, receiver with
    | true, [operand], _ => compareWord store receiver operand operation
    | _, _, .word bound _ =>
      if operands.any Value.isLoose || !operation.widthIsWhole operands then
        operation.performLoose store parts operands
      else operation.performOn store.memory bound operands
    | _, _, _ => operation.performLoose store parts operands

def perform (store : Store) : WordOperation → List Value → Except Fault Value
  | bind, [operand] => store.bindWord (.whole MulDiv.amountWidth) operand
  | bind, [operand, bits] => store.bindWord bits operand
  | bindByte, [operand] => store.bindWord (.whole coinsWidth) operand
  | bindAmount, [operand] => store.bindWord (.whole MulDiv.amountWidth) operand
  | largestOf, [bits] =>
    (LooseWord.widthOf store bits).map fun width => .whole (Word.largest width)
  | operation, receiver :: operands => operation.performWith store receiver operands
  | _, [] => refuse .wrongReceiver

end WordOperation

namespace Comparison

def perform (store : Store) : Comparison → List Value → Except Fault Value
  | equal, [left, right] => (store.equals left right).map .truth
  | unequal, [left, right] => (store.equals left right).map fun same => .truth !same
  | distinct, [.list items _] => (store.distinct items).map fun count => .whole count
  | contains, [item, .list items _] => (store.contains item items).map .truth
  | _, _ => refuse .wrongReceiver

end Comparison

namespace MulDivOperation

def perform (store : Store) : MulDivOperation → List Value → Except Fault Value
  | compute limits, [left, right, divisor] => (store.mulDiv limits left right divisor).map .ofFee
  | wide, [.word left _, .word right _, .word divisor _] =>
    (MulDiv.wide MulDiv.words left right divisor).outcome.map
      (.ofOption fun quotient => .whole quotient.value)
  | narrow, [.word left _, .word right _, .word divisor _] =>
    (MulDiv.narrow MulDiv.words left right divisor).outcome.map
      (.ofOption fun quotient => .whole quotient.value)
  | wide, [left, right, divisor] =>
    match store.word? left, store.word? right, store.word? divisor with
    | some left, some right, some divisor =>
      (MulDiv.wide (LooseWord.representation store) left right divisor).outcome.map
        (.ofOption LooseWord.content)
    | _, _, _ => refuse .wrongReceiver
  | narrow, [left, right, divisor] =>
    match store.word? left, store.word? right, store.word? divisor with
    | some left, some right, some divisor =>
      (MulDiv.narrow (LooseWord.representation store) left right divisor).outcome.map
        (.ofOption LooseWord.content)
    | _, _, _ => refuse .wrongReceiver
  | _, _ => refuse .wrongReceiver

end MulDivOperation

namespace TextOperation

def perform (store : Store) : TextOperation → List Value → Except Fault Value
  | fixedPoint, [magnitude, places] => store.pairFixedPoint magnitude places
  | plain, [value] =>
    if (store.word? value).isSome || value.fixedPointParts?.isSome then
      (store.plainText value).map .text
    else refuse .wrongReceiver
  | display, [value] =>
    match value with
    | .schedule .. | .form _ => (store.display value).map .text
    | _ =>
      if (store.word? value).isSome || value.fixedPointParts?.isSome then
        (store.display value).map .text
      else refuse .wrongReceiver
  | decimal, [value] =>
    if value.fixedPointParts?.isSome then do
      let (negative, number) ← Scientific.ofText (← store.plainText value)
      .ok (.decimal negative number)
    else refuse .wrongReceiver
  | _, _ => refuse .wrongReceiver

end TextOperation

namespace FormOperation

/-- Adds a form with the entries that were read, or refuses with the report about them. -/
def keep (store : Store) : Except Report Entries → Effect
  | .ok entries => .update (store.addForm entries) (.form store.forms.length)
  | .error report => .refuse store (.invalid report)

/-- Fills a form from a value. A form stands for itself. -/
def fillFrom (store : Store) (value : Value) : Effect :=
  match store.record? value, value with
  | some entries, _ => keep store (Form.ofRecord entries)
  | none, .form handle => .answer store (.ok (.form handle))
  | none, _ => .refuse store (.invalid (Form.wholly .notForm))

/-- The entries of the form with a handle. -/
def entriesOf (store : Store) (handle : Nat) : Except Fault Entries :=
  match store.entries? handle with
  | some entries => .ok entries
  | none => PoolFees.refuse .wrongReceiver

/-- Fills a form from a value and makes a schedule of it at once. The form itself is not kept. -/
def scheduleFrom (store : Store) (value : Value) : Except Fault Schedule :=
  match store.record? value, value with
  | some entries, _ =>
    match Form.ofRecord entries with
    | .ok entries => Form.toSchedule entries
    | .error report => refuse (.invalid report)
  | none, .form handle => do
    let entries ← entriesOf store handle
    Form.toSchedule entries
  | none, _ => refuse (.invalid (Form.wholly .notForm))

/-- The field at a position in the order of fields. -/
def fieldAt (position : Int) : Except Fault Field :=
  match if position < 0 then none else Field.all[position.toNat]? with
  | some field => .ok field
  | none => PoolFees.refuse .wrongReceiver

def perform (store : Store) : FormOperation → List Value → Effect
  | readAmount, [value] =>
    .answer store (match Amount.ofValue value with
      | .ok amount => .ok (.whole amount.toNat)
      | .error fault => refuse (.amount fault))
  | readAmounts, [value] =>
    .answer store (match Amount.ofList value with
      | .ok amounts => .ok (.list (amounts.map fun amount => .whole amount.toNat) [])
      | .error report => refuse (.invalid report))
  | fill, [value] => fillFrom store value
  | fillFields, [value] =>
    match store.record? value with
    | some entries => keep store (Form.ofRecord entries)
    | none => .refuse store .wrongReceiver
  | fillText, [.text content] => keep store (Form.ofText content)
  | fillText, [.bytes content] =>
    keep store (match Utf8.decode content with
      | .ok content => Form.ofText content
      | .error _ => .error (Form.wholly .malformedText))
  | fillText, [_] => keep store (.error (Form.wholly .notText))
  | toSchedule, [.form handle] =>
    .answer store (do
      let entries ← entriesOf store handle
      (Form.toSchedule entries).map (.schedule · []))
  | readSchedule, [value] => .answer store ((scheduleFrom store value).map (.schedule · []))
  | record naming, [.form handle] =>
    .answer store (do
      let entries ← entriesOf store handle
      entries.checkAbilities [.record]
      .ok (.record (store.recordOf naming entries) []))
  | document naming, [.form handle] =>
    .answer store (do
      let entries ← entriesOf store handle
      entries.checkAbilities [.document]
      (store.documentText naming entries).map fun text => .text (String.ofList text))
  | entry, [.schedule rates _, .whole position] =>
    .answer store ((fieldAt position).map fun field => .whole (rates.get field).toNat)
  | entry, [.form handle, .whole position] =>
    .answer store ((fieldAt position).bind fun field => store.fieldValue handle field)
  | assign, [receiver, .text name, value] => Assignment.perform store name value receiver
  | _, _ => .refuse store .wrongReceiver

end FormOperation

namespace ScheduleOperation

def perform (store : Store) : ScheduleOperation → List Value → Traced Value
  | make, [.list values _] =>
    if values.length = Field.all.length then
      let entries := Field.all.zip values
      let schedule := Schedule.ofValues fun field => (entries.lookup field).getD .absent
      .silent (schedule.map (.schedule · []))
    else .silent (refuse .wrongReceiver)
  | charge (.rate fee), [calculator, amount] => Calculator.rateFee store calculator fee amount
  | charge .normalizedTrade, [calculator, coins, amount] =>
    Calculator.normalizedFee store calculator coins amount
  | isCalculator, [value] => .silent ((Calculator.isCalculator store value).map .truth)
  | require, [fee, operation] => requireFee fee operation (store.plainText operation)
  | _, _ => .silent (refuse .wrongReceiver)

end ScheduleOperation

namespace Inquiry

def answer : Inquiry → Value
  | constants => .record Constants.all []
  | isKind special general => .truth (decide (special.IsA general))

end Inquiry

/-- Performs an operation on evaluated arguments. -/
def Operation.perform (store : Store) (arguments : List Value) : Operation → Effect
  | word operation => .answer store (operation.perform store arguments)
  | compare operation => .answer store (operation.perform store arguments)
  | mulDiv operation => .answer store (operation.perform store arguments)
  | text operation => .answer store (operation.perform store arguments)
  | form operation => operation.perform store arguments
  | schedule operation => .pure store (operation.perform store arguments)
  | inquire inquiry => .answer store (.ok inquiry.answer)

end PoolFees
