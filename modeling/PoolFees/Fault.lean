import PoolFees.Numeral
import PoolFees.Quoted
import PoolFees.Rate
import PoolFees.Utf8

/-!
# Faults

Every refusal of the library is a value that names its cause and carries what its message shows.
`Fault.message` is the only place where causes are worded. A message that would have to hold a
numeral beyond the digit limit cannot be worded at all: `refuse` then reports that limit instead of
the cause, so the cause that a caller sees always has a message.
-/

namespace PoolFees

/-- What a message shows of a value: a number, or the text of anything else. -/
inductive Shown where
  | whole (number : Int)
  | text (content : String)
deriving DecidableEq, Repr, Inhabited

namespace Shown

/-- The numbers that have to be written. -/
def numerals : Shown → List Int
  | whole number => [number]
  | text _ => []

def write : Shown → String
  | whole number => Numeral.write number
  | text content => content

end Shown

/-- The reasons why a value is not an amount of 64 bits. -/
inductive AmountFault where
  | wrongType (found : String)
  | notNumeral (text : String)
  | negative (given : Shown)
  | tooLarge (given : Shown)
  | numeralTooLong
deriving DecidableEq, Repr, Inhabited

/-- What a message about an overlong numeral says. -/
def Numeral.limitMessage : String :=
  "Exceeds the limit (4300 digits) for integer string conversion; " ++
    "use sys.set_int_max_str_digits() to increase the limit"

namespace AmountFault

def message : AmountFault → String
  | wrongType found => "Uint64 must be string or int, got " ++ found
  | notNumeral text => "Uint64 must be a decimal integer string: '" ++ text ++ "'"
  | negative given => "Uint64 cannot be negative: " ++ given.write
  | tooLarge given => "Uint64 overflow: " ++ given.write ++ " > 2^64-1"
  | numeralTooLong => Numeral.limitMessage

/-- The numbers that the message of a fault shows. -/
def numerals : AmountFault → List Int
  | negative given | tooLarge given => given.numerals
  | _ => []

/-- The fault that is reported for a cause: the cause itself when it has a message. -/
def reported (fault : AmountFault) : AmountFault :=
  if ∀ number ∈ fault.numerals, Numeral.Writable number then fault else numeralTooLong

end AmountFault

/-- A step on the way from a document to the part of it that a complaint is about. -/
inductive Place where
  | key (name : String)
  | index (position : Nat)
deriving DecidableEq, Repr, Inhabited

/-- What is wrong with a part of a document. -/
inductive ComplaintCause where
  | missing
  | amount (fault : AmountFault)
  /-- The document is neither a record nor a form. -/
  | notForm
  /-- The text is well formed, but it is not an object. -/
  | notObject
  | malformedText
  | notText
  | notList
deriving DecidableEq, Repr, Inhabited

/-- A cause together with the place in the document that it is about. -/
structure Complaint where
  place : List Place
  cause : ComplaintCause
deriving DecidableEq, Repr, Inhabited

namespace ComplaintCause

/-- The word that classifies a cause in a report. -/
def label : ComplaintCause → String
  | missing => "missing"
  | amount _ => "value_error"
  | notForm | notObject => "model_type"
  | malformedText => "json_invalid"
  | notText => "json_type"
  | notList => "list_type"

def message : ComplaintCause → String
  | missing => "Field required"
  | amount fault => "Value error, " ++ fault.message
  | notForm => "Input should be a valid dictionary or instance of FeesModel"
  | notObject => "Input should be an object"
  | malformedText => "Invalid JSON"
  | notText => "JSON input should be string, bytes or bytearray"
  | notList => "Input should be a valid list"

end ComplaintCause

/-- All that is wrong with a document. -/
structure Report where
  /-- What the document was read as. -/
  title : String
  complaints : List Complaint
deriving DecidableEq, Repr, Inhabited

namespace Report

def message (report : Report) : String :=
  let count := report.complaints.length
  let noun := if count = 1 then " validation error for " else " validation errors for "
  Numeral.write count ++ noun ++ report.title

end Report

/-- The reasons why there is no result in powers of ten. -/
inductive ScientificFault where
  /-- A text is not that of a number. -/
  | notNumeral
  /-- An exponent is beyond all that can be kept. -/
  | exponentOutOfRange
  /-- A number is compared with one that is neither above nor below it. -/
  | unordered
  | quotientTooLong
  | overflow
deriving DecidableEq, Repr, Inhabited

/-- What messages call the reason why there is no result. -/
def ScientificFault.name : ScientificFault → String
  | notNumeral => "ConversionSyntax"
  | exponentOutOfRange | unordered => "InvalidOperation"
  | quotientTooLong => "DivisionImpossible"
  | overflow => "Overflow"

/-- What goes on forever with a value that nests without end. -/
inductive Traversal where
  | display
  | comparison
  | answer
deriving DecidableEq, Repr, Inhabited

/-- What the message about a traversal that goes on forever ends with. -/
def Traversal.note : Traversal → String
  | display => ""
  | comparison => " in comparison"
  | answer => " in __instancecheck__"

/-- The causes for which a request is refused. -/
inductive Fault where
  /-- The operation is not defined on its first argument. -/
  | wrongReceiver
  /-- An argument is not the text of an integer. -/
  | notLiteral (text : String)
  | literalTooLong (digits : Nat)
  /-- An argument is not the text of a real number. -/
  | notReal (text : String)
  /-- An argument is not the text of bytes, because of the character at a position. -/
  | notHexadecimal (position : Nat)
  | scientific (fault : ScientificFault)
  | notInteger (found : String)
  | negativeWord (width value : Shown)
  | wordTooLarge (width value : Shown)
  | negativeWidth
  | widthTooLarge
  | outOfMemory
  | numeralTooLong
  | widthMismatch (operand receiver : Shown)
  | narrowerWidth (width requested : Shown)
  | notComparable (comparison left right : String)
  | noResult (operator left right : String)
  /-- A sequence is repeated, but not by an integer. -/
  | notCount (found : String)
  /-- A sequence is repeated more often than can be counted. -/
  | countTooLarge
  /-- A sequence is repeated so often that the length of the result cannot be counted. -/
  | repetitionTooLong (items : String)
  /-- An integer is too large to become a real number. -/
  | realTooLarge
  | readOnly (owner property : String)
  | readOnlyOperation (name : String)
  | readOnlyReference (name : String)
  | sharedAttribute (name : String)
  | noAttribute (owner name : String)
  | notClass (found : String)
  | notRecord (found : String)
  | frozen (name : String)
  | noField (name : String)
  /-- A value stands where an operation is looked for. -/
  | notCallable (found : String)
  /-- A value stands where named entries are looked for. -/
  | noEntries (found : String)
  /-- Fields for which there is no number, in order. -/
  | missingFields (fields : List Field)
  | amount (fault : AmountFault)
  | fieldNotInteger (field : Field) (found : String)
  | fieldOutOfRange (field : Field) (value : Int)
  | feeUnavailable (operation : String)
  | mutableItem (found : String)
  /-- A value nests without end, for example because it contains itself. -/
  | endless (traversal : Traversal)
  /-- A value with a document within it would contain itself. -/
  | circularDocument
  | documentTooDeep
  | unwritable (found : String)
  | notUtf8 (flaw : Utf8.Flaw)
  | invalid (report : Report)
deriving DecidableEq, Repr, Inhabited

namespace Fault

/-- What the message about a value without named entries says. Sequences have entries, but not under
names. -/
def noEntriesMessage (found : String) : String :=
  if found = "list" then "list indices must be integers or slices, not str"
  else if found = "str" then "string indices must be integers, not 'str'"
  else if found = "bytes" then "byte indices must be integers or slices, not str"
  else "'" ++ found ++ "' object is not subscriptable"

/-- The names of a list in a sentence. -/
def enumerate : List String → String
  | [] => ""
  | [only] => only
  | [first, second] => first ++ " and " ++ second
  | names => ", ".intercalate names.dropLast ++ ", and " ++ names.getLast?.getD ""

/-- What the message about missing fields of a schedule says. -/
def missingFieldsMessage (names : List String) : String :=
  "FeeConfig.__init__() missing " ++ Numeral.write names.length ++
    " required positional argument" ++ (if names.length = 1 then "" else "s") ++ ": " ++
    enumerate (names.map fun name => "'" ++ name ++ "'")

def message : Fault → String
  | wrongReceiver => ""
  | notLiteral text =>
    "invalid literal for int() with base 10: " ++
      String.ofList ((Quoted.text text).toList.take 200)
  | literalTooLong digits =>
    "Exceeds the limit (4300 digits) for integer string conversion: value has " ++
      Numeral.write digits ++ " digits; use sys.set_int_max_str_digits() to increase the limit"
  | notReal text => "could not convert string to float: " ++ Quoted.text text
  | notHexadecimal position =>
    "non-hexadecimal number found in fromhex() arg at position " ++ Numeral.write position
  | scientific fault => "[<class 'decimal." ++ fault.name ++ "'>]"
  | notInteger found => "CheckedUint requires int, got " ++ found
  | negativeWord width value =>
    "Negative value cannot be u" ++ width.write ++ ": " ++ value.write
  | wordTooLarge width value =>
    "Value exceeds u" ++ width.write ++ " max: " ++ value.write
  | negativeWidth => "negative shift count"
  | widthTooLarge => "too many digits in integer"
  | outOfMemory => ""
  | numeralTooLong => Numeral.limitMessage
  | widthMismatch operand receiver =>
    "Operand width u" ++ operand.write ++ " does not match u" ++ receiver.write
  | narrowerWidth width requested =>
    "Cannot widen u" ++ width.write ++ " to u" ++ requested.write ++ "; use narrow()"
  | notComparable comparison left right =>
    "'" ++ comparison ++ "' not supported between instances of '" ++ left ++ "' and '" ++ right ++
      "'"
  | noResult operator left right =>
    "unsupported operand type(s) for " ++ operator ++ ": '" ++ left ++ "' and '" ++ right ++ "'"
  | notCount found => "can't multiply sequence by non-int of type '" ++ found ++ "'"
  | countTooLarge => "cannot fit 'int' into an index-sized integer"
  | repetitionTooLong items => "repeated " ++ items ++ " too long"
  | realTooLarge => "int too large to convert to float"
  | readOnly owner property =>
    "property '" ++ property ++ "' of '" ++ owner ++ "' object has no setter"
  | readOnlyOperation name => "'CheckedUint' object attribute '" ++ name ++ "' is read-only"
  | readOnlyReference name => "attribute '" ++ name ++ "' of 'FeesModel' objects is not writable"
  | sharedAttribute name =>
    "'" ++ name ++ "' is a ClassVar of `FeesModel` and cannot be set on an instance. " ++
      "If you want to set a value on the class, use `FeesModel." ++ name ++ " = value`."
  | noAttribute owner name => "'" ++ owner ++ "' object has no attribute '" ++ name ++ "'"
  | notClass found => "__class__ must be set to a class, not '" ++ found ++ "' object"
  | notRecord found => "__dict__ must be set to a dictionary, not a '" ++ found ++ "'"
  | frozen name => "cannot assign to field " ++ Quoted.text name
  | noField name => "\"FeesModel\" object has no field \"" ++ name ++ "\""
  | notCallable found => "'" ++ found ++ "' object is not callable"
  | noEntries found => noEntriesMessage found
  | missingFields fields => missingFieldsMessage (fields.map Field.name)
  | amount fault => fault.message
  | fieldNotInteger field found => field.name ++ " must be an int, got " ++ found
  | fieldOutOfRange field value =>
    field.name ++ " must be in [0, 2^64-1]: " ++ Numeral.write value
  | feeUnavailable operation => operation ++ " could not be computed"
  | mutableItem found => "unhashable type: '" ++ found ++ "'"
  | endless traversal => "maximum recursion depth exceeded" ++ traversal.note
  | unwritable found => "Unable to serialize unknown type: <class '" ++ found ++ "'>"
  | circularDocument =>
    "Error serializing to JSON: ValueError: Circular reference detected (id repeated)"
  | documentTooDeep =>
    "Error serializing to JSON: ValueError: Circular reference detected (depth exceeded)"
  | notUtf8 ⟨start, some length⟩ =>
    "Error serializing to JSON: invalid utf-8 sequence of " ++ Numeral.write length ++
      " bytes from index " ++ Numeral.write start
  | notUtf8 ⟨start, none⟩ =>
    "Error serializing to JSON: incomplete utf-8 byte sequence from index " ++ Numeral.write start
  | invalid report => report.message

/-- The numbers that the message of a fault shows. -/
def numerals : Fault → List Int
  | negativeWord first second | wordTooLarge first second | widthMismatch first second
  | narrowerWidth first second => first.numerals ++ second.numerals
  | fieldOutOfRange _ value => [value]
  | amount fault => fault.numerals
  | _ => []

/-- The fault that is reported for a cause: the cause itself when it has a message. -/
def reported (fault : Fault) : Fault :=
  if ∀ number ∈ fault.numerals, Numeral.Writable number then fault else numeralTooLong

end Fault

/-- Refuses for the given cause. -/
def refuse {α : Type} (fault : Fault) : Except Fault α := .error fault.reported

end PoolFees
