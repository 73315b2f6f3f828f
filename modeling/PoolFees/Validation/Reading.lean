import PoolFees.Json.Reader
import PoolFees.Value

/-!
# Reading against declarations

Records, lists and documents are read by the validation library against what is declared about them:
the names of the fields, in order, and the validator of their values. Neither is known here, both
are arguments. A validator decides about one value at a time.

Everything is looked at before anything is refused, and a report lists what is wrong in the order in
which it was looked at.
-/

namespace PoolFees

namespace Validation

variable {α : Type}

/-- The complaints among the outcomes of several checks, in order. -/
def complaintsOf (outcomes : List (Except Complaint α)) : List Complaint :=
  outcomes.filterMap fun
    | .error complaint => some complaint
    | .ok _ => none

/-- What was accepted among the outcomes of several checks, in order. -/
def accepted (outcomes : List (Except Complaint α)) : List α := outcomes.filterMap Except.toOption

/-- What several checks accept, or a report on all of them that complain. -/
def collect (title : String) (outcomes : List (Except Complaint α)) : Except Report (List α) :=
  match complaintsOf outcomes with
  | [] => .ok (accepted outcomes)
  | complaints => .error ⟨title, complaints⟩

/-- The report of a document that is unusable as a whole. -/
def wholly (title : String) (cause : ComplaintCause) : Report := ⟨title, [⟨[], cause⟩]⟩

/-- The names under which a record gives a field. -/
structure FieldNames where
  /-- The name in external configuration. What is there counts, even when it is unusable. -/
  external : String
  own : String

namespace FieldNames

/-- The key under which a record gives a field, and the value there. -/
def entry? (names : FieldNames) (entries : Entries) : Option (String × Value) :=
  match entries.lookup names.external with
  | some value => some (names.external, value)
  | none => (entries.lookup names.own).map fun value => (names.own, value)

/-- Reads a field from a record. -/
def read (names : FieldNames) (validate : Value → Except ComplaintCause α) (entries : Entries) :
    Except Complaint α :=
  match names.entry? entries with
  | none => .error ⟨[.key names.external], .missing⟩
  | some (key, value) => (validate value).mapError fun cause => ⟨[.key key], cause⟩

end FieldNames

/-- Reads the item at a position of a list that stands under a key. -/
def readItem (key : String) (validate : Value → Except ComplaintCause α) (position : Nat)
    (item : Value) : Except Complaint α :=
  (validate item).mapError fun cause => ⟨[.key key, .index position], cause⟩

/-- Reads a list that stands under a key, item by item. -/
def readList (title key : String) (validate : Value → Except ComplaintCause α) :
    Value → Except Report (List α)
  | .list items _ => collect title (items.mapIdx (readItem key validate))
  | _ => .error ⟨title, [⟨[.key key], .notList⟩]⟩

end Validation

namespace Json

mutual

/-- The value that a document stands for. Of several members with one key the last one counts. -/
def toValue : Json → Value
  | null => .absent
  | truth flag => .truth flag
  | whole number => .whole number
  | real number => .real number []
  | text content => .text content
  | array items => .list (toValues items) []
  | object members => .record (toRecord [] members) []

def toValues : List Json → List Value
  | [] => []
  | item :: items => toValue item :: toValues items

/-- The record of the members of an object, given the entries of the members before them. -/
def toRecord (entries : Entries) : List (String × Json) → Entries
  | [] => entries
  | (key, value) :: members => toRecord (entries.put key (toValue value)) members

end

end Json

/-- Reads the text of a document that is an object, given how its record is read. -/
def Validation.readText {α : Type} (title : String) (read : Entries → Except Report α)
    (content : String) : Except Report α :=
  match Json.read? content with
  | none => .error (wholly title .malformedText)
  | some document =>
    match document.toValue with
    | .record entries _ => read entries
    | _ => .error (wholly title .notObject)

end PoolFees
