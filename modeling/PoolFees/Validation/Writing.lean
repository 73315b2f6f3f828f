import PoolFees.Json
import PoolFees.Store

/-!
# Writing instances

An instance of a model is written as a record of its entries or as the compact document of such a
record. Which entries are written, and under which names, is decided by `labelled`: what is declared
about a model is an argument here. Within the entries, schedules, fixed-point numbers and other
instances are written as records too.

Both ways follow nested values down to `maxDepth` levels and never enter a value that they are
within. A record takes over what it does not enter as it is, and what was found too deep once it
does not enter anywhere. A document has no place for such values, nor for words.
-/

namespace PoolFees.Validation

/-- The levels of values within an instance that are followed. -/
def maxDepth : Nat := 255

variable (labelled : Entries → Entries) (store : Store)

/-- A value as a record holds it, followed down to a depth. The value lies within values with the
given identities; the state collects the identities of the values that were found too deep. -/
def recorded : Nat → List Identity → Value → StateM (List Identity) Value
  | depth, within, value => do
    let tooDeep ← get
    let identities := value.identity?.toList
    if identities.any fun identity => within.contains identity || tooDeep.contains identity then
      return value
    match depth with
    | 0 =>
      modify (identities ++ ·)
      return value
    | depth + 1 =>
      let inner := recorded depth (identities ++ within)
      let innerEntries := fun (entries : Entries) =>
        entries.mapM fun (key, entry) => return (key, ← inner entry)
      match value with
      | .list items _ => return .list (← items.mapM inner) []
      | .schedule rates _ => return .record rates.entries []
      | .fixedPoint number _ => return .record number.entries []
      | .looseFixedPoint magnitude places _ =>
        return .record (Value.partEntries (← inner magnitude) (← inner places)) []
      | .form handle =>
        match store.entries? handle with
        | none => return value
        | some entries => return .record (← innerEntries (labelled entries)) []
      | _ =>
        match store.record? value with
        | some entries => return .record (← innerEntries entries) []
        | none => return value

/-- The record of an instance with the given entries. -/
def recordOf (entries : Entries) : Entries :=
  (((labelled entries).mapM fun (label, entry) => return (label,
    ← recorded labelled store maxDepth [] entry) : StateM (List Identity) Entries).run []).1

/-- The document of an entry, given how other values are written. An entry stands for a number, so
truth values are written as one and zero. -/
def entryDocument (write : Value → Except Fault Json) : Value → Except Fault Json
  | .whole number => .ok (.whole number)
  | .truth flag => .ok (.whole flag.toInt)
  | other => write other

/-- The members of the document of an instance with the given entries, given how values other than
numbers are written. -/
def members (write : Value → Except Fault Json) (entries : Entries) :
    Except Fault (List (String × Json)) :=
  (labelled entries).mapM fun (label, entry) =>
    (entryDocument write entry).map fun document => (label, document)

/-- The document of a value, followed down to a depth. The value lies within values with the given
identities. -/
def document : Nat → List Identity → Value → Except Fault Json
  | depth, within, value =>
    let identities := value.identity?.toList
    if identities.any within.contains then refuse .circularDocument
    else
      match depth with
      | 0 => refuse .documentTooDeep
      | depth + 1 =>
        let inner := document depth (identities ++ within)
        let innerMembers := fun (entries : Entries) =>
          entries.mapM fun (key, entry) => (inner entry).map fun written => (key, written)
        match value with
        | .absent => .ok .null
        | .truth flag => .ok (.truth flag)
        | .whole number => .ok (.whole number)
        | .real number _ => .ok (.real number)
        | .text content => .ok (.text content)
        | .bytes content =>
          match Utf8.decode content with
          | .ok content => .ok (.text content)
          | .error flaw => refuse (.notUtf8 flaw)
        | .decimal negative number => .ok (.text (number.writeSigned negative))
        | .list items _ => (items.mapM inner).map .array
        | .record .. | .sharedRecord _ =>
          match store.record? value with
          | none => refuse .wrongReceiver
          | some entries => (innerMembers entries).map .object
        | .schedule rates _ => (innerMembers rates.entries).map .object
        | .fixedPoint number _ => (innerMembers number.entries).map .object
        | .looseFixedPoint magnitude places _ =>
          (innerMembers (Value.partEntries magnitude places)).map .object
        | .form handle =>
          match store.entries? handle with
          | none => refuse .wrongReceiver
          | some entries => (members labelled inner entries).map .object
        | .word .. | .looseWord .. | .sharedWord _ | .calculator .. | .capability .. =>
          refuse (.unwritable value.documentTypeName)

/-- The compact document of an instance with the given entries. -/
def documentText (entries : Entries) : Except Fault (List Char) := do
  let members ← members labelled (document labelled store maxDepth []) entries
  .ok (Json.object members).write

end PoolFees.Validation
