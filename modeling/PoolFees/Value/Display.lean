import PoolFees.Binary64.Shortest
import PoolFees.Form
import PoolFees.Quoted

/-!
# Showing values

Every value has a full text that shows it to a reader: words with their width, text between quotes,
records between braces, and schedules and forms with the names of their fields. Some values also
have a plain text, which leaves out the quotes, the width or the name of the form. A value that
holds an integer beyond the digit limit has neither.

A list or a record that lies within itself is shown by dots there. Forms and words are shown again
wherever they are met, so those that lie directly within each other have no text: showing them goes
on forever.
-/

namespace PoolFees

namespace Numeral

/-- The numeral of an integer within the digit limit. -/
def write? (number : Int) : Except Fault String :=
  if Writable number then .ok (write number) else .error .numeralTooLong

end Numeral

namespace Word

/-- The text that shows a word by the texts of its parts. -/
def displayParts (value width : String) : String :=
  "CheckedUint(" ++ value ++ ", bits=" ++ width ++ ")"

/-- The text that shows a word with its width. -/
def display (bound : Word) : Except Fault String := do
  let value ← Numeral.write? bound.value
  let width ← Numeral.write? bound.width.bits
  .ok (displayParts value width)

end Word

/-- How much of a value a text shows. -/
inductive Detail where
  | plain
  | full
deriving DecidableEq, Repr, Inhabited

/-- The text that shows an integer, bare or bound to a width. -/
def Integral.display : Integral → Except Fault String
  | .whole number => Numeral.write? number
  | .word bound _ => bound.display

/-- The text that shows a fixed-point number by the texts of its parts. -/
def FixedPoint.displayParts (magnitude places : String) : String :=
  "Decimal(value=" ++ magnitude ++ ", decimals=" ++ places ++ ")"

/-- The text that shows the parts of a fixed-point number. -/
def FixedPoint.display (number : FixedPoint) : Except Fault String := do
  let magnitude ← number.magnitude.display
  let places ← number.places.display
  .ok (displayParts magnitude places)

/-- The text that shows named fields, with a separator between them. -/
def displayFields (separator : String) (fields : List (String × String)) : String :=
  separator.intercalate (fields.map fun (name, value) => name ++ "=" ++ value)

/-- The text that shows the fields of a schedule. -/
def Schedule.display (schedule : Schedule) : String :=
  let fields := Field.all.map fun field => (field.name, Numeral.write (schedule.get field).toNat)
  "FeeConfig(" ++ displayFields ", " fields ++ ")"

/-- The number of places that a value gives for the text of a fixed-point number. -/
def Value.places? : Value → Except Fault Nat
  | whole number => .ok number.toNat
  | other => refuse (.notComparable "<=" "int" other.fullTypeName)

namespace Store

/-- The texts of named values, given the text of a value. -/
def displayEntries (display : Value → Except Fault String) (entries : Entries) :
    Except Fault (List (String × String)) :=
  entries.mapM fun (name, value) => (display value).map fun shown => (name, shown)

/-- The text of a form without its name, given the text of other values. Entries that do not belong
to a field are not shown, but additional entries are. -/
def displayForm (store : Store) (display : Value → Except Fault String) (separator : String)
    (form : Form) (entries : Entries) : Except Fault String := do
  entries.checkAbilities [.fieldTexts, .fields]
  let own ← displayEntries display (entries.filter fun (name, _) => (Field.ofName? name).isSome)
  let additional ←
    match form.additional, store.record? form.additional with
    | .absent, _ => .ok []
    | _, some additional => displayEntries display additional
    | value, none => do
      store.checkOperation "items" value
      .ok []
  .ok (displayFields separator (own ++ additional))

/-- The text of a value that is followed down to a depth and lies within values with the given
identities. -/
def renderTo (store : Store) : Nat → Detail → List Identity → Value → Except Fault String
  | 0, _, _, _ => refuse (.endless .display)
  | depth + 1, detail, within, value =>
    let render := renderTo store depth
    let identities := value.identity?.toList
    let inner := render .full (identities ++ within)
    match value with
    | .absent => .ok "None"
    | .truth flag => .ok (if flag then "True" else "False")
    | .whole number => Numeral.write? number
    | .real number _ => .ok number.display
    | .text content =>
      match detail with
      | .plain => .ok content
      | .full => .ok (Quoted.text content)
    | .bytes content => .ok (Quoted.bytes content)
    | .list items _ =>
      if identities.any within.contains then .ok "[...]"
      else do
        let items ← items.mapM inner
        .ok ("[" ++ ", ".intercalate items ++ "]")
    | .fixedPoint number _ =>
      match detail with
      | .plain => number.text?.map String.ofList
      | .full => number.display
    | .looseFixedPoint magnitude places _ =>
      match detail with
      | .plain => do
        let digits ← render .plain within magnitude
        let places ← places.places?
        .ok (String.ofList (FixedPoint.insertPoint digits.toList places))
      | .full => do
        let magnitude ← render .full within magnitude
        let places ← render .full within places
        .ok (FixedPoint.displayParts magnitude places)
    | .decimal negative number =>
      match detail with
      | .plain => .ok (number.writeSigned negative)
      | .full => .ok ("Decimal('" ++ number.writeSigned negative ++ "')")
    | .schedule rates _ => .ok rates.display
    | .form handle =>
      match store.form? handle, store.entries? handle with
      | some form, some entries =>
        match detail with
        | .plain => store.displayForm (render .full within) " " form entries
        | .full => do
          entries.checkAbilities [.title]
          let fields ← store.displayForm (render .full within) ", " form entries
          .ok ("FeesModel(" ++ fields ++ ")")
      | _, _ => refuse .wrongReceiver
    | .calculator .. | .capability .. => .ok "Schedule()"
    | .record .. | .sharedRecord _ =>
      match store.record? value with
      | none => refuse .wrongReceiver
      | some entries =>
        if identities.any within.contains then .ok "\x7b...\x7d"
        else do
          let entries ← displayEntries inner entries
          let shown := entries.map fun (key, value) => Quoted.text key ++ ": " ++ value
          .ok ("\x7b" ++ ", ".intercalate shown ++ "\x7d")
    | .word .. | .looseWord .. | .sharedWord _ =>
      match store.word? value with
      | none => refuse .wrongReceiver
      | some word => do
        let content ← render .plain within word.content
        match detail with
        | .plain => .ok content
        | .full =>
          let width ← render .plain within word.width
          .ok (Word.displayParts content width)

/-- The text of a value. -/
def render (store : Store) (detail : Detail) : Value → Except Fault String :=
  store.renderTo maxNesting detail []

/-- The text that shows a value. -/
def display (store : Store) : Value → Except Fault String := store.render .full

/-- The plain text of a value: text stands for itself, a word is written without its width and a
form without its name. -/
def plainText (store : Store) : Value → Except Fault String := store.render .plain

/-- What a message shows of a value. -/
def shown (store : Store) : Value → Except Fault Shown
  | .whole number => .ok (.whole number)
  | other => (store.plainText other).map .text

end Store

end PoolFees
