import PoolFees.Value

/-!
# The store

Values that change are kept in a `Store`, and what holds one of them holds its handle, a position in
the store. So all holders see a change. There are three kinds of them: words to a part of which
something was assigned, the records that hold the entries of forms, and forms.

A word or a record is moved into the store when it starts to change. Before that the value itself
has the parts or entries, and `Store.word?` and `Store.record?` find them in either place. Nothing
is ever removed from a store.

A store also says how much memory there is. That never changes, and only reading a width asks for
it.
-/

namespace PoolFees

/-- The two parts of a word. Nothing ties them together. -/
structure LooseWord where
  content : Value
  width : Value

namespace LooseWord

def ofWord (bound : Word) : LooseWord := ⟨.whole bound.value, .whole bound.width.bits⟩

/-- The word with the given parts. It is not loose when it holds a number that fits its width. -/
def toValue (word : LooseWord) : Value :=
  match word.content, word.width with
  | .whole number, .whole bits =>
    match Word.ofParts? bits number with
    | some bound => .word bound []
    | none => .looseWord (.whole number) (.whole bits) []
  | content, width => .looseWord content width []

/-- A word that fits is not loose. -/
@[simp]
theorem toValue_ofWord (bound : Word) : (ofWord bound).toValue = .ofWord bound := by
  simp [ofWord, toValue, Value.ofWord]

end LooseWord

/-- A form has a record of entries. Beside them it has three attributes, which are of no effect
until something is assigned to them. -/
structure Form where
  /-- The handle of the record of entries. -/
  entries : Nat
  /-- What is compared, but never shown or written. -/
  hidden : Value
  /-- Entries that are compared and shown, but never written. -/
  additional : Value
  /-- What is told about the entries that are assigned, if that was changed. -/
  observer : Option Value

/-- The levels of values within values that are followed. What goes on for longer goes on forever.
-/
def maxNesting : Nat := 1000

/-- The values that change. A handle is a position in one of the lists. -/
structure Store where
  words : List LooseWord
  records : List Entries
  forms : List Form
  memory : Memory

namespace Store

def empty (memory : Memory := .usual) : Store := ⟨[], [], [], memory⟩

/-- The parts of a word. -/
def word? (store : Store) : Value → Option LooseWord
  | .word bound _ => some (.ofWord bound)
  | .looseWord content width _ => some ⟨content, width⟩
  | .sharedWord handle => store.words[handle]?
  | _ => none

/-- The entries of a record. -/
def record? (store : Store) : Value → Option Entries
  | .record entries _ => some entries
  | .sharedRecord handle => store.records[handle]?
  | _ => none

def form? (store : Store) (handle : Nat) : Option Form := store.forms[handle]?

/-- The entries of a form. -/
def entries? (store : Store) (handle : Nat) : Option Entries := do
  let form ← store.form? handle
  store.records[form.entries]?

/-- Adds a word; its handle is the number of words before it. -/
def addWord (store : Store) (word : LooseWord) : Store :=
  { store with words := store.words ++ [word] }

/-- Changes the word with a handle. -/
def setWord (store : Store) (handle : Nat) (word : LooseWord) : Store :=
  { store with words := store.words.set handle word }

/-- Adds a record; its handle is the number of records before it. -/
def addRecord (store : Store) (entries : Entries) : Store :=
  { store with records := store.records ++ [entries] }

/-- Adds a form; its handle is the number of forms before it. -/
def addForm (store : Store) (entries : Entries) : Store where
  words := store.words
  records := store.records ++ [entries]
  forms := store.forms ++ [⟨store.records.length, .absent, .absent, none⟩]
  memory := store.memory

/-- Puts a value under a name among the entries of a form. -/
def put (store : Store) (handle : Nat) (name : String) (value : Value) : Store :=
  match store.form? handle with
  | some form =>
    { store with records := store.records.modify form.entries (·.put name value) }
  | none => store

/-- Changes the attributes of a form. -/
def modifyForm (store : Store) (handle : Nat) (change : Form → Form) : Store :=
  { store with forms := store.forms.modify handle change }

/-- Changes every value in a store. -/
def map (change : Value → Value) (store : Store) : Store where
  words := store.words.map fun word => ⟨change word.content, change word.width⟩
  records := store.records.map fun entries => entries.map fun (name, value) => (name, change value)
  forms := store.forms.map fun form =>
    { form with
      hidden := change form.hidden
      additional := change form.additional
      observer := form.observer.map change }
  memory := store.memory

@[simp]
theorem entries?_addForm_new (store : Store) (entries : Entries) :
    (store.addForm entries).entries? store.forms.length = some entries := by
  simp [entries?, form?, addForm]

theorem form?_addForm_old {store : Store} {handle : Nat} (known : handle < store.forms.length)
    (entries : Entries) : (store.addForm entries).form? handle = store.form? handle := by
  simp [form?, addForm, List.getElem?_append_left known]

/-- A value that was put under a name is found among the entries of the form. -/
theorem entries?_put_same (store : Store) (handle : Nat) (name : String) (value : Value) :
    (store.put handle name value).entries? handle =
      (store.entries? handle).map fun entries => entries.put name value := by
  cases known : store.form? handle with
  | none => simp only [put, entries?, known, Option.bind_eq_bind, Option.bind_none, Option.map_none]
  | some form =>
    have kept (records : List Entries) :
        ({ store with records := records } : Store).form? handle = some form := known
    simp only [put, entries?, known, kept, Option.bind_eq_bind, Option.bind_some,
      List.getElem?_modify_eq, Option.map_eq_map]

end Store

end PoolFees
