import PoolFees.Proofs.Form.Written
import PoolFees.Proofs.Outcome

/-!
# What operations change

Only two operations do not leave the store as it is: filling adds a form that holds amounts, and
assigning changes the word or the form that it is given. `Assignment.Does` has one case for each way
in which an assignment can end, and `Operation.perform_cases` says that there is nothing else. What
a request can do to a session is read off these cases, so no other proof has to go through the
operations again.
-/

namespace PoolFees

namespace Form

/-- A form that is filled from a record holds amounts. -/
theorem ofRecord_eq_ok {entries filled : Entries} (read : ofRecord entries = .ok filled) :
    ∃ amounts, filled = entriesOf amounts := by
  rcases Except.map_eq_ok_iff.1 read with ⟨_, _, rfl⟩
  exact ⟨_, rfl⟩

theorem ofText_eq_ok {content : String} {filled : Entries} (read : ofText content = .ok filled) :
    ∃ amounts, filled = entriesOf amounts := by
  unfold ofText Validation.readText at read
  split at read
  · cases read
  · split at read
    · exact ofRecord_eq_ok read
    · cases read

end Form

namespace Assignment

/-- How an assignment of a value under a name of a receiver ends. -/
inductive Does (store : Store) (value : Value) : Value → String → Effect → Prop where
  | refuse (receiver : Value) (name : String) (fault : Fault) :
      Does store value receiver name (.refuse store fault)
  | moveWord {receiver : Value} {word changed : LooseWord} {name : String} (origin : Origin)
      (found : store.word? receiver = some word)
      (changes : Word.assign? word name value = some changed) :
      Does store value receiver name
        (.move (store.addWord changed) ⟨origin, .sharedWord store.words.length⟩)
  | setWord {handle : Nat} {word changed : LooseWord} {name : String}
      (found : store.words[handle]? = some word)
      (changes : Word.assign? word name value = some changed) :
      Does store value (.sharedWord handle) name (.update (store.setWord handle changed) .absent)
  | setField (handle : Nat) (field : Field) :
      Does store value (.form handle) field.name (Form.assignField store handle field value)
  | setEntries (handle : Nat) :
      Does store value (.form handle) Form.entriesName (Form.assignEntries store handle value)
  | setReserved (handle : Nat) {name : String} (notField : Field.ofName? name = none)
      (reserved : isReserved name = true) :
      Does store value (.form handle) name
        (.update (Form.assignReserved store handle name value) .absent)

namespace Form

theorem fault?_of_public {name : String} (isPublic : isReserved name = false) (value : Value) :
    ∃ fault, fault? name value = some fault := by
  unfold fault?
  rw [isPublic]
  repeat' split
  all_goals simp_all

theorem assign_does (store : Store) (handle : Nat) (name : String) (value : Value) :
    Does store value (.form handle) name (assign store handle name value) := by
  unfold assign
  split
  · rename_i field named
    rw [← Field.name_of_ofName? named]
    exact .setField handle field
  · rename_i notField
    split
    · exact .refuse _ _ _
    · split
      · rename_i isEntries
        rw [isEntries]
        exact .setEntries handle
      · split
        · exact .refuse _ _ _
        · rename_i usable
          refine .setReserved handle notField ?_
          rw [← Bool.not_eq_false]
          intro isPublic
          rcases fault?_of_public isPublic value with ⟨fault, refused⟩
          rw [refused] at usable
          cases usable

end Form

theorem perform_does (store : Store) (name : String) (value receiver : Value) :
    Does store value receiver name (perform store name value receiver) := by
  cases receiver with
  | word bound origin =>
      simp only [perform, Word.assign]
      split
      · rename_i changes
        exact .moveWord origin rfl changes
      · exact .refuse _ _ _
  | looseWord content width origin =>
      simp only [perform, Word.assign]
      split
      · rename_i changes
        exact .moveWord origin rfl changes
      · exact .refuse _ _ _
  | sharedWord handle =>
      simp only [perform, Word.assignShared]
      split
      · rename_i changes
        rcases Option.bind_eq_some_iff.1 changes with ⟨word, found, changes⟩
        exact .setWord found changes
      · exact .refuse _ _ _
  | form handle => exact Form.assign_does store handle name value
  | _ => exact .refuse _ _ _

namespace Does

variable {store : Store} {receiver value : Value} {name : String} {effect : Effect}

/-- An assignment has no result, or it is refused. -/
theorem outcome (does : Does store value receiver name effect) :
    effect.outcome = .silent (.ok .absent) ∨ ∃ fault, effect.outcome = .silent (.error fault) := by
  cases does with
  | refuse => exact .inr ⟨_, rfl⟩
  | moveWord | setWord | setReserved => exact .inl rfl
  | setField handle field =>
      simp only [Form.assignField]
      split
      · rename_i observer _
        cases checked : (store.put handle field.name value).checkOperation "add" observer with
        | ok => exact .inl rfl
        | error fault => exact .inr ⟨fault, rfl⟩
      · exact .inl rfl
  | setEntries handle =>
      cases value with
      | record | sharedRecord => exact .inl rfl
      | _ => exact .inr ⟨_, rfl⟩

theorem eq_absent (does : Does store value receiver name effect) {result : Value}
    (ends : effect.outcome.result = .ok result) : result = .absent := by
  rcases does.outcome with isAbsent | ⟨fault, isRefused⟩
  · rw [isAbsent] at ends
    cases ends
    rfl
  · rw [isRefused] at ends
    cases ends

end Does

end Assignment

/-- The effect of an operation that does not assign: at most it adds a form that holds amounts. -/
inductive Effect.Adds (store : Store) : Effect → Prop where
  | nothing (outcome : Traced Value) : Adds store (.pure store outcome)
  | form (amounts : Field → UInt64) :
      Adds store (.update (store.addForm (Form.entriesOf amounts)) (.form store.forms.length))

namespace FormOperation

theorem keep_adds {store : Store} {read : Except Report Entries}
    (filled : ∀ {entries}, read = .ok entries → ∃ amounts, entries = Form.entriesOf amounts) :
    Effect.Adds store (keep store read) := by
  cases read with
  | error report => exact .nothing _
  | ok entries =>
      rcases filled rfl with ⟨amounts, rfl⟩
      exact .form amounts

theorem perform_cases (store : Store) (arguments : List Value) (operation : FormOperation) :
    Effect.Adds store (operation.perform store arguments) ∨
      ∃ receiver name value, operation = .assign ∧ arguments = [receiver, .text name, value] ∧
        operation.perform store arguments = Assignment.perform store name value receiver := by
  unfold perform
  split
  case h_3 value =>
    left
    unfold fillFrom
    split
    · exact keep_adds Form.ofRecord_eq_ok
    · exact .nothing _
    · exact .nothing _
  case h_4 value =>
    left
    split
    · exact keep_adds Form.ofRecord_eq_ok
    · exact .nothing _
  case h_5 content => exact .inl (keep_adds Form.ofText_eq_ok)
  case h_6 content =>
    left
    apply keep_adds
    intro entries read
    split at read
    · exact Form.ofText_eq_ok read
    · cases read
  case h_14 receiver name value => exact .inr ⟨receiver, name, value, rfl, rfl, rfl⟩
  all_goals exact .inl (.nothing _)

end FormOperation

/-- An operation leaves the store as it is, adds a form that holds amounts, or assigns. -/
theorem Operation.perform_cases (store : Store) (arguments : List Value) (operation : Operation) :
    Effect.Adds store (operation.perform store arguments) ∨
      ∃ receiver name value, operation = .form .assign ∧
        arguments = [receiver, .text name, value] ∧
        operation.perform store arguments = Assignment.perform store name value receiver := by
  cases operation with
  | form operation =>
      rcases operation.perform_cases store arguments with adds | assigns
      · exact .inl adds
      · rcases assigns with ⟨receiver, name, value, rfl, arguments_eq, performs⟩
        exact .inr ⟨receiver, name, value, rfl, arguments_eq, performs⟩
  | word | compare | mulDiv | text | schedule | inquire => exact .inl (.nothing _)

end PoolFees
