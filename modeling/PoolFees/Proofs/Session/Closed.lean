import PoolFees.Proofs.Session.Change

/-!
# Closed sessions

A session is closed when its store has everything that its results and the store itself refer to.
Every request preserves this, whatever it asks for: evaluating arguments and performing operations
make up no handle, and an assignment moves a value into the store together with all that refers to
it. So there is never a form that a session can name and that has no entries.

A store only grows, so what it has once it has for good. `Store.Has` says so of identities, and
`Store.Grows` is what every effect leads to.
-/

namespace PoolFees

namespace Store

/-- The identities of what a store has. -/
def Has (store : Store) : Identity → Value → Prop
  | .word handle, _ => handle < store.words.length
  | .record handle, _ => handle < store.records.length
  | .form handle, _ => handle < store.forms.length
  | .made _, _ => True

/-- A store is at least as long as another one. -/
structure Grows (store next : Store) : Prop where
  words : store.words.length ≤ next.words.length
  records : store.records.length ≤ next.records.length
  forms : store.forms.length ≤ next.forms.length

namespace Grows

variable {store next last : Store}

theorem refl (store : Store) : store.Grows store := ⟨Nat.le_refl _, Nat.le_refl _, Nat.le_refl _⟩

theorem trans (grows : store.Grows next) (growsOn : next.Grows last) : store.Grows last :=
  ⟨Nat.le_trans grows.words growsOn.words, Nat.le_trans grows.records growsOn.records,
    Nat.le_trans grows.forms growsOn.forms⟩

theorem has (grows : store.Grows next) (identity : Identity) (value : Value)
    (has : store.Has identity value) : next.Has identity value := by
  cases identity with
  | word => exact Nat.lt_of_lt_of_le has grows.words
  | record => exact Nat.lt_of_lt_of_le has grows.records
  | form => exact Nat.lt_of_lt_of_le has grows.forms
  | made => trivial

end Grows

theorem addWord_grows (store : Store) (word : LooseWord) : store.Grows (store.addWord word) := by
  refine ⟨?_, Nat.le_refl _, Nat.le_refl _⟩
  rw [addWord, List.length_append]
  exact Nat.le_add_right _ _

theorem setWord_grows (store : Store) (handle : Nat) (word : LooseWord) :
    store.Grows (store.setWord handle word) := by
  refine ⟨Nat.le_of_eq ?_, Nat.le_refl _, Nat.le_refl _⟩
  rw [setWord, List.length_set]

theorem addRecord_grows (store : Store) (entries : Entries) :
    store.Grows (store.addRecord entries) := by
  refine ⟨Nat.le_refl _, ?_, Nat.le_refl _⟩
  rw [addRecord, List.length_append]
  exact Nat.le_add_right _ _

theorem addForm_grows (store : Store) (entries : Entries) :
    store.Grows (store.addForm entries) := by
  refine ⟨Nat.le_refl _, (store.addRecord_grows entries).records, ?_⟩
  rw [addForm, List.length_append]
  exact Nat.le_add_right _ _

theorem put_grows (store : Store) (handle : Nat) (name : String) (value : Value) :
    store.Grows (store.put handle name value) := by
  unfold put
  split
  · refine ⟨Nat.le_refl _, Nat.le_of_eq ?_, Nat.le_refl _⟩
    rw [List.length_modify]
  · exact Grows.refl store

theorem modifyForm_grows (store : Store) (handle : Nat) (change : Form → Form) :
    store.Grows (store.modifyForm handle change) := by
  refine ⟨Nat.le_refl _, Nat.le_refl _, Nat.le_of_eq ?_⟩
  rw [modifyForm, List.length_modify]

theorem replace_grows (store : Store) (replacement : Replacement) :
    store.Grows (store.replace replacement) := by
  refine ⟨Nat.le_of_eq ?_, Nat.le_of_eq ?_, Nat.le_of_eq ?_⟩
  all_goals rw [replace, map, List.length_map]

/-- All forms have entries in a store. -/
def HasEntries (store : Store) : Prop := ∀ form ∈ store.forms, form.entries < store.records.length

/-- A store has all that the values in it refer to, and all forms have entries there. -/
structure Closed (store : Store) : Prop where
  handles : store.IsKnown store.Has
  entries : store.HasEntries

namespace HasEntries

variable {store : Store}

/-- Forms keep their entries when records are added. -/
theorem grow {next : Store} (hasEntries : store.HasEntries) (grows : store.Grows next)
    (sameForms : next.forms = store.forms) : next.HasEntries := by
  intro form member
  rw [sameForms] at member
  exact Nat.lt_of_lt_of_le (hasEntries form member) grows.records

theorem modifyForm (hasEntries : store.HasEntries) {change : Form → Form}
    (inRange : ∀ form, form.entries < store.records.length →
      (change form).entries < store.records.length) (handle : Nat) :
    (store.modifyForm handle change).HasEntries :=
  forall_mem_modify hasEntries inRange handle

theorem replace (hasEntries : store.HasEntries) (replacement : Replacement) :
    (store.replace replacement).HasEntries := by
  rw [HasEntries, Store.replace, Store.map, List.forall_mem_map, List.length_map]
  exact hasEntries

theorem addForm (hasEntries : store.HasEntries) (entries : Entries) :
    (store.addForm entries).HasEntries := by
  rw [HasEntries, Store.addForm, List.forall_mem_append, List.forall_mem_singleton,
    List.length_append]
  refine ⟨?_, Nat.lt_succ_self _⟩
  intro form member
  exact Nat.lt_add_right _ (hasEntries form member)

theorem put (hasEntries : store.HasEntries) (handle : Nat) (name : String) (value : Value) :
    (store.put handle name value).HasEntries := by
  refine hasEntries.grow (store.put_grows handle name value) ?_
  unfold Store.put
  split <;> rfl

end HasEntries

end Store

namespace Assignment.Does

variable {store : Store} {receiver value : Value} {name : String} {effect : Effect}

theorem grows (does : Does store value receiver name effect) : store.Grows effect.store := by
  cases does with
  | refuse => exact .refl store
  | moveWord => exact (store.addWord_grows _).trans (Store.replace_grows _ _)
  | setWord => exact store.setWord_grows _ _
  | setField handle field =>
      simp only [Form.assignField]
      split <;> exact store.put_grows _ _ _
  | setEntries handle =>
      cases value with
      | record entries =>
          exact (store.addRecord_grows entries).trans
            ((Store.modifyForm_grows _ _ _).trans (Store.replace_grows _ _))
      | sharedRecord => exact store.modifyForm_grows _ _
      | _ => exact .refl store
  | setReserved handle =>
      change store.Grows (Form.assignReserved store handle name value)
      unfold Form.assignReserved
      repeat' split
      all_goals first | exact store.modifyForm_grows _ _ | exact store.put_grows _ _ _

/-- What is moved into the store is a word or a record that is there afterwards. -/
theorem handle_of_moved (does : Does store value receiver name effect) :
    ∀ replacement ∈ effect.moved,
      (∃ handle, replacement.handle = .sharedWord handle ∧ handle < effect.store.words.length) ∨
        ∃ handle, replacement.handle = .sharedRecord handle ∧
          handle < effect.store.records.length := by
  cases does with
  | moveWord =>
      rintro _ ⟨⟩
      refine .inl ⟨_, rfl, ?_⟩
      refine Nat.lt_of_lt_of_le ?_ (Store.replace_grows _ _).words
      rw [Store.addWord, List.length_append]
      exact Nat.lt_succ_self _
  | setField handle field =>
      simp only [Form.assignField]
      split
      all_goals rintro _ ⟨⟩
  | setEntries handle =>
      cases value with
      | record entries =>
          rintro _ ⟨⟩
          refine .inr ⟨_, rfl, ?_⟩
          refine Nat.lt_of_lt_of_le ?_
            ((Store.modifyForm_grows _ _ _).trans (Store.replace_grows _ _)).records
          rw [Store.addRecord, List.length_append]
          exact Nat.lt_succ_self _
      | _ => rintro _ ⟨⟩
  | _ => rintro _ ⟨⟩

theorem hasEntries (does : Does store value receiver name effect) (closed : store.HasEntries)
    (valueIn : value.IsKnown store.Has) : effect.store.HasEntries := by
  cases does with
  | refuse => exact closed
  | moveWord => exact (closed.grow (store.addWord_grows _) rfl).replace _
  | setWord => exact closed.grow (store.setWord_grows _ _) rfl
  | setField handle field =>
      simp only [Form.assignField]
      split <;> exact closed.put _ _ _
  | setEntries handle =>
      cases value with
      | record entries =>
          refine ((closed.grow (store.addRecord_grows entries) rfl).modifyForm ?_ handle).replace _
          intro form _
          rw [Store.addRecord, List.length_append]
          exact Nat.lt_succ_self _
      | sharedRecord shared =>
          refine closed.modifyForm ?_ handle
          intro form _
          exact valueIn.here _ rfl
      | _ => exact closed
  | setReserved handle =>
      change (Form.assignReserved store handle name value).HasEntries
      unfold Form.assignReserved
      repeat' split
      all_goals first
        | exact closed.put _ _ _
        | refine closed.modifyForm ?_ handle
          intro form inRange
          exact inRange

theorem carries (does : Does store value receiver name effect) :
    effect.Carries store.Has effect.store.Has := by
  refine ⟨fun _ => does.grows.has, ?_⟩
  intro replacement found
  constructor
  · rcases does.handle_of_moved replacement found with
      ⟨handle, handle_eq, isThere⟩ | ⟨handle, handle_eq, isThere⟩
    all_goals
      rw [handle_eq]
      exact .single rfl isThere rfl
  · intro identity value has
    cases identity with
    | made => trivial
    | word | record | form => exact does.grows.has _ value has

theorem closed (does : Does store value receiver name effect) (closed : store.Closed)
    (receiverIn : receiver.IsKnown store.Has) (valueIn : value.IsKnown store.Has) :
    effect.store.Closed :=
  ⟨does.isKnown closed.handles receiverIn valueIn does.carries,
    does.hasEntries closed.entries valueIn⟩

end Assignment.Does

/-- What is made needs nothing to be in the store. -/
theorem Store.has_of_made {store : Store} {origin : Origin} {made : List Nat → Option Value}
    (identity : Identity) (value : Value)
    (holds : Identity.KnownOrMade store.Has origin made identity value) :
    store.Has identity value := by
  rcases holds with has | ⟨path, rfl, _⟩
  · exact has
  · trivial

namespace Session

variable {session : Session}

/-- The results of a session refer only to what its store has, and so does the store. -/
structure Closed (session : Session) : Prop where
  registers : ∀ value ∈ session.registers, value.IsKnown session.store.Has
  store : session.store.Closed

theorem start_closed (memory : Memory) : (start memory).Closed := by
  refine ⟨?_, ⟨?_, ?_, ?_⟩, ?_⟩
  all_goals
    intro value member
    cases member

namespace Closed

theorem knows (closed : session.Closed) : session.Knows session.store.Has :=
  ⟨closed.registers, closed.store.handles⟩

theorem evaluate (closed : session.Closed) {origin : Origin} {argument : Argument} {value : Value}
    (evaluates : session.evaluate origin argument = .ok value) :
    value.IsKnown session.store.Has :=
  (closed.knows.evaluate evaluates).mono Store.has_of_made

theorem evaluateAll (closed : session.Closed) {origin : Origin} {arguments : List Argument}
    {values : List Value} (evaluates : session.evaluateAll origin 0 arguments = .ok values) :
    ∀ value ∈ values, value.IsKnown session.store.Has := by
  intro value member
  exact (closed.knows.evaluateAll evaluates value member).mono Store.has_of_made

/-- A request leads to a closed store, and its result refers to what is there. -/
theorem after (closed : session.Closed) (request : Request) : (session.after request).Closed := by
  have step := session.step_after request
  generalize session.after request = next at step
  cases step with
  | answer result resultIn =>
      refine ⟨?_, closed.store⟩
      rw [List.forall_mem_append, List.forall_mem_singleton]
      refine ⟨closed.registers, ?_⟩
      exact (resultIn closed.knows).mono Store.has_of_made
  | fill amounts result isNew =>
      have grows := session.store.addForm_grows (Form.entriesOf amounts)
      refine ⟨?_, ?_, closed.store.entries.addForm _⟩
      · rw [List.forall_mem_append, List.forall_mem_singleton]
        refine ⟨fun value member => (closed.registers value member).mono grows.has, ?_⟩
        rcases isNew with rfl | rfl
        · exact .plain rfl rfl
        · refine .single rfl ?_ rfl
          rw [Store.Has, Store.addForm, List.length_append]
          exact Nat.lt_succ_self _
      · exact (closed.store.handles.addForm (Form.entriesOf_isKnown amounts)).mono grows.has
  | assign assigns does =>
      have argumentsIn := closed.evaluateAll assigns.2
      rw [List.forall_mem_cons, List.forall_mem_cons, List.forall_mem_singleton] at argumentsIn
      refine ⟨?_, does.closed closed.store argumentsIn.1 argumentsIn.2.2⟩
      rw [List.forall_mem_append, List.forall_mem_singleton]
      exact ⟨registersAfter_isKnown closed.registers does.carries, .plain rfl rfl⟩

theorem run (closed : session.Closed) (requests : List Request) :
    (session.run requests).Closed := by
  induction requests generalizing session with
  | nil => exact closed
  | cons request rest ih => exact ih (closed.after request)

end Closed

end Session

end PoolFees
