import PoolFees.Proofs.Session.Words

/-!
# What a request changes

A request leaves the results before it and the store as they are, adds a form, or assigns. So what a
run can change is known from the names under which it assigns. `Session.AssignsOnly` says that all
of them are allowed, and `AssignsOnly.preserves` is the induction over such a run.

Words are only moved and changed under the names of their parts, and records are only moved when
they become the entries of a form. Without these three names, everything that a session holds stays
where and what it is, save for the forms.
-/

namespace PoolFees

namespace Session

/-- A request assigns a value under a name of a receiver. -/
def Assigns (session : Session) (request : Request) (receiver : Value) (name : String)
    (value : Value) : Prop :=
  request.operation = .form .assign ∧
    session.evaluateAll [session.registers.length] 0 request.arguments =
      .ok [receiver, .text name, value]

/-- All names under which requests assign, one after the other, are allowed. -/
def AssignsOnly (allowed : String → Prop) (session : Session) : List Request → Prop
  | [] => True
  | request :: rest =>
    (∀ receiver name value, session.Assigns request receiver name value → allowed name) ∧
      AssignsOnly allowed (session.after request) rest

/-- The name under which a request assigns, if it does. -/
def assignedName? (session : Session) (request : Request) : Option String :=
  match request.operation, session.evaluateAll [session.registers.length] 0 request.arguments with
  | .form .assign, .ok [_, .text name, _] => some name
  | _, _ => none

theorem assignedName?_eq_some_iff {session : Session} {request : Request} {name : String} :
    session.assignedName? request = some name ↔
      ∃ receiver value, session.Assigns request receiver name value := by
  constructor
  · intro assigned
    unfold assignedName? at assigned
    split at assigned
    · rename_i isAssign evaluates
      cases assigned
      exact ⟨_, _, isAssign, evaluates⟩
    · cases assigned
  · rintro ⟨receiver, value, isAssign, evaluates⟩
    rw [assignedName?, isAssign, evaluates]

instance decidableAssignsOnly (allowed : String → Prop) [DecidablePred allowed] :
    (session : Session) → (requests : List Request) →
      Decidable (session.AssignsOnly allowed requests)
  | _, [] => .isTrue trivial
  | session, request :: rest =>
    have := decidableAssignsOnly allowed (session.after request) rest
    decidable_of_iff ((∀ name ∈ session.assignedName? request, allowed name) ∧
      (session.after request).AssignsOnly allowed rest) <| by
      refine and_congr_left' ?_
      constructor
      · intro isAllowed receiver name value assigns
        exact isAllowed name (assignedName?_eq_some_iff.2 ⟨receiver, value, assigns⟩)
      · intro isAllowed name assigned
        rcases assignedName?_eq_some_iff.1 assigned with ⟨receiver, value, assigns⟩
        exact isAllowed receiver name value assigns

/-- A request is refused, and nothing changes. -/
structure Refuses (session : Session) (request : Request) (fault : Fault) : Prop where
  outcome : (session.effect request).outcome = .silent (refuse fault)
  after : session.after request = ⟨session.registers ++ [.absent], session.store⟩

end Session

/-- The names under which a word is changed or something is moved. -/
def Assignment.movingNames : List String :=
  [Word.contentName, Word.widthName, Form.entriesName]

theorem Store.words_put (store : Store) (handle : Nat) (name : String) (value : Value) :
    (store.put handle name value).words = store.words := by
  unfold put
  split <;> rfl

theorem Assignment.Form.words_assignReserved (store : Store) (handle : Nat) (name : String)
    (value : Value) : (assignReserved store handle name value).words = store.words := by
  unfold assignReserved
  repeat' split
  all_goals first | rfl | exact store.words_put handle name value

theorem Assignment.Word.assign?_eq_none {word : LooseWord} {name : String} {value : Value}
    (notContent : name ≠ contentName) (notWidth : name ≠ widthName) :
    assign? word name value = none := by
  rw [assign?, if_neg notContent, if_neg notWidth]

/-- Under other names than these three an assignment moves nothing and changes no word. -/
theorem Assignment.Does.keeps {store : Store} {receiver value : Value} {name : String}
    {effect : Effect} (does : Does store value receiver name effect)
    (notMoving : name ∉ movingNames) : effect.moved = none ∧ effect.store.words = store.words := by
  simp only [movingNames, List.mem_cons, List.not_mem_nil, not_or] at notMoving
  rcases notMoving with ⟨notContent, notWidth, notEntries, _⟩
  cases does with
  | refuse => exact ⟨rfl, rfl⟩
  | moveWord origin found changes | setWord found changes =>
      rw [Word.assign?_eq_none notContent notWidth] at changes
      cases changes
  | setField handle field =>
      simp only [Form.assignField]
      split
      · exact ⟨rfl, store.words_put handle field.name value⟩
      · exact ⟨rfl, store.words_put handle field.name value⟩
  | setEntries => exact (notEntries rfl).elim
  | setReserved handle => exact ⟨rfl, Form.words_assignReserved store handle name value⟩

namespace Effect

variable {effect : Effect}

theorem answered_of_absent (ends : effect.outcome = .silent (.ok .absent)) (origin : Origin) :
    (effect.madeAt origin).answered = effect := by
  rcases effect with ⟨outcome, store, moved⟩
  cases ends
  rfl

theorem answered_of_refused {fault : Fault} (ends : effect.outcome = .silent (.error fault))
    (origin : Origin) : (effect.madeAt origin).answered = effect := by
  rcases effect with ⟨outcome, store, moved⟩
  cases ends
  rfl

end Effect

/-- Whether a value lets nothing be assigned to its parts. -/
def Value.isFrozen : Value → Bool
  | schedule .. | fixedPoint .. | looseFixedPoint .. => true
  | _ => false

namespace Session

variable {session : Session} {request : Request} {receiver value : Value} {name : String}

/-- An assignment is answered as it is performed. -/
theorem effect_of_assigns (assigns : session.Assigns request receiver name value) :
    session.effect request = Assignment.perform session.store name value receiver := by
  rcases assigns with ⟨isAssign, evaluates⟩
  rw [effect_of_evaluates evaluates, isAssign]
  rcases (Assignment.perform_does session.store name value receiver).outcome with ends | ends
  · exact Effect.answered_of_absent ends _
  · rcases ends with ⟨fault, ends⟩
    exact Effect.answered_of_refused ends _

theorem after_of_assigns (assigns : session.Assigns request receiver name value) :
    session.after request =
      ⟨session.registersAfter (Assignment.perform session.store name value receiver) ++ [.absent],
        (Assignment.perform session.store name value receiver).store⟩ := by
  simp only [after, effect_of_assigns assigns]
  rcases (Assignment.perform_does session.store name value receiver).outcome with ends | ends
  · rw [ends, Traced.silent]
  · rcases ends with ⟨fault, ends⟩
    rw [ends, Traced.silent]

theorem Assigns.refuses (assigns : session.Assigns request receiver name value) {fault : Fault}
    (refuses : Assignment.perform session.store name value receiver = .refuse session.store fault) :
    session.Refuses request fault := by
  constructor
  · rw [effect_of_assigns assigns, refuses]
    rfl
  · rw [after_of_assigns assigns, refuses]
    rfl

/-- What a request leaves behind: its result and the store as it was, a new form, or what an
assignment does. -/
inductive Step (session : Session) (request : Request) : Session → Prop where
  | answer (result : Value)
      (resultIn : ∀ {known : Identity → Value → Prop}, session.Knows known →
        result.IsKnown (Identity.KnownOrMade known [session.registers.length]
          (session.madeBy request result))) :
      Step session request ⟨session.registers ++ [result], session.store⟩
  | fill (amounts : Field → UInt64) (result : Value)
      (isNew : result = .absent ∨ result = .form session.store.forms.length) :
      Step session request
        ⟨session.registers ++ [result], session.store.addForm (Form.entriesOf amounts)⟩
  | assign {receiver value : Value} {name : String} {effect : Effect}
      (assigns : session.Assigns request receiver name value)
      (does : Assignment.Does session.store value receiver name effect) :
      Step session request ⟨session.registersAfter effect ++ [.absent], effect.store⟩

theorem step_after (session : Session) (request : Request) :
    session.Step request (session.after request) := by
  cases evaluates : session.evaluateAll [session.registers.length] 0 request.arguments with
  | error fault =>
      simp only [after, effect_of_refused evaluates]
      exact .answer .absent fun _ => .plain rfl rfl
  | ok arguments =>
      have effect_eq := effect_of_evaluates evaluates
      rcases request.operation.perform_cases session.store arguments with adds | assigns
      · generalize performs : request.operation.perform session.store arguments = effect at adds
        rw [performs] at effect_eq
        cases adds with
        | nothing outcome =>
            simp only [after, effect_eq, registersAfter, Effect.answered_store,
              Effect.answered_moved]
            refine .answer _ ?_
            intro known knows
            split
            · rename_i shows
              rcases Except.map_eq_ok_iff.1 (Effect.result_of_answered shows) with
                ⟨made, made_eq, rfl⟩
              have argumentsIn := knows.evaluateAll evaluates
              rw [length_of_evaluateAll evaluates]
              exact madeAt_isKnown (Operation.perform_isKnown (knows.store.mono fun _ _ => .inl)
                argumentsIn performs made_eq)
            · exact .plain rfl rfl
        | form amounts =>
            simp only [after, effect_eq, registersAfter, Effect.answered_store,
              Effect.answered_moved]
            refine .fill amounts _ ?_
            split
            · rename_i shows
              have isForm := Effect.result_of_answered shows
              cases isForm
              exact .inr rfl
            · exact .inl rfl
      · rcases assigns with ⟨receiver, name, value, isAssign, rfl, _⟩
        have assigns : session.Assigns request receiver name value := ⟨isAssign, evaluates⟩
        rw [after_of_assigns assigns]
        exact .assign assigns (Assignment.perform_does session.store name value receiver)

namespace AssignsOnly

variable {allowed : String → Prop} {requests : List Request}

/-- What every request of a run preserves that assigns under allowed names, the run preserves. -/
theorem preserves {P : Session → Prop} (assigns : session.AssignsOnly allowed requests)
    (step : ∀ session request, P session →
      (∀ receiver name value, session.Assigns request receiver name value → allowed name) →
      P (session.after request))
    (holds : P session) : P (session.run requests) := by
  induction requests generalizing session with
  | nil => exact holds
  | cons request rest ih => exact ih assigns.2 (step session request holds assigns.1)

end AssignsOnly

/-- Results are known after an effect as far as they were before it. -/
theorem registersAfter_isKnown {known all : Identity → Value → Prop} {effect : Effect}
    (registersIn : ∀ value ∈ session.registers, value.IsKnown known)
    (carries : effect.Carries known all) :
    ∀ value ∈ session.registersAfter effect, value.IsKnown all := by
  unfold registersAfter
  split
  · rename_i replacement found
    rcases carries.moved replacement found with ⟨handleIn, keeps⟩
    rw [List.forall_mem_map]
    intro value member
    exact replacement.apply_isKnown handleIn keeps (registersIn value member)
  · rename_i unmoved
    intro value member
    exact (registersIn value member).mono (carries.unmoved unmoved)

/-- A result that no replacement changes stays where it is. -/
theorem getElem?_after {position : Nat} (found : session.registers[position]? = some value)
    (fixed : ∀ replacement : Replacement, replacement.apply value = value) (request : Request) :
    (session.after request).registers[position]? = some value := by
  have keeps : (session.registersAfter (session.effect request))[position]? = some value := by
    unfold registersAfter
    split
    · rename_i replacement _
      rw [List.getElem?_map, found, Option.map_some, fixed]
    · exact found
  rcases List.getElem?_eq_some_iff.1 keeps with ⟨inRange, _⟩
  rw [after, List.getElem?_append_left inRange]
  exact keeps

theorem getElem?_run {position : Nat} (found : session.registers[position]? = some value)
    (fixed : ∀ replacement : Replacement, replacement.apply value = value)
    (requests : List Request) : (session.run requests).registers[position]? = some value := by
  induction requests generalizing session with
  | nil => exact found
  | cons request rest ih => exact ih (getElem?_after found fixed request)

/-- Nothing is assigned to a part of a schedule or of a fixed-point number. -/
theorem Assigns.refuses_frozen (assigns : session.Assigns request receiver name value)
    (isFrozen : receiver.isFrozen = true) : session.Refuses request (.frozen name) := by
  apply assigns.refuses
  cases receiver with
  | fixedPoint | looseFixedPoint | schedule => rfl
  | _ => cases isFrozen

/-- Nothing is assigned to a word but its two parts. -/
theorem Assigns.refuses_word (assigns : session.Assigns request receiver name value)
    {word : LooseWord} (isWord : session.store.word? receiver = some word)
    (notContent : name ≠ Assignment.Word.contentName)
    (notWidth : name ≠ Assignment.Word.widthName) :
    session.Refuses request (Assignment.Word.fault name value) := by
  have changesNot (word : LooseWord) : Assignment.Word.assign? word name value = none :=
    Assignment.Word.assign?_eq_none notContent notWidth
  apply assigns.refuses
  cases receiver with
  | word | looseWord => simp only [Assignment.perform, Assignment.Word.assign, changesNot]
  | sharedWord =>
      simp only [Assignment.perform, Assignment.Word.assignShared, changesNot,
        Option.bind_fun_none]
  | _ => cases isWord

/-- All earlier results and all words in the store are still what they were. -/
structure Keeps (session later : Session) : Prop where
  registers : session.registers <+: later.registers
  words : later.store.words = session.store.words

namespace Keeps

variable {later last : Session}

theorem refl (session : Session) : session.Keeps session := ⟨List.prefix_rfl, rfl⟩

theorem trans (keeps : session.Keeps later) (keepsOn : later.Keeps last) : session.Keeps last :=
  ⟨keeps.registers.trans keepsOn.registers, keepsOn.words.trans keeps.words⟩

theorem word? (keeps : session.Keeps later) (value : Value) :
    later.store.word? value = session.store.word? value := by
  cases value with
  | sharedWord handle => simp only [Store.word?, keeps.words]
  | _ => rfl

end Keeps

/-- Words are changed, and anything is moved, only under three names. -/
theorem keeps_after (notMoving : ∀ receiver name value,
      session.Assigns request receiver name value → name ∉ Assignment.movingNames) :
    session.Keeps (session.after request) := by
  have step := session.step_after request
  generalize session.after request = next at step
  cases step with
  | answer result => exact ⟨List.prefix_append _ _, rfl⟩
  | fill amounts result => exact ⟨List.prefix_append _ _, rfl⟩
  | assign assigns does =>
      rcases does.keeps (notMoving _ _ _ assigns) with ⟨unmoved, words_eq⟩
      refine ⟨?_, words_eq⟩
      simp only [registersAfter, unmoved]
      exact List.prefix_append _ _

theorem AssignsOnly.keeps {requests : List Request}
    (assigns : session.AssignsOnly (· ∉ Assignment.movingNames) requests) :
    session.Keeps (session.run requests) := by
  refine assigns.preserves ?_ (Keeps.refl session)
  intro later request keeps notMoving
  exact keeps.trans (keeps_after notMoving)

end Session

end PoolFees
