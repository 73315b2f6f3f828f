import PoolFees.Proofs.FixedPoint.Equality
import PoolFees.Proofs.Session.Closed
import PoolFees.Proofs.Value.Counting

/-!
# One value for each identity

Values are passed on, shared and replaced, and the same value can be reached in many ways. This file
proves that no two different values ever have one identity, whatever is requested.

The invariant is carried by a record of what was made where, which the session itself does not keep:
a relation between origins and values. `MadeBefore` says that it has at most one value for each
origin, and that the origin names an earlier request. `Session.Records` says that it has all values
with an origin that the session holds, at any depth. A request adds to the record what it makes, at
origins that start with its own number, and where a value is moved into the store everything in the
record is replaced.

So what is passed on is the same value in all arguments of a request, which is what comparing,
counting and searching take for granted.
-/

namespace PoolFees

/-- A value with an identity is the one that was made there. Handles tell their values. -/
def Identity.MadeAs (made : Origin → Value → Prop) : Identity → Value → Prop
  | .made origin, value => made origin value
  | _, _ => True

/-- Each origin has at most one value in a record, made by a request before the given one. -/
structure MadeBefore (count : Nat) (made : Origin → Value → Prop) : Prop where
  unique : ∀ {origin left right}, made origin left → made origin right → left = right
  before : ∀ {request path value}, made (request :: path) value → request < count

namespace Value

variable {made : Origin → Value → Prop} {left right : Value} {count : Nat}

/-- Handles tell their values. -/
theorem eq_of_identity? {identity : Identity} (leftIs : left.identity? = some identity)
    (rightIs : right.identity? = some identity) (isHandle : ∀ origin, identity ≠ .made origin) :
    left = right := by
  have notMade {origin : Origin} (isMade : origin.identity? = some identity) : False := by
    cases origin with
    | nil => cases isMade
    | cons => exact isHandle _ (Option.some_inj.1 isMade).symm
  cases left with
  | form | sharedRecord | sharedWord =>
      cases leftIs
      cases right with
      | form | sharedRecord | sharedWord => cases rightIs <;> rfl
      | absent | truth | whole | text | bytes | decimal => cases rightIs
      | _ => exact (notMade rightIs).elim
  | absent | truth | whole | text | bytes | decimal => cases leftIs
  | _ => exact (notMade leftIs).elim

/-- Values of one record that are one value, passed on, are the same. -/
theorem eq_of_isIdentical (recorded : MadeBefore count made)
    (leftMade : ∀ identity ∈ left.identity?, identity.MadeAs made left)
    (rightMade : ∀ identity ∈ right.identity?, identity.MadeAs made right)
    (identical : left.isIdentical right = true) : left = right := by
  unfold isIdentical at identical
  split at identical
  · rename_i identity other leftIs rightIs
    obtain rfl := beq_iff_eq.1 identical
    cases identity with
    | made origin => exact recorded.unique (leftMade _ leftIs) (rightMade _ rightIs)
    | word | record | form => exact eq_of_identity? leftIs rightIs nofun
  · cases identical

end Value

namespace MadeBefore

variable {count : Nat} {made : Origin → Value → Prop}

/-- A record with what was made on paths within an origin. -/
def extended (made : Origin → Value → Prop) (origin : Origin) (new : List Nat → Option Value)
    (place : Origin) (value : Value) : Prop :=
  made place value ∨ ∃ path, place = origin ++ path ∧ new path = some value

/-- A record in which everything is replaced. -/
def replaced (made : Origin → Value → Prop) (replacement : Replacement) (place : Origin)
    (value : Value) : Prop :=
  ∃ old, made place old ∧ value = replacement.apply old

theorem extend (recorded : MadeBefore count made) (new : List Nat → Option Value) :
    MadeBefore (count + 1) (extended made [count] new) := by
  -- What was made before is told from what is made now by the number of the request.
  have apart {path : List Nat} {value : Value} (isOld : made ([count] ++ path) value) : False :=
    Nat.lt_irrefl count (recorded.before isOld)
  constructor
  · rintro origin left right (leftOld | ⟨path, rfl, leftNew⟩) (rightOld | ⟨other, same, rightNew⟩)
    · exact recorded.unique leftOld rightOld
    · rw [same] at leftOld
      exact (apart leftOld).elim
    · exact (apart rightOld).elim
    · obtain rfl := List.append_cancel_left same
      exact Option.some_inj.1 (leftNew.symm.trans rightNew)
  · rintro request path value (isOld | ⟨other, same, _⟩)
    · exact Nat.lt_succ_of_lt (recorded.before isOld)
    · rw [(List.cons.inj same).1]
      exact Nat.lt_succ_self count

theorem replace (recorded : MadeBefore count made) (replacement : Replacement) :
    MadeBefore count (replaced made replacement) := by
  constructor
  · rintro origin _ _ ⟨left, leftMade, rfl⟩ ⟨right, rightMade, rfl⟩
    rw [recorded.unique leftMade rightMade]
  · rintro request path _ ⟨old, isMade, rfl⟩
    exact recorded.before isMade

end MadeBefore

namespace Identity

variable {made : Origin → Value → Prop} {identity : Identity} {value : Value}

theorem madeAs_extended {origin : Origin} {new : List Nat → Option Value} (identity : Identity)
    (value : Value) (holds : KnownOrMade (MadeAs made) origin new identity value) :
    identity.MadeAs (MadeBefore.extended made origin new) value := by
  rcases holds with isMade | ⟨path, rfl, isNew⟩
  · cases identity with
    | made => exact .inl isMade
    | word | record | form => trivial
  · exact .inr ⟨path, rfl, isNew⟩

theorem madeAs_replaced (replacement : Replacement) (identity : Identity) (value : Value)
    (isMade : identity.MadeAs made value) :
    identity.MadeAs (MadeBefore.replaced made replacement) (replacement.apply value) := by
  cases identity with
  | made => exact ⟨value, isMade, rfl⟩
  | word | record | form => trivial

end Identity

/-- After an assignment the record is that of before, with everything replaced if something was
moved. -/
theorem Assignment.Does.exists_carries {store : Store} {receiver value : Value} {name : String}
    {effect : Effect} (does : Does store value receiver name effect) {count : Nat}
    {made : Origin → Value → Prop} (recorded : MadeBefore count made) :
    ∃ madeAfter, MadeBefore count madeAfter ∧
      effect.Carries (Identity.MadeAs made) (Identity.MadeAs madeAfter) := by
  cases moved : effect.moved with
  | none =>
      refine ⟨made, recorded, fun _ _ _ => id, ?_⟩
      rw [moved]
      rintro _ ⟨⟩
  | some replacement =>
      refine ⟨_, recorded.replace replacement, ?_, ?_⟩
      · rw [moved]
        rintro ⟨⟩
      · rw [moved]
        rintro _ ⟨⟩
        refine ⟨?_, Identity.madeAs_replaced replacement⟩
        rcases does.handle_of_moved replacement moved with
          ⟨handle, handle_eq, _⟩ | ⟨handle, handle_eq, _⟩
        all_goals
          rw [handle_eq]
          exact .single rfl trivial rfl

namespace Session

variable {session : Session} {made : Origin → Value → Prop}

/-- A record has all values with an origin that a session holds, at any depth. -/
structure Records (session : Session) (made : Origin → Value → Prop) : Prop where
  recorded : MadeBefore session.registers.length made
  knows : session.Knows (Identity.MadeAs made)

theorem start_records (memory : Memory) : (start memory).Records fun _ _ => False := by
  refine ⟨⟨nofun, nofun⟩, ?_, ?_, ?_, ?_⟩
  all_goals
    intro value member
    cases member

theorem length_registersAfter (session : Session) (effect : Effect) :
    (session.registersAfter effect).length = session.registers.length := by
  unfold registersAfter
  split
  · rw [List.length_map]
  · rfl

namespace Records

/-- The record still has everything when something is added to it. -/
theorem knows_extended (records : session.Records made) (new : List Nat → Option Value) :
    session.Knows (Identity.MadeAs (MadeBefore.extended made [session.registers.length] new)) :=
  records.knows.mono fun identity value isMade =>
    Identity.madeAs_extended identity value (.inl isMade)

/-- The arguments of a request are in the record once what they make is added to it. -/
theorem evaluateAll (records : session.Records made) {arguments : List Argument}
    {values : List Value}
    (evaluates : session.evaluateAll [session.registers.length] 0 arguments = .ok values) :
    ∀ value ∈ values, value.IsKnown (Identity.MadeAs (MadeBefore.extended made
      [session.registers.length]
      (session.madeFrom [session.registers.length] (.list arguments)))) := by
  intro value member
  exact (records.knows.evaluateAll evaluates value member).mono Identity.madeAs_extended

/-- Every request leaves a session of which there is a record. -/
theorem after (records : session.Records made) (request : Request) :
    ∃ madeAfter, (session.after request).Records madeAfter := by
  have step := session.step_after request
  generalize session.after request = next at step
  cases step with
  | answer result resultIn =>
      have knows := records.knows_extended (session.madeBy request result)
      refine ⟨_, ?_, ?_, knows.store⟩
      · rw [List.length_append]
        exact records.recorded.extend _
      · rw [List.forall_mem_append, List.forall_mem_singleton]
        exact ⟨knows.registers, (resultIn records.knows).mono Identity.madeAs_extended⟩
  | fill amounts result isNew =>
      have knows := records.knows_extended fun _ => none
      refine ⟨_, ?_, ?_, knows.store.addForm (Form.entriesOf_isKnown amounts)⟩
      · rw [List.length_append]
        exact records.recorded.extend _
      · rw [List.forall_mem_append, List.forall_mem_singleton]
        refine ⟨knows.registers, ?_⟩
        rcases isNew with rfl | rfl
        · exact .plain rfl rfl
        · exact .single rfl trivial rfl
  | assign assigns does =>
      have argumentsIn := records.evaluateAll assigns.2
      rw [List.forall_mem_cons, List.forall_mem_cons, List.forall_mem_singleton] at argumentsIn
      have knows := records.knows_extended
        (session.madeFrom [session.registers.length] (.list request.arguments))
      rcases does.exists_carries (records.recorded.extend _) with ⟨madeAfter, recorded, carries⟩
      refine ⟨madeAfter, ?_, ?_, ?_⟩
      · rw [List.length_append, length_registersAfter]
        exact recorded
      · rw [List.forall_mem_append, List.forall_mem_singleton]
        exact ⟨registersAfter_isKnown knows.registers carries, .plain rfl rfl⟩
      · exact does.isKnown knows.store argumentsIn.1 argumentsIn.2.2 carries

theorem run (records : session.Records made) (requests : List Request) :
    ∃ madeAfter, (session.run requests).Records madeAfter := by
  induction requests generalizing session made with
  | nil => exact ⟨made, records⟩
  | cons request rest ih =>
      rcases records.after request with ⟨_, recordsAfter⟩
      exact ih recordsAfter

end Records

/-- In every run, values that the arguments of a request hold at any depth are coherent: those that
are one value, passed on, are the same. -/
theorem coherent_of_run (memory : Memory) (requests : List Request) (arguments : List Argument)
    (values among : List Value) :
    let session := (start memory).run requests
    session.evaluateAll [session.registers.length] 0 arguments = .ok values →
    (∀ part ∈ among, ∃ value ∈ values, value.Holds part) → Store.Coherent among := by
  intro session evaluates within left leftMember right rightMember identical
  rcases (start_records memory).run requests with ⟨made, records⟩
  have recorded := records.recorded.extend
    (session.madeFrom [session.registers.length] (.list arguments))
  have valuesIn := records.evaluateAll evaluates
  rcases within left leftMember with ⟨leftValue, leftIn, leftHolds⟩
  rcases within right rightMember with ⟨rightValue, rightIn, rightHolds⟩
  exact Value.eq_of_isIdentical recorded ((valuesIn leftValue leftIn).holds leftHolds).here
    ((valuesIn rightValue rightIn).holds rightHolds).here identical

/-- In every run, a list of numbers among the arguments of a request is counted and searched by
number, and two fixed-point numbers are compared by the numbers that their parts denote. -/
theorem compared_of_run (memory : Memory) (requests : List Request) (arguments : List Argument) :
    let session := (start memory).run requests
    (∀ items numbers origin,
      session.evaluateAll [session.registers.length] 0 arguments = .ok [.list items origin] →
      session.store.Numbered items numbers →
      session.store.distinct items = .ok numbers.toFinset.card) ∧
    (∀ item number items numbers origin,
      session.evaluateAll [session.registers.length] 0 arguments = .ok [item, .list items origin] →
      session.store.number? item = some number → session.store.Numbered items numbers →
      session.store.contains item items = .ok (decide (number ∈ numbers))) ∧
    ∀ pair value places number count other otherValue otherPlaces otherNumber otherCount,
      session.evaluateAll [session.registers.length] 0 arguments = .ok [pair, other] →
      session.store.Pairs pair value places number count →
      session.store.Pairs other otherValue otherPlaces otherNumber otherCount →
      session.store.equals pair other =
        .ok ((number : Int) == otherNumber && (count : Int) == otherCount) := by
  intro session
  refine ⟨?_, ?_, ?_⟩
  · intro items numbers origin evaluates numbered
    refine numbered.distinct_eq (coherent_of_run memory requests arguments _ _ evaluates ?_)
    intro item member
    exact ⟨_, List.mem_cons_self, Value.holds_of_mem member⟩
  · intro item number items numbers origin evaluates isNumber numbered
    refine numbered.contains_eq isNumber
      (coherent_of_run memory requests arguments _ _ evaluates ?_)
    rw [List.forall_mem_cons]
    refine ⟨⟨item, List.mem_cons_self, item.holds_self⟩, ?_⟩
    intro other member
    exact ⟨_, List.mem_cons_of_mem item List.mem_cons_self, Value.holds_of_mem member⟩
  · intro pair value places number count other otherValue otherPlaces otherNumber otherCount
      evaluates pairs others
    have parts_eq := Value.parts_of_fixedPointParts? pairs.parts
    have otherParts_eq := Value.parts_of_fixedPointParts? others.parts
    have coherent : Store.Coherent (pair.parts ++ other.parts) := by
      refine coherent_of_run memory requests arguments _ _ evaluates ?_
      rw [List.forall_mem_append]
      constructor
      · intro part member
        exact ⟨pair, List.mem_cons_self, Value.holds_of_mem member⟩
      · intro part member
        exact ⟨other, List.mem_cons_of_mem pair List.mem_cons_self, Value.holds_of_mem member⟩
    rw [parts_eq, otherParts_eq] at coherent
    refine Store.equals_of_pairs pairs others (coherent _ ?_ _ ?_) (coherent _ ?_ _ ?_)
    all_goals simp only [List.mem_append, List.mem_cons, true_or, or_true]

end Session

end PoolFees
