import PoolFees.Word

/-!
# Steps on the way to a quotient

The result of multiplying and dividing does not show by which route it was found and which checks
were made on the way. So the calculation keeps a record: `MulDiv.Recorded` is an outcome with the
steps that led to it, which are the routes that are entered, the words that are widened, the widths
that are compared and the numbers that are combined, each with what comes of it.

A step says nothing about how words are represented, so records of the same calculation on different
representations of words can be compared.
-/

namespace PoolFees.MulDiv

/-- The two routes to a quotient. -/
inductive Route where
  | narrow
  | wide
deriving DecidableEq, Repr

/-- What is done on the way to a quotient, with what comes of it. -/
inductive Step where
  | entered (route : Route)
  /-- A word is moved to the width of products. -/
  | widened (outcome : Except Fault Unit)
  /-- The width of an operand is compared with that of the word it is combined with. -/
  | paired (outcome : Except Fault Unit)
  /-- A word is combined with its operand on a route, and there is a result or not. -/
  | combined (route : Route) (operation : Word.Arithmetic) (outcome : Except Fault Bool)

/-- An outcome together with the steps that led to it. -/
structure Recorded (α : Type) where
  steps : List Step
  outcome : Except Fault α

namespace Recorded

variable {α β γ : Type}

/-- An outcome that takes no step. -/
def unseen (outcome : Except Fault α) : Recorded α := ⟨[], outcome⟩

/-- An outcome that takes one step. -/
def seen (step : Except Fault β → Step) (shown : α → β) (outcome : Except Fault α) : Recorded α :=
  ⟨[step (outcome.map shown)], outcome⟩

def enter (route : Route) : Recorded Unit := ⟨[.entered route], .ok ()⟩

/-- The same outcome behind further steps. -/
def after (steps : List Step) (recorded : Recorded α) : Recorded α :=
  ⟨steps ++ recorded.steps, recorded.outcome⟩

def andThen (recorded : Recorded α) (next : α → Recorded β) : Recorded β :=
  match recorded.outcome with
  | .ok result => (next result).after recorded.steps
  -- What would follow is not done, so it takes no steps.
  | .error fault => ⟨recorded.steps, .error fault⟩

instance : Monad Recorded where
  pure result := unseen (.ok result)
  bind := andThen

/-- The same steps with another form of the result. -/
def mapResult (change : α → β) (recorded : Recorded α) : Recorded β :=
  ⟨recorded.steps, recorded.outcome.map change⟩

theorem bind_of_ok {recorded : Recorded α} {result : α} (next : α → Recorded β)
    (ends : recorded.outcome = .ok result) :
    recorded >>= next = (next result).after recorded.steps := by
  change recorded.andThen next = _
  simp only [andThen, ends]

theorem bind_of_error {recorded : Recorded α} {fault : Fault} (next : α → Recorded β)
    (ends : recorded.outcome = .error fault) :
    recorded >>= next = ⟨recorded.steps, .error fault⟩ := by
  change recorded.andThen next = _
  simp only [andThen, ends]

@[simp]
theorem ok_bind (steps : List Step) (result : α) (next : α → Recorded β) :
    (⟨steps, .ok result⟩ : Recorded α) >>= next = (next result).after steps := rfl

theorem outcome_bind (recorded : Recorded α) (next : α → Recorded β) :
    (recorded >>= next).outcome = recorded.outcome >>= fun result => (next result).outcome := by
  cases ends : recorded.outcome with
  | error fault =>
      rw [bind_of_error next ends]
      rfl
  | ok result =>
      rw [bind_of_ok next ends]
      rfl

/-- There is a result when there is one of what is done first and of what follows it. -/
theorem outcome_bind_eq_ok_iff {recorded : Recorded α} {next : α → Recorded β} {result : β} :
    (recorded >>= next).outcome = .ok result ↔
      ∃ before, recorded.outcome = .ok before ∧ (next before).outcome = .ok result := by
  rw [outcome_bind]
  cases recorded.outcome <;> simp [Bind.bind, Except.bind]

theorem unseen_bind (result : α) (next : α → Recorded β) :
    unseen (.ok result) >>= next = next result := rfl

/-- What follows is only asked for the result that there is. -/
theorem bind_congr_of_outcome {recorded : Recorded α} {next other : α → Recorded β}
    (same : ∀ result, recorded.outcome = .ok result → next result = other result) :
    recorded >>= next = recorded >>= other := by
  cases ends : recorded.outcome with
  | error fault => rw [bind_of_error next ends, bind_of_error other ends]
  | ok result => rw [bind_of_ok next ends, bind_of_ok other ends, same result ends]

theorem bind_mapResult (change : α → β) (recorded : Recorded α) (next : β → Recorded γ) :
    recorded.mapResult change >>= next = recorded >>= fun result => next (change result) := by
  cases ends : recorded.outcome with
  | error fault =>
      have mapped : (recorded.mapResult change).outcome = .error fault :=
        congrArg (Except.map change) ends
      rw [bind_of_error _ ends, bind_of_error _ mapped]
      rfl
  | ok result =>
      have mapped : (recorded.mapResult change).outcome = .ok (change result) :=
        congrArg (Except.map change) ends
      rw [bind_of_ok _ ends, bind_of_ok _ mapped]
      rfl

theorem mapResult_bind (change : β → γ) (recorded : Recorded α) (next : α → Recorded β) :
    (recorded >>= next).mapResult change =
      recorded >>= fun result => (next result).mapResult change := by
  cases ends : recorded.outcome with
  | error fault =>
      rw [bind_of_error _ ends, bind_of_error _ ends]
      rfl
  | ok result =>
      rw [bind_of_ok _ ends, bind_of_ok _ ends]
      rfl

end Recorded

end PoolFees.MulDiv
