import PoolFees.Event

/-!
# Outcomes

Checks are outcomes in `Except`, and most operations are chains of checks. Such a chain is taken
apart by saying when each link has a given outcome.

The outcome of a fee also leaves a trace: one event when the fee is absent, and none when it is
present or refused. `Traced.noting` adds it, so that what is known about the outcome itself can be
used for the fee.
-/

namespace Except

universe u v

variable {ε : Type u} {α β : Type v}

theorem map_eq_ok_iff {change : α → β} {outcome : Except ε α} {result : β} :
    outcome.map change = .ok result ↔ ∃ before, outcome = .ok before ∧ change before = result := by
  cases outcome <;> simp [Except.map]

theorem map_eq_error_iff {change : α → β} {outcome : Except ε α} {fault : ε} :
    outcome.map change = .error fault ↔ outcome = .error fault := by
  cases outcome <;> simp [Except.map]

theorem bind_eq_ok_iff {outcome : Except ε α} {next : α → Except ε β} {result : β} :
    outcome >>= next = .ok result ↔ ∃ before, outcome = .ok before ∧ next before = .ok result := by
  cases outcome <;> simp [Bind.bind, Except.bind]

end Except

namespace PoolFees.Traced

/-- The outcome of a fee, with an event when it is absent. -/
def noting (event : Event) (outcome : Except Fault (Option Nat)) : Traced (Option Nat) :=
  match outcome with
  | .ok none => ⟨.ok none, [event]⟩
  | outcome => .silent outcome

@[simp]
theorem noting_result (event : Event) (outcome : Except Fault (Option Nat)) :
    (noting event outcome).result = outcome := by
  unfold noting
  split
  · rfl
  · rfl

end PoolFees.Traced
