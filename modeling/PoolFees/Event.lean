import PoolFees.Value

/-!
# Events

A fee that is absent leaves a trace: one event says which fee it was and which numbers led to it.
Events are part of the answer of a calculation, in the order in which they happened, also when the
calculation is refused in the end. They carry the arguments as they were passed.
-/

namespace PoolFees

inductive Level where
  | debug
  | warning
deriving DecidableEq, Repr, Inhabited

def Level.name : Level → String
  | debug => "debug"
  | warning => "warning"

inductive Event where
  | rateFeeAbsent (fee : RateFee) (amount : Value) (rate : Rate)
  /-- The pool has no coins, a single one, or more than the normalized fee is defined for. -/
  | invalidPoolSize (coins : Value)
  | adjustedNumeratorAbsent (coins : Value) (numerator : UInt64)
  | normalizedFeeAbsent (coins amount : Value) (adjusted : Nat) (denominator : UInt64)
  | requiredFeeAbsent (operation : Value)
deriving Inhabited

namespace Event

def name : Event → String
  | rateFeeAbsent fee _ _ => fee.name ++ "_unrepresentable"
  | invalidPoolSize _ => "normalized_trade_fee_invalid_pool_size"
  | adjustedNumeratorAbsent .. | normalizedFeeAbsent .. => "normalized_trade_fee_unrepresentable"
  | requiredFeeAbsent _ => "fee_unrepresentable"

def level : Event → Level
  | requiredFeeAbsent _ => .warning
  | _ => .debug

/-- What an event tells beside its name and level. -/
def fields : Event → List (String × Value)
  | rateFeeAbsent fee amount rate =>
    [(fee.amountName, amount), ("numerator", .whole rate.numerator.toNat),
      ("denominator", .whole rate.denominator.toNat)]
  | invalidPoolSize coins => [("n_coins", coins)]
  | adjustedNumeratorAbsent coins numerator =>
    [("n_coins", coins), ("numerator", .whole numerator.toNat)]
  | normalizedFeeAbsent coins amount adjusted denominator =>
    [("n_coins", coins), ("amount", amount), ("adjusted_numerator", .whole adjusted),
      ("denominator", .whole denominator.toNat)]
  | requiredFeeAbsent operation => [("operation", operation)]

end Event

/-- The outcome of a calculation together with the events on the way to it. -/
structure Traced (α : Type) where
  result : Except Fault α
  events : List Event

namespace Traced

variable {α β : Type}

/-- An outcome without events. -/
def silent (result : Except Fault α) : Traced α := ⟨result, []⟩

def map (change : α → β) (traced : Traced α) : Traced β :=
  ⟨traced.result.map change, traced.events⟩

end Traced

end PoolFees
