import PoolFees.Event
import PoolFees.Form
import PoolFees.Replacement

/-!
# Effects

The effect of an operation is its outcome, the store after it and the value that was moved into the
store, if there is one. An answer shows the result and the events of an effect, so an effect that
holds a value which cannot be shown is refused when it is answered: an integer beyond the digit
limit, a form that lacks a field, or values nested without end. What it did to the store stays done.
-/

namespace PoolFees

/-- Why an answer cannot show a value that is followed down to a depth, if it cannot. -/
def Store.obstacle? (store : Store) : Nat → Value → Option Fault
  | 0, _ => some (.endless .answer)
  | depth + 1, value =>
    match value with
    | .whole number => if Numeral.Writable number then none else some .numeralTooLong
    | .list items _ => items.findSome? (store.obstacle? depth)
    | .form handle =>
      Field.all.findSome? fun field =>
        match store.fieldValue handle field with
        | .ok entry => store.obstacle? depth entry
        | .error fault => some fault
    | _ =>
      match store.word? value, value.fixedPointParts?, store.record? value with
      | some word, _, _ => store.obstacle? depth word.content <|> store.obstacle? depth word.width
      | none, some (magnitude, places), _ =>
        store.obstacle? depth magnitude <|> store.obstacle? depth places
      | none, none, some entries => entries.findSome? fun (_, entry) => store.obstacle? depth entry
      | none, none, none => none

/-- The outcome of an operation, the store after it and the value that was moved there. -/
structure Effect where
  outcome : Traced Value
  store : Store
  moved : Option Replacement

namespace Effect

/-- An outcome that leaves the store as it is. -/
def pure (store : Store) (outcome : Traced Value) : Effect := ⟨outcome, store, none⟩

/-- A result or a refusal that leaves the store as it is. -/
def answer (store : Store) (result : Except Fault Value) : Effect := pure store (.silent result)

def refuse (store : Store) (fault : Fault) : Effect := answer store (PoolFees.refuse fault)

/-- A result that comes with a new store. -/
def update (store : Store) (result : Value) : Effect := ⟨.silent (.ok result), store, none⟩

/-- A change of the store in which a value was moved there. It has no result. -/
def move (store : Store) (replacement : Replacement) : Effect :=
  ⟨.silent (.ok .absent), store.replace replacement, some replacement⟩

/-- The values that an answer shows. -/
def shown (effect : Effect) : List Value :=
  effect.outcome.result.toOption.toList ++
    effect.outcome.events.flatMap fun event => event.fields.map Prod.snd

/-- The effect as it is answered: one that cannot be shown is refused, without its events. -/
def answered (effect : Effect) : Effect :=
  match effect.shown.findSome? (effect.store.obstacle? maxNesting) with
  | some fault => { effect with outcome := .silent (PoolFees.refuse fault) }
  | none => effect

/-- The effect with its result made at an origin. -/
def madeAt (origin : Origin) (effect : Effect) : Effect :=
  { effect with outcome := effect.outcome.map (Value.madeAt origin) }

end Effect

end PoolFees
