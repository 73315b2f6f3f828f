import PoolFees.MulDiv.Step
import PoolFees.Operand

/-!
# Multiplying and dividing without overflow

`MulDiv.find` gives the product of two numbers of 64 bits divided by a third and rounded down. The
product may need 128 bits. Two routes lead to the result: the narrow route works at the width of the
factors and hands over to the wide route when the product does not fit, and the wide route works at
128 bits and has no result when the quotient does not fit 64 bits.

The route is chosen by comparing the factors with a pair of limits. Below the limits the product
fits 64 bits in all but one case, so the choice affects the cost and not the result.

What the routes do with words is given as a `MulDiv.Representation`, because there are words that
fit their widths and words the parts of which need not go together. `MulDiv.words` is the
representation by words that fit.
-/

namespace PoolFees.MulDiv

/-- The width of the numbers that are accepted and returned. -/
def amountWidth : Nat := 64

/-- The width that holds every product of two amounts. -/
def productWidth : Nat := 128

/-- The width of amounts as a width of words. -/
def amount : Width := ⟨amountWidth, by decide⟩

/-- The width of products as a width of words. -/
def doubled : Width := ⟨productWidth, by decide⟩

/-- The largest factors for which the narrow route is tried first. -/
structure Limits where
  left : Nat
  right : Nat
deriving DecidableEq, Repr, Inhabited

/-- Limits for two factors of similar size. -/
def balanced : Limits := ⟨Nat.pow 2 32, Nat.pow 2 32⟩

/-- Limits for a large amount and the small numerator of a rate. -/
def imbalanced : Limits := ⟨Nat.pow 2 48, Nat.pow 2 16⟩

/-- What the routes do with words. -/
structure Representation (Bound Operand : Type) where
  /-- Binds a value to the width of amounts. -/
  bind : Value → Except Fault Bound
  isAbove : Bound → Nat → Except Fault Bool
  /-- Moves a word to the width of products. -/
  widen : Bound → Except Fault Bound
  /-- What the second word is as an operand of the first one. -/
  operand : Bound → Bound → Except Fault Operand
  calculate : Word.Arithmetic → Bound → Operand → Except Fault (Option Bound)
  /-- Moves a word to the width of amounts, if it fits there. -/
  narrow : Bound → Except Fault (Option Bound)
  /-- The natural number in a word whose content was computed. -/
  number? : Bound → Option Nat

/-- The representation by words that fit their widths. -/
def words : Representation Word Nat where
  bind := Word.ofValueAt amount
  isAbove word limit := .ok (decide (limit < word.value))
  widen word := word.widenTo doubled
  operand := Word.operandOf
  calculate operation receiver operand := .ok (receiver.calculate? operation operand)
  narrow word := .ok (word.resize? amount)
  number? word := some word.value

section Routes

open Recorded

variable {Bound Operand : Type} (representation : Representation Bound Operand)

def widen (word : Bound) : Recorded Bound :=
  seen .widened (fun _ => ()) (representation.widen word)

/-- Combines two words on a route. Their widths are compared first. -/
def combine (route : Route) (operation : Word.Arithmetic) (receiver operand : Bound) :
    Recorded (Option Bound) := do
  let operand ← seen .paired (fun _ => ()) (representation.operand receiver operand)
  seen (.combined route operation) Option.isSome
    (representation.calculate operation receiver operand)

/-- Multiplies and divides at the width of products. The divisor is looked at only when there is a
product. -/
def wide (left right divisor : Bound) : Recorded (Option Bound) := do
  enter .wide
  let left ← widen representation left
  let right ← widen representation right
  match ← combine representation .wide .mul left right with
  | none => pure none
  | some product =>
    let divisor ← widen representation divisor
    match ← combine representation .wide .div product divisor with
    | none => pure none
    | some quotient => unseen (representation.narrow quotient)

/-- Multiplies and divides at the width of the left factor. -/
def narrow (left right divisor : Bound) : Recorded (Option Bound) := do
  enter .narrow
  match ← combine representation .narrow .mul left right with
  | none => wide representation left right divisor
  | some product => combine representation .narrow .div product divisor

/-- Whether a factor is above its limit. The right factor is looked at only when the left one is
not. -/
def isLarge (limits : Limits) (left right : Bound) : Except Fault Bool := do
  if ← representation.isAbove left limits.left then .ok true
  else representation.isAbove right limits.right

/-- Multiplies and divides by the route that the limits choose. -/
def route (limits : Limits) (left right divisor : Bound) : Recorded (Option Bound) := do
  if ← unseen (isLarge representation limits left right) then
    wide representation left right divisor
  else narrow representation left right divisor

/-- Multiplies and divides three values, which are bound to the width of amounts from left to
right. -/
def call (limits : Limits) (left right divisor : Value) : Recorded (Option Bound) := do
  let left ← unseen (representation.bind left)
  let right ← unseen (representation.bind right)
  let divisor ← unseen (representation.bind divisor)
  route representation limits left right divisor

/-- The number that is found of three values, with the steps on the way. -/
def find (limits : Limits) (left right divisor : Value) : Recorded (Option Nat) :=
  (call representation limits left right divisor).mapResult fun quotient =>
    quotient.bind representation.number?

end Routes

/-- The number that is found of three values of which none is loose. -/
def compute (limits : Limits) (left right divisor : Value) : Except Fault (Option Nat) :=
  (find words limits left right divisor).outcome

end PoolFees.MulDiv
