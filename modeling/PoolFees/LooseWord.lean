import PoolFees.MulDiv
import PoolFees.Value.Arithmetic
import PoolFees.Value.Display
import PoolFees.Value.Order

/-!
# Loose words

The two parts of a word can be assigned to without a check. Afterwards its number need not fit its
width, the width may be negative, and either part may be a value that is no number at all. Such a
word is loose.

The operations on loose words make the same checks in the same order as those of `PoolFees.Word`, on
the parts as they find them. A check that cannot be made on a part is refused. What is computed is
an integer or it is refused, but a word that is bound to another width keeps its content, so a loose
word can lead to further loose words.
-/

namespace PoolFees

namespace LooseWord

/-- Whether a number is above all that a width can hold. -/
def overflows (width : Width) (number : Int) : Bool :=
  0 ≤ number && !decide (Fits width.bits number.toNat)

/-- The width that a value gives. -/
def widthOf (store : Store) (value : Value) : Except Fault Width :=
  match value.integer? with
  | some bits => Width.ofInt store.memory bits
  | none => refuse (.noResult "<<" "int" value.fullTypeName)

/-- Whether a value is above all that a width can hold. -/
def exceeds (store : Store) (width : Width) (content : Value) : Except Fault Bool :=
  match content.integer? with
  | some number => .ok (overflows width number)
  | none => store.relates .above content (.whole (Word.largest width.compared))

/-- Binds a content to a width. Only its sign and its size are looked at. -/
def bindContent (store : Store) (width content : Value) : Except Fault LooseWord := do
  if ← store.relates .below content (.whole 0) then
    refuse (.negativeWord (← store.shown width) (← store.shown content))
  else if ← exceeds store (← widthOf store width) content then
    refuse (.wordTooLarge (← store.shown width) (← store.shown content))
  else .ok ⟨content, width⟩

/-- Binds a value to a width: the content of a word, or an integer. -/
def bind (store : Store) (width value : Value) : Except Fault LooseWord :=
  match store.word? value, value with
  | some word, _ => bindContent store width word.content
  | none, .whole number => bindContent store width (.whole number)
  | none, other => refuse (.notInteger other.typeName)

/-- The largest number that the width can hold. -/
def largest (store : Store) (word : LooseWord) : Except Fault Nat :=
  (widthOf store word.width).map Word.largest

/-- Everything but the number zero counts as nonzero. -/
def isNonzero (store : Store) (word : LooseWord) : Except Fault Bool :=
  (store.equals word.content (.whole 0)).map (!·)

/-- What a value is as an operand. A word has to have the same width, and everything else is bound
to it. -/
def operand (store : Store) (receiver : LooseWord) (value : Value) : Except Fault Value :=
  match store.word? value with
  | some operand => do
    if ← store.equals operand.width receiver.width then .ok operand.content
    else refuse (.widthMismatch (← store.shown operand.width) (← store.shown receiver.width))
  | none => (bind store receiver.width value).map content

/-- The natural number in a word whose content was computed. -/
def number? (word : LooseWord) : Option Nat := word.content.integer?.map Int.toNat

/-- Combines the content of a word with an operand. -/
def calculate (store : Store) (operation : Word.Arithmetic) (receiver : LooseWord)
    (operand : Value) : Except Fault (Option LooseWord) :=
  match operation with
  | .sub => do
    let result ← receiver.content.difference operand
    if ← store.relates .below result (.whole 0) then .ok none
    else (bind store receiver.width result).map some
  | .mul => do
    let result ← receiver.content.product operand
    if ← exceeds store (← widthOf store receiver.width) result then .ok none
    else (bind store receiver.width result).map some
  | .div => do
    if ← store.equals operand (.whole 0) then .ok none
    else
      let result ← receiver.content.quotient operand
      (bind store receiver.width (.whole result)).map some

/-- Combines a word with a value. -/
def combine (store : Store) (operation : Word.Arithmetic) (receiver : LooseWord) (value : Value) :
    Except Fault (Option LooseWord) := do
  let operand ← receiver.operand store value
  receiver.calculate store operation operand

/-- Moves a word to a width that is at least its own. -/
def widen (store : Store) (word : LooseWord) (width : Value) : Except Fault LooseWord := do
  if ← store.relates .below width word.width then
    refuse (.narrowerWidth (← store.shown word.width) (← store.shown width))
  else bind store width word.content

/-- Moves a word to any width; there is no result when what is in it is too large. -/
def narrow (store : Store) (word : LooseWord) (width : Value) :
    Except Fault (Option LooseWord) := do
  if ← exceeds store (← widthOf store width) word.content then .ok none
  else (bind store width word.content).map some

/-- The representation of words by their parts, which need not go together. -/
def representation (store : Store) : MulDiv.Representation LooseWord Value where
  bind := bind store (.whole MulDiv.amountWidth)
  isAbove word limit := store.relates .above word.content (.whole limit)
  widen word := word.widen store (.whole MulDiv.productWidth)
  operand receiver operand := receiver.operand store operand.toValue
  calculate := calculate store
  narrow word := word.narrow store (.whole MulDiv.amountWidth)
  number? := number?

end LooseWord

namespace Store

/-- Multiplies and divides three values by the route that the limits choose, with the steps on the
way. -/
def recordMulDiv (store : Store) (limits : MulDiv.Limits) (left right divisor : Value) :
    MulDiv.Recorded (Option Nat) :=
  if left.isLoose || right.isLoose || divisor.isLoose then
    MulDiv.find (LooseWord.representation store) limits left right divisor
  else MulDiv.find MulDiv.words limits left right divisor

/-- Multiplies and divides three values by the route that the limits choose. -/
def mulDiv (store : Store) (limits : MulDiv.Limits) (left right divisor : Value) :
    Except Fault (Option Nat) :=
  (store.recordMulDiv limits left right divisor).outcome

/-- Binds a value to a width. -/
def bindWord (store : Store) (width value : Value) : Except Fault Value :=
  match width, value.isLoose with
  | .whole bits, false => (Word.ofValue store.memory bits value).map .ofWord
  | _, _ => (LooseWord.bind store width value).map LooseWord.toValue

/-- Pairs two values as a fixed-point number. -/
def pairFixedPoint (store : Store) (magnitude places : Value) : Except Fault Value :=
  if magnitude.isLoose || places.isLoose then do
    let _ ← LooseWord.bind store (.whole FixedPoint.magnitudeWidth.bits) magnitude
    let _ ← LooseWord.bind store (.whole FixedPoint.placesWidth.bits) places
    .ok (.looseFixedPoint magnitude places [])
  else (FixedPoint.ofValues magnitude places).map (.fixedPoint · [])

end Store

end PoolFees
