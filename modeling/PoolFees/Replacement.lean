import PoolFees.Store

/-!
# Replacing values

A word or a record is shared by all that hold it: the registers of a session, lists and records,
fixed-point numbers, the answers of calculators and the entries of forms. When it is moved into the
store, it is replaced by its handle in all of these places at once. Its origin tells which values
are meant; a value without an origin is never replaced.
-/

namespace PoolFees

/-- The handle that takes the place of the word or the record with an origin. -/
structure Replacement where
  origin : Origin
  handle : Value

namespace Replacement

/-- Whether the value that was made at an origin is replaced. -/
def concerns (replacement : Replacement) (origin : Origin) : Bool :=
  origin.identity?.isSome && origin == replacement.origin

/-- Whether a part of a fixed-point number is replaced. -/
def concernsPart (replacement : Replacement) : Integral → Bool
  | .whole _ => false
  | .word _ origin => replacement.concerns origin

/-- A part of a fixed-point number after a replacement. -/
def applyToPart (replacement : Replacement) (part : Integral) : Value :=
  if replacement.concernsPart part then replacement.handle else .ofIntegral part

mutual

/-- A value after a replacement, which is made in all that it holds. -/
def apply (replacement : Replacement) : Value → Value
  | .word bound origin =>
    if replacement.concerns origin then replacement.handle else .word bound origin
  | .looseWord content width origin =>
    if replacement.concerns origin then replacement.handle
    else .looseWord (replacement.apply content) (replacement.apply width) origin
  | .record entries origin =>
    if replacement.concerns origin then replacement.handle
    else .record (replacement.applyToEntries entries) origin
  | .list items origin => .list (replacement.applyToItems items) origin
  | .fixedPoint number origin =>
    if replacement.concernsPart number.magnitude || replacement.concernsPart number.places then
      .looseFixedPoint (replacement.applyToPart number.magnitude)
        (replacement.applyToPart number.places) origin
    else .fixedPoint number origin
  | .looseFixedPoint magnitude places origin =>
    .looseFixedPoint (replacement.apply magnitude) (replacement.apply places) origin
  | .calculator answers origin =>
    .calculator (fun operation => replacement.apply (answers operation)) origin
  | other => other

def applyToItems (replacement : Replacement) : List Value → List Value
  | [] => []
  | item :: items => replacement.apply item :: replacement.applyToItems items

def applyToEntries (replacement : Replacement) : List (String × Value) → List (String × Value)
  | [] => []
  | (key, value) :: entries => (key, replacement.apply value) :: replacement.applyToEntries entries

end

end Replacement

namespace Store

/-- The store after a replacement. -/
def replace (store : Store) (replacement : Replacement) : Store := store.map replacement.apply

end Store

end PoolFees
