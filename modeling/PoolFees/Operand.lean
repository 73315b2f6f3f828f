import PoolFees.Value

/-!
# Values as operands

Operations on words take an operand of any type. A word has to have the width of the word that it
is combined with; everything else is first bound to that width, with the faults that this has. So an
operand that does not fit is refused, and only a result that does not fit is absent.
-/

namespace PoolFees

namespace Word

/-- Binds a value to a width. A word counts as its number, whatever its own width. -/
def ofValueAt (width : Width) (value : Value) : Except Fault Word := do
  let number ← value.integral?
  ofIntAt width number.value

/-- Binds a value to a width that has to be read. -/
def ofValue (memory : Memory) (bits : Int) (value : Value) : Except Fault Word := do
  let number ← value.integral?
  ofInt memory bits number.value

/-- The number that a value is as an operand of a word. -/
def operand (receiver : Word) : Value → Except Fault Nat
  | .word bound _ => receiver.operandOf bound
  | value => (ofValueAt receiver.width value).map Word.value

/-- Combines a word with a value. -/
def combine (operation : Arithmetic) (receiver : Word) (value : Value) :
    Except Fault (Option Word) :=
  (receiver.operand value).map (receiver.calculate? operation)

/-- A width for which there is memory need not be read. -/
theorem ofValue_of_holds {memory : Memory} {width : Width} (held : memory.Holds width)
    (value : Value) : ofValue memory width.bits value = ofValueAt width value := by
  unfold ofValue ofValueAt
  congr 1
  funext number
  exact ofInt_of_holds held number.value

end Word

namespace FixedPoint

/-- The width of scaled integers. -/
def magnitudeWidth : Width := ⟨128, by decide⟩

/-- The width of counts of decimal places. -/
def placesWidth : Width := ⟨32, by decide⟩

/-- Pairs two values as a fixed-point number. The scaled integer is checked before the places. -/
def ofValues (magnitude places : Value) : Except Fault FixedPoint := do
  let magnitude ← magnitude.integral?
  let magnitudeFits ← magnitude.checkFits magnitudeWidth
  let places ← places.integral?
  let placesFits ← places.checkFits placesWidth
  .ok ⟨magnitude, places, magnitudeFits.down, placesFits.down⟩

end FixedPoint

end PoolFees
