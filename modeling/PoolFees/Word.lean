import PoolFees.Fault

/-!
# Words

A word is a natural number bound to a width in bits: its value is below the power of two that the
width gives. Arithmetic on words never wraps. `Word.calculate?` has no result where the exact result
is negative, needs more bits than the width has, or is not defined.

Widths come from outside as integers. `Width.ofInt` refuses a negative width, a width that is too
large for numbers to have, and a width for which there is no memory. How much memory there is
depends on the machine. Only reading a width asks for it, so words range over all widths that
numbers have.
-/

namespace PoolFees

/-- The count of numbers that a width in bits can hold. -/
def capacity (bits : Nat) : Nat := Nat.pow 2 bits

/-- A natural number fits a width when that many bits hold it. -/
def Fits (bits value : Nat) : Prop := value < capacity bits

theorem fits_iff_log2_lt {bits value : Nat} : Fits bits value ↔ value = 0 ∨ value.log2 < bits := by
  by_cases isZero : value = 0
  · subst isZero
    exact ⟨fun _ => .inl rfl, fun _ => Nat.two_pow_pos bits⟩
  · simp only [isZero, false_or, Nat.log2_lt isZero]
    exact Iff.rfl

/-- The bits are counted, so that the power of two is not computed for a large width. -/
instance (bits value : Nat) : Decidable (Fits bits value) :=
  decidable_of_iff' _ fits_iff_log2_lt

namespace Width

/-- A number is held in limbs of this many bits. -/
def limbBits : Nat := 30

/-- The largest number of limbs that a number can have. -/
def maxLimbs : Nat := 2305843009213693945

/-- The largest width of which the largest number is computed to compare other numbers with it. -/
def maxCompared : Nat := Nat.pow 2 30

/-- The limbs that are set aside for the capacity of a width. -/
def limbs (bits : Nat) : Nat :=
  1 + bits / limbBits + if bits % limbBits = 0 then 0 else 1

theorem limbs_mono {smaller bits : Nat} (le : smaller ≤ bits) : limbs smaller ≤ limbs bits := by
  unfold limbs limbBits
  split <;> split <;> omega

end Width

/-- What a machine has memory for. -/
structure Memory where
  /-- The largest width for which numbers are held. -/
  widest : Nat
  /-- There is memory for the product of two amounts. -/
  products : 128 ≤ widest

/-- The memory that is assumed where none is given. -/
def Memory.usual : Memory := ⟨Nat.pow 2 36, by decide⟩

/-- A width in bits that numbers can have. -/
structure Width where
  bits : Nat
  counted : Width.limbs bits ≤ Width.maxLimbs
deriving DecidableEq

namespace Memory

/-- There is memory for words of a width. -/
def Holds (memory : Memory) (width : Width) : Prop := width.bits ≤ memory.widest

instance (memory : Memory) (width : Width) : Decidable (memory.Holds width) :=
  inferInstanceAs (Decidable (width.bits ≤ memory.widest))

theorem holds_of_le (memory : Memory) {width : Width} (le : width.bits ≤ 128) :
    memory.Holds width :=
  Nat.le_trans le memory.products

end Memory

namespace Width

/-- The width that an integer is, if numbers can have it. -/
def ofInt? (bits : Int) : Option Width :=
  if counted : 0 ≤ bits ∧ limbs bits.toNat ≤ maxLimbs then some ⟨bits.toNat, counted.2⟩ else none

/-- Reads a width. -/
def ofInt (memory : Memory) (bits : Int) : Except Fault Width :=
  if bits < 0 then refuse .negativeWidth
  else if counted : limbs bits.toNat ≤ maxLimbs then
    if bits.toNat ≤ memory.widest then .ok ⟨bits.toNat, counted⟩ else refuse .outOfMemory
  else refuse .widthTooLarge

/-- A width that was read is the integer, and there is memory for it. -/
theorem ofInt_eq_ok {memory : Memory} {bits : Int} {width : Width}
    (read : ofInt memory bits = .ok width) : bits = width.bits ∧ memory.Holds width := by
  unfold ofInt at read
  split at read
  · simp [refuse] at read
  · split at read
    · split at read
      · rename_i held
        injection read with width_eq
        subst width_eq
        exact ⟨by simp only; omega, held⟩
      · simp [refuse] at read
    · simp [refuse] at read

/-- The width itself, or the largest one that is compared with. Real numbers never reach beyond
that. -/
def compared (width : Width) : Width :=
  ⟨min width.bits maxCompared, Nat.le_trans (limbs_mono (Nat.min_le_left _ _)) width.counted⟩

/-- A width for which there is memory reads back as itself. -/
theorem ofInt_bits {memory : Memory} {width : Width} (held : memory.Holds width) :
    ofInt memory width.bits = .ok width := by
  have natural : ¬(width.bits : Int) < 0 := by omega
  have enough : width.bits ≤ memory.widest := held
  simp [ofInt, natural, width.counted, enough]

@[simp]
theorem ofInt?_bits (width : Width) : ofInt? width.bits = some width := by
  have natural : 0 ≤ (width.bits : Int) := Int.natCast_nonneg _
  simp [ofInt?, natural, width.counted]

end Width

/-- A natural number bound to a width in bits. -/
structure Word where
  width : Width
  value : Nat
  fits : Fits width.bits value
deriving DecidableEq

namespace Word

/-- The largest value that a width can hold. -/
def largest (width : Width) : Nat := capacity width.bits - 1

/-- The word of the given width and value, if the value fits. -/
def ofNat? (width : Width) (value : Nat) : Option Word :=
  if fits : Fits width.bits value then some ⟨width, value, fits⟩ else none

/-- The word that a number and a width are, if the number fits. -/
def ofParts? (bits number : Int) : Option Word :=
  if number < 0 then none else (Width.ofInt? bits).bind (ofNat? · number.toNat)

/-- Binds an integer to a width. -/
def ofIntAt (width : Width) (number : Int) : Except Fault Word :=
  if number < 0 then refuse (.negativeWord (.whole width.bits) (.whole number))
  else if fits : Fits width.bits number.toNat then .ok ⟨width, number.toNat, fits⟩
  else refuse (.wordTooLarge (.whole width.bits) (.whole number))

/-- Binds an integer to a width that has to be read. The sign of the number is checked before. -/
def ofInt (memory : Memory) (bits number : Int) : Except Fault Word :=
  if number < 0 then refuse (.negativeWord (.whole bits) (.whole number))
  else do
    let width ← Width.ofInt memory bits
    ofIntAt width number

section Binding

variable {memory : Memory} {width : Width} {bits number : Int} {word : Word}

/-- What is bound to a width is the integer itself, at that width. -/
theorem ofIntAt_eq_ok (bound : ofIntAt width number = .ok word) :
    word.width = width ∧ number = word.value := by
  unfold ofIntAt at bound
  split at bound
  · simp [refuse] at bound
  · split at bound
    · injection bound with word_eq
      subst word_eq
      exact ⟨rfl, by simp only; omega⟩
    · simp [refuse] at bound

theorem ofInt_eq_ok (bound : ofInt memory bits number = .ok word) :
    bits = word.width.bits ∧ number = word.value ∧ memory.Holds word.width := by
  unfold ofInt at bound
  split at bound
  · simp [refuse] at bound
  · cases read : Width.ofInt memory bits with
    | error fault => simp [read, bind, Except.bind] at bound
    | ok width =>
        simp only [read, bind, Except.bind] at bound
        rcases Width.ofInt_eq_ok read with ⟨rfl, held⟩
        rcases ofIntAt_eq_ok bound with ⟨rfl, rfl⟩
        exact ⟨rfl, rfl, held⟩

/-- A width for which there is memory need not be read. -/
theorem ofInt_of_holds (held : memory.Holds width) (number : Int) :
    ofInt memory width.bits number = ofIntAt width number := by
  by_cases negative : number < 0
  · simp only [ofInt, ofIntAt, negative, if_true]
  · simp only [ofInt, negative, if_false, Width.ofInt_bits held, bind, Except.bind]

/-- A word is what its value is when it is bound to its width. -/
@[simp]
theorem ofIntAt_value (word : Word) : ofIntAt word.width word.value = .ok word := by
  have natural : ¬(word.value : Int) < 0 := by omega
  simp [ofIntAt, natural, word.fits]

theorem fits_of_ofIntAt_eq_ok (bound : ofIntAt width number = .ok word) :
    0 ≤ number ∧ Fits width.bits number.toNat := by
  rcases ofIntAt_eq_ok bound with ⟨rfl, rfl⟩
  exact ⟨Int.natCast_nonneg _, word.fits⟩

theorem fits_of_ofInt_eq_ok {bits : Nat} (bound : ofInt memory bits number = .ok word) :
    0 ≤ number ∧ Fits bits number.toNat := by
  rcases ofInt_eq_ok bound with ⟨bits_eq, rfl, _⟩
  obtain rfl : bits = word.width.bits := by omega
  exact ⟨Int.natCast_nonneg _, word.fits⟩

@[simp]
theorem ofParts?_word (word : Word) : ofParts? word.width.bits word.value = some word := by
  have natural : ¬(word.value : Int) < 0 := by omega
  simp [ofParts?, natural, ofNat?, word.fits]

/-- Parts that are a word are its width and its value. -/
theorem ofParts?_eq_some (isWord : ofParts? bits number = some word) :
    bits = word.width.bits ∧ number = word.value := by
  unfold ofParts? at isWord
  split at isWord
  · cases isWord
  · rcases Option.bind_eq_some_iff.1 isWord with ⟨width, width_eq, bound⟩
    unfold Width.ofInt? at width_eq
    unfold ofNat? at bound
    split at width_eq
    · cases width_eq
      split at bound
      · cases bound
        exact ⟨by simp only; omega, by simp only; omega⟩
      · cases bound
    · cases width_eq

end Binding

/-- The exact operations on the values of two words of one width. -/
inductive Arithmetic where
  | sub
  | mul
  | div
deriving DecidableEq, Repr, Inhabited

namespace Arithmetic

/-- The exact result of an operation, if it is a natural number; a quotient is rounded down. -/
def result? : Arithmetic → Nat → Nat → Option Nat
  | sub, left, right => if right ≤ left then some (left - right) else none
  | mul, left, right => some (left * right)
  | div, left, right => if right = 0 then none else some (left / right)

end Arithmetic

/-- The result of an operation as a word of the same width, if there is one and it fits. -/
def calculate? (operation : Arithmetic) (word : Word) (operand : Nat) : Option Word :=
  (operation.result? word.value operand).bind (ofNat? word.width)

/-- The value of a word as an operand of another word, which has to have the same width. -/
def operandOf (receiver operand : Word) : Except Fault Nat :=
  if operand.width = receiver.width then .ok operand.value
  else refuse (.widthMismatch (.whole operand.width.bits) (.whole receiver.width.bits))

/-- The same value at another width, if it fits there. -/
def resize? (word : Word) (width : Width) : Option Word := ofNat? width word.value

/-- Moves a word to a width that is at least its own. -/
def widenTo (word : Word) (width : Width) : Except Fault Word :=
  if width.bits < word.width.bits then
    refuse (.narrowerWidth (.whole word.width.bits) (.whole width.bits))
  else ofIntAt width word.value

/-- Moves a word to a width that has to be read and is at least its own. -/
def widen (memory : Memory) (word : Word) (bits : Int) : Except Fault Word :=
  if bits < word.width.bits then refuse (.narrowerWidth (.whole word.width.bits) (.whole bits))
  else ofInt memory bits word.value

/-- Moves a word to any width; there is no result when the value does not fit. -/
def narrow (memory : Memory) (word : Word) (bits : Int) : Except Fault (Option Word) :=
  (Width.ofInt memory bits).map word.resize?

/-- A width for which there is memory need not be read. -/
theorem widen_of_holds {memory : Memory} {width : Width} (held : memory.Holds width) (word : Word) :
    word.widen memory width.bits = word.widenTo width := by
  simp only [widen, widenTo, Int.ofNat_lt, ofInt_of_holds held]

theorem narrow_of_holds {memory : Memory} {width : Width} (held : memory.Holds width)
    (word : Word) : word.narrow memory width.bits = .ok (word.resize? width) := by
  rw [narrow, Width.ofInt_bits held]
  rfl

end Word

end PoolFees
