import PoolFees.Numeral

/-!
# Numbers in powers of ten

`Scientific` is a natural number times a power of ten. It is what a numeral with a point or an
exponent says before it is rounded, and what remains of a rounded number when its shortest digits
have been found. The same number has several forms; none of them is preferred here.
-/

namespace PoolFees

/-- The number `digits · 10 ^ exponent`. -/
structure Scientific where
  digits : Nat
  exponent : Int
deriving DecidableEq, Repr, Inhabited

namespace Scientific

/-- The number as a quotient of two natural numbers. -/
def ratio (number : Scientific) : Nat × Nat :=
  if 0 ≤ number.exponent then (number.digits * Nat.pow 10 number.exponent.toNat, 1)
  else (number.digits, Nat.pow 10 (-number.exponent).toNat)

/-- The power of ten that follows the first digit: the number is below it, and at least a tenth of
it unless the number is zero. -/
def pointPosition (number : Scientific) : Int :=
  (Numeral.digits number.digits).length + number.exponent

/-- Splits the digits of a text off its front. -/
def spanDigits (text : List Char) : List Char × List Char :=
  (text.takeWhile Char.isDigit, text.dropWhile Char.isDigit)

/-- Digits end where another character follows. -/
theorem spanDigits_append {digits rest : List Char}
    (areDigits : ∀ character ∈ digits, character.isDigit = true)
    (ends : ∀ character ∈ rest.head?, character.isDigit = false) :
    spanDigits (digits ++ rest) = (digits, rest) := by
  rw [spanDigits, List.takeWhile_append_of_pos areDigits, List.dropWhile_append_of_pos areDigits]
  cases rest with
  | nil => rw [List.takeWhile_nil, List.dropWhile_nil, List.append_nil]
  | cons first rest =>
      have notDigit : ¬first.isDigit = true := by
        rw [Bool.not_eq_true]
        exact ends first rfl
      rw [List.takeWhile_cons_of_neg notDigit, List.dropWhile_cons_of_neg notDigit,
        List.append_nil]

theorem spanDigits_eq_self {digits : List Char}
    (areDigits : ∀ character ∈ digits, character.isDigit = true) :
    spanDigits digits = (digits, []) := by
  have spans := @spanDigits_append digits [] areDigits nofun
  rwa [List.append_nil] at spans

/-- Reads the digits of an exponent, of which there is at least one. -/
def readExponentDigits? (negative : Bool) (text : List Char) : Option Int :=
  if text.all Char.isDigit && !text.isEmpty then
    let exponent := Nat.ofDigitChars 10 text 0
    some (if negative then -exponent else exponent)
  else none

/-- Reads the exponent part of a numeral; a text without one has the exponent zero. -/
def readExponent? : List Char → Option Int
  | [] => some 0
  | mark :: body =>
    if mark == 'e' || mark == 'E' then
      match body with
      | '-' :: digits => readExponentDigits? true digits
      | '+' :: digits => readExponentDigits? false digits
      | digits => readExponentDigits? false digits
    else none

/-- Reads a numeral without a sign: digits with an optional point and an optional exponent. A digit
must stand on at least one side of the point. -/
def read? (text : List Char) : Option Scientific := do
  let (whole, afterWhole) := spanDigits text
  let (fraction, afterFraction) :=
    match afterWhole with
    | '.' :: body => spanDigits body
    | body => ([], body)
  if whole.isEmpty && fraction.isEmpty then none
  else
    let exponent ← readExponent? afterFraction
    some ⟨Nat.ofDigitChars 10 (whole ++ fraction) 0, exponent - fraction.length⟩

/-- The text of a number. Every digit is written, also zeros at the end. Numbers below a millionth,
and those that end in zeros which are not among their digits, are written with one digit before the
point and an exponent. -/
def write (number : Scientific) : String :=
  let digits := Numeral.digits number.digits
  let position := number.pointPosition
  if number.exponent ≤ 0 && -6 < position then
    if position ≤ 0 then "0." ++ String.ofList (List.replicate (-position).toNat '0' ++ digits)
    else if digits.length ≤ position.toNat then String.ofList digits
    else String.ofList (digits.take position.toNat ++ '.' :: digits.drop position.toNat)
  else
    let fraction := if digits.length = 1 then [] else '.' :: digits.drop 1
    let exponent := position - 1
    String.ofList (digits.take 1 ++ fraction) ++ "E" ++
      (if exponent < 0 then "" else "+") ++ Numeral.write exponent

/-- The text of a number with its sign. -/
def writeSigned (number : Scientific) (negative : Bool) : String :=
  (if negative then "-" else "") ++ number.write

/-- Reads a numeral with an optional sign. -/
def readSigned? : List Char → Option (Bool × Scientific)
  | '-' :: body => (read? body).map fun number => (true, number)
  | '+' :: body => (read? body).map fun number => (false, number)
  | body => (read? body).map fun number => (false, number)

end Scientific

end PoolFees
