import PoolFees.Numeral
import PoolFees.Unicode.Blank
import PoolFees.Unicode.DecimalDigit

/-!
# Reading integers from text

An integer literal is an optional sign followed by decimal digits of any script, and blanks on both
sides of it are ignored. A single underscore may stand between two digits. Leading zeros are
allowed, but they count towards the limit on the number of digits, while underscores do not.
-/

namespace PoolFees.Numeral

/-- The text without the blanks at both of its ends. -/
def trim (text : List Char) : List Char :=
  ((text.dropWhile Unicode.isBlank).reverse.dropWhile Unicode.isBlank).reverse

/-- A decimal digit of any script as the digit of ASCII, and every other character as it is. -/
def plainDigit (character : Char) : Char :=
  match Unicode.decimalDigit? character with
  | some digit => Nat.digitChar digit
  | none => character

/-- The digits of a literal without its sign, the underscores between them removed. -/
def digitValues? : List Char → Option (List Nat)
  | [] => none
  | [last] => (Unicode.decimalDigit? last).map fun digit => [digit]
  | first :: '_' :: rest => do
    let digit ← Unicode.decimalDigit? first
    let others ← digitValues? rest
    some (digit :: others)
  | first :: rest => do
    let digit ← Unicode.decimalDigit? first
    let others ← digitValues? rest
    some (digit :: others)

/-- The number with the given base-ten digits, the most significant first. -/
def ofDigits (digitValues : List Nat) : Nat :=
  digitValues.foldl (fun number digit => 10 * number + digit) 0

/-- The value of a literal without its sign, unless it has too many digits. -/
def magnitude? (text : List Char) : Option Nat := do
  let digitValues ← digitValues? text
  if digitValues.length ≤ maxDigits then some (ofDigits digitValues) else none

/-- The value of a literal that starts at its sign. -/
def signed? : List Char → Option Int
  | '+' :: body => (magnitude? body).map fun number => (number : Int)
  | '-' :: body => (magnitude? body).map fun number => -(number : Int)
  | body => (magnitude? body).map fun number => (number : Int)

/-- A literal without its sign. -/
def unsigned : List Char → List Char
  | '+' :: body | '-' :: body => body
  | body => body

/-- Whether a character may stand within a literal after its sign. -/
def continuesLiteral (character : Char) : Bool :=
  character = '_' || (Unicode.decimalDigit? character).isSome

/-- The number of digits of the literal that a text starts with, also of one that has too many to be
read. What follows it is not looked at. -/
def digitCount? (text : String) : Option Nat :=
  (digitValues? ((unsigned (trim text.toList)).takeWhile continuesLiteral)).map List.length

/-- The integer that a text denotes, or `none` when the text is not an integer literal. -/
def read? (text : String) : Option Int := signed? (trim text.toList)

end PoolFees.Numeral
