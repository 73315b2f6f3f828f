import PoolFees.Fault
import PoolFees.Numeral.Literal
import PoolFees.Scientific

/-!
# Reading numbers in powers of ten from text

The literal of a number may have a sign, a point and an exponent. Blanks around it are ignored,
among them the information separators, its digits may be of any script, and underscores may stand
anywhere. All digits are kept, so a number is refused when its first or its last digit stands for a
power of ten that cannot be kept.
-/

namespace PoolFees.Scientific

/-- The greatest power of ten that the first digit of a literal can stand for. -/
def maxLiteralExponent : Int := 999999999999999999

/-- The least power of ten that the last digit of a literal can stand for. -/
def minLiteralExponent : Int := -1999999999999999997

/-- Whether a character may stand beside a literal without belonging to it. -/
def isBesideLiteral (character : Char) : Bool :=
  Unicode.isBlank character || (0x1C ≤ character.toNat && character.toNat ≤ 0x1F)

/-- The text without what stands beside the literal in it. -/
def trim (text : List Char) : List Char :=
  ((text.dropWhile isBesideLiteral).reverse.dropWhile isBesideLiteral).reverse

/-- Whether all powers of ten that the digits of a number stand for can be kept. -/
def isInLiteralRange (number : Scientific) : Bool :=
  number.pointPosition - 1 ≤ maxLiteralExponent && minLiteralExponent ≤ number.exponent

/-- The number that a literal denotes, with its sign. -/
def ofText (text : String) : Except Fault (Bool × Scientific) :=
  match readSigned? (((trim text.toList).filter (· != '_')).map Numeral.plainDigit) with
  | none => refuse (.scientific .notNumeral)
  | some (negative, number) =>
    if number.isInLiteralRange then .ok (negative, number)
    else refuse (.scientific .exponentOutOfRange)

end PoolFees.Scientific
