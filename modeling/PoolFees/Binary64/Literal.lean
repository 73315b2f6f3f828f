import PoolFees.Binary64
import PoolFees.Numeral.Literal

/-!
# Reading real numbers from text

The literal of a real number may have a sign, a point and an exponent, or it is the name of a number
that is not finite. As in integer literals, blanks around it are ignored, the digits may be of any
script and a single underscore may stand between two digits.
-/

namespace PoolFees.Binary64

/-- The text without underscores, if each of them stands between two digits. The character before
the text is given. -/
def withoutUnderscores? (before : Char) : List Char → Option (List Char)
  | [] => some []
  | '_' :: next :: rest =>
    if before.isDigit && next.isDigit then (withoutUnderscores? next rest).map (next :: ·)
    else none
  | character :: rest =>
    if character = '_' then none
    else (withoutUnderscores? character rest).map (character :: ·)

/-- Reads a numeral with an optional sign. -/
def readSigned? : List Char → Option Binary64
  | '-' :: body => readMagnitude? true body
  | '+' :: body => readMagnitude? false body
  | body => readMagnitude? false body

/-- The number that a literal denotes. -/
def read? (text : String) : Option Binary64 :=
  (withoutUnderscores? ' ' ((Numeral.trim text.toList).map Numeral.plainDigit)).bind readSigned?

end PoolFees.Binary64
