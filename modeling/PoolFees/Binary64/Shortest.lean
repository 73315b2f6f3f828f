import PoolFees.Binary64

/-!
# The shortest digits of a number

A finite number is written with the fewest digits that read back as the same number, and of the
numerals with that many digits the one nearest to it is taken. The digits are found in exact
arithmetic: the numerals with a given count of digits form a grid, and if any point of the grid
reads back as the number, so does one of the two points next to it. Seventeen digits always suffice.

`RealStyle` says how the digits are laid out. Two layouts are in use, one for display and one for
documents.
-/

namespace PoolFees

namespace Binary64

/-- The reals that are rounded to a number, with all lengths in quarters of the smallest positive
number. -/
structure Basin where
  lower : Nat
  middle : Nat
  upper : Nat
  /-- Whether the ends themselves are rounded to the number. -/
  closed : Bool
deriving DecidableEq, Repr, Inhabited

/-- The basin of a positive finite number. Below a power of two the neighbours are half as far
apart as above it. -/
def basin (units : Nat) : Basin :=
  let step := Nat.pow 2 (excessBits units)
  let significand := units / step
  let below := if significand = Nat.pow 2 (precision - 1) && step != 1 then step else 2 * step
  { lower := 4 * units - below
    middle := 4 * units
    upper := 4 * units + 2 * step
    closed := significand % 2 = 0 }

/-- The denominator of the lengths of a basin. -/
def quarter : Nat := 4 * Nat.pow 2 scale

/-- Whether a point, given as a quotient, is rounded to the number of a basin. -/
def Basin.contains (bounds : Basin) (numerator denominator : Nat) : Bool :=
  let point := numerator * quarter
  if bounds.closed then
    bounds.lower * denominator ≤ point && point ≤ bounds.upper * denominator
  else bounds.lower * denominator < point && point < bounds.upper * denominator

/-- The distance from the middle of a basin to a point, both times the point's denominator. -/
def Basin.distance (bounds : Basin) (numerator denominator : Nat) : Nat :=
  let point := numerator * quarter
  let middle := bounds.middle * denominator
  if point ≤ middle then middle - point else point - middle

/-- The exponent of the first digit of a positive quotient. -/
def leadingExponent (numerator denominator : Nat) : Int :=
  if denominator ≤ numerator then (Numeral.digits (numerator / denominator)).length - 1
  else -((Numeral.digits ((denominator - 1) / numerator)).length : Int)

/-- The points of a grid on both sides of a quotient. -/
def neighbours (numerator denominator : Nat) (exponent : Int) : Scientific × Scientific :=
  let below :=
    if 0 ≤ exponent then numerator / (denominator * Nat.pow 10 exponent.toNat)
    else numerator * Nat.pow 10 (-exponent).toNat / denominator
  (⟨below, exponent⟩, ⟨below + 1, exponent⟩)

/-- The numeral of the given count of digits that is nearest to the number of a basin, if one reads
back as that number. Halfway between two of them the even one is taken. -/
def Basin.nearest? (bounds : Basin) (count : Nat) : Option Scientific :=
  let exponent := leadingExponent bounds.middle quarter - count + 1
  let (below, above) := neighbours bounds.middle quarter exponent
  let belowFits := bounds.contains below.ratio.1 below.ratio.2
  let aboveFits := bounds.contains above.ratio.1 above.ratio.2
  let belowDistance := bounds.distance below.ratio.1 below.ratio.2
  let aboveDistance := bounds.distance above.ratio.1 above.ratio.2
  match belowFits, aboveFits with
  | true, false => some below
  | false, true => some above
  | true, true =>
    if belowDistance < aboveDistance then some below
    else if aboveDistance < belowDistance then some above
    else if below.digits % 2 = 0 then some below else some above
  | false, false => none

/-- The counts of digits that are tried, in order. -/
def digitCounts : List Nat := (List.range 17).map (· + 1)

/-- The shortest numeral that reads back as a positive finite number. -/
def shortest (units : Nat) : Scientific :=
  if units = 0 then ⟨0, 0⟩
  else (digitCounts.findSome? (basin units).nearest?).getD ⟨units, 0⟩

end Binary64

/-- How the digits of a number that need not be whole are laid out. -/
structure RealStyle where
  /-- The number is written without an exponent if its point position exceeds this bound, … -/
  positionalAbove : Int
  /-- … and is at most this bound. -/
  positionalTo : Int
  /-- What stands between the digits and a positive exponent. -/
  positiveMark : String
  /-- What stands between the digits and a negative exponent. -/
  negativeMark : String
  /-- The least count of digits of an exponent. -/
  exponentDigits : Nat
deriving Repr

namespace RealStyle

/-- The layout of numbers that are shown to a reader. -/
def display : RealStyle := ⟨-4, 16, "e+", "e-", 2⟩

/-- The layout of numbers in documents. -/
def document : RealStyle := ⟨-5, 16, "e", "e-", 1⟩

/-- The digits with as many zeros in front as the given length asks for. -/
def padded (length : Nat) (digits : List Char) : List Char :=
  List.replicate (length - digits.length) '0' ++ digits

/-- The digits without the zeros at their end. -/
def trimmed (digits : List Char) : List Char :=
  (digits.reverse.dropWhile (· == '0')).reverse

/-- Lays out a number. Zero is written as the digit zero with a fraction. -/
def layOut (style : RealStyle) (number : Scientific) : String :=
  if number.digits = 0 then "0.0"
  else
    let position := number.pointPosition
    let digits := trimmed (Numeral.digits number.digits)
    if style.positionalAbove < position && position ≤ style.positionalTo then
      if position ≤ 0 then
        "0." ++ String.ofList (List.replicate (-position).toNat '0' ++ digits)
      else if digits.length ≤ position.toNat then
        String.ofList (digits ++ List.replicate (position.toNat - digits.length) '0') ++ ".0"
      else
        String.ofList (digits.take position.toNat ++ '.' :: digits.drop position.toNat)
    else
      let exponent := position - 1
      let body := digits.take 1 ++ if digits.length = 1 then [] else '.' :: digits.drop 1
      let mark := if exponent < 0 then style.negativeMark else style.positiveMark
      String.ofList body ++ mark ++
        String.ofList (padded style.exponentDigits (Numeral.digits exponent.natAbs))

end RealStyle

namespace Binary64

/-- The text of a number as it is shown to a reader. -/
def display : Binary64 → String
  | nan => "nan"
  | infinite negative => if negative then "-inf" else "inf"
  | finite negative units =>
    (if negative then "-" else "") ++ RealStyle.display.layOut (shortest units)

/-- The text of a number in a document, which has no text for numbers that are not finite. -/
def documentText? : Binary64 → Option String
  | nan | infinite _ => none
  | finite negative units =>
    some ((if negative then "-" else "") ++ RealStyle.document.layOut (shortest units))

end Binary64

end PoolFees
