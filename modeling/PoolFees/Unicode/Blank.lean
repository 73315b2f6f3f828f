/-!
# Blank characters around a numeral

The characters that may surround a written integer without belonging to it are the six blanks of
ASCII (tab, line feed, vertical tab, form feed, carriage return and space) and the characters above
`U+007F` that Unicode gives the property `White_Space`. The information separators `U+001C` to
`U+001F` are not among them, and neither is `U+180E`.
-/

namespace PoolFees.Unicode

/-- The code points of the blanks, in increasing order. -/
def blanks : List Nat :=
  [0x09, 0x0A, 0x0B, 0x0C, 0x0D, 0x20, 0x85, 0xA0, 0x1680, 0x2000, 0x2001, 0x2002, 0x2003, 0x2004,
    0x2005, 0x2006, 0x2007, 0x2008, 0x2009, 0x200A, 0x2028, 0x2029, 0x202F, 0x205F, 0x3000]

/-- Whether a character may stand beside a numeral without belonging to it. -/
def isBlank (character : Char) : Bool :=
  blanks.contains character.toNat

end PoolFees.Unicode
