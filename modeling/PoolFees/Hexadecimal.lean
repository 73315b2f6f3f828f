import PoolFees.Unicode.Blank

/-!
# Hexadecimal notation

Numbers in base sixteen, and bytes as pairs of such digits. Both cases of the letters are read, and
blanks may stand between the pairs; small letters are written, without blanks.
-/

namespace PoolFees.Hexadecimal

/-- The value of a hexadecimal digit. -/
def digit? (character : Char) : Option Nat :=
  if character.isDigit then some (character.toNat - '0'.toNat)
  else if 'a' ≤ character && character ≤ 'f' then some (character.toNat - 'a'.toNat + 10)
  else if 'A' ≤ character && character ≤ 'F' then some (character.toNat - 'A'.toNat + 10)
  else none

/-- The number that hexadecimal digits stand for. -/
def number? (digits : List Char) : Option Nat :=
  digits.foldlM (fun number digit => (digit? digit).map (16 * number + ·)) 0

/-- The hexadecimal numeral of a number, filled up with zeros to the given length. -/
def write (length number : Nat) : List Char :=
  let digits := Nat.toDigits 16 number
  List.replicate (length - digits.length) '0' ++ digits

/-- The pairs of digits of bytes. -/
def encode (bytes : List UInt8) : List Char := bytes.flatMap fun byte => write 2 byte.toNat

/-- The bytes of a text of ASCII that starts at a position, or the position where it stops to be
pairs of digits. The first digit of a pair is handed on to the second one. -/
def decodeFrom (position : Nat) : (first : Option Nat) → List Char → Except Nat (List UInt8)
  | none, [] => .ok []
  | some _, [] => .error position
  | none, character :: rest =>
    if Unicode.isBlank character then decodeFrom (position + 1) none rest
    else
      match digit? character with
      | some first => decodeFrom (position + 1) (some first) rest
      | none => .error position
  | some first, character :: rest =>
    match digit? character with
    | some second =>
      (decodeFrom (position + 1) none rest).map (UInt8.ofNat (16 * first + second) :: ·)
    | none => .error position

/-- The bytes that a text denotes, or the position of the character because of which it does not
denote bytes. Characters beyond ASCII are looked for first. -/
def decode (text : List Char) : Except Nat (List UInt8) :=
  let start := text.takeWhile fun character => character.toNat < 0x80
  if start.length < text.length then .error start.length else decodeFrom 0 none text

end PoolFees.Hexadecimal
