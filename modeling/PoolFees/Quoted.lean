import PoolFees.Hexadecimal
import PoolFees.Unicode.Printable

/-!
# Quoted text

Text is shown between single quotes, or between double quotes when it holds a single quote and no
double one. The chosen quote and the backslash are escaped, and characters without a visible form
are written by their number. Bytes are shown in the same way, with only the printable characters of
ASCII written as themselves.
-/

namespace PoolFees.Quoted

/-- The quote that a text is put between. -/
def quoteFor (content : List Char) : Char :=
  if content.contains '\'' && !content.contains '"' then '"' else '\''

/-- The escape of a character by its number, with as few digits as its size allows. -/
def byNumber (character : Char) : List Char :=
  let number := character.toNat
  if number < 0x100 then '\\' :: 'x' :: Hexadecimal.write 2 number
  else if number < 0x10000 then '\\' :: 'u' :: Hexadecimal.write 4 number
  else '\\' :: 'U' :: Hexadecimal.write 8 number

/-- A character as it stands between quotes. -/
def escape (quote : Char) (isVisible : Char → Bool) (character : Char) : List Char :=
  if character = quote || character = '\\' then ['\\', character]
  else if character = '\t' then ['\\', 't']
  else if character = '\n' then ['\\', 'n']
  else if character = '\r' then ['\\', 'r']
  else if isVisible character then [character]
  else byNumber character

/-- Text between quotes. -/
def text (content : String) : String :=
  let characters := content.toList
  let quote := quoteFor characters
  String.ofList (quote :: (characters.flatMap (escape quote Unicode.isPrintable) ++ [quote]))

/-- Whether a byte is shown as a character. -/
def isVisibleAscii (character : Char) : Bool :=
  0x20 ≤ character.toNat && character.toNat < 0x7F

/-- Bytes between quotes. -/
def bytes (content : List UInt8) : String :=
  let characters := content.map fun byte => Char.ofNat byte.toNat
  let quote := quoteFor characters
  String.ofList ('b' :: quote :: (characters.flatMap (escape quote isVisibleAscii) ++ [quote]))

end PoolFees.Quoted
