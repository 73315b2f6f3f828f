import PoolFees.Binary64.Shortest
import PoolFees.Quoted

/-!
# Documents

A document is written in JSON. Integers have any size and are kept apart from numbers with a point
or an exponent. Members of an object keep the order in which they were written. The compact form has
no blanks, and in text it escapes only what has to be escaped.
-/

namespace PoolFees

inductive Json where
  | null
  | truth (flag : Bool)
  | whole (number : Int)
  | real (number : Binary64)
  | text (content : String)
  | array (items : List Json)
  | object (members : List (String × Json))
deriving Inhabited

namespace Json

/-- A character as it stands in a text of a document. -/
def escape (character : Char) : List Char :=
  if character = '"' || character = '\\' then ['\\', character]
  else if character = '\x08' then ['\\', 'b']
  else if character = '\t' then ['\\', 't']
  else if character = '\n' then ['\\', 'n']
  else if character = '\x0c' then ['\\', 'f']
  else if character = '\r' then ['\\', 'r']
  else if character < ' ' then '\\' :: 'u' :: Hexadecimal.write 4 character.toNat
  else [character]

/-- A text of a document. -/
def quote (content : String) : List Char := '"' :: (content.toList.flatMap escape ++ ['"'])

mutual

/-- The compact form of a document. Numbers that are not finite become `null`. -/
def write : Json → List Char
  | null => ['n', 'u', 'l', 'l']
  | truth true => ['t', 'r', 'u', 'e']
  | truth false => ['f', 'a', 'l', 's', 'e']
  | whole number => (Numeral.write number).toList
  | real number => (number.documentText?.getD "null").toList
  | text content => quote content
  | array [] => ['[', ']']
  | array (item :: items) => '[' :: (write item ++ writeItems items)
  | object [] => ['{', '}']
  | object ((key, value) :: members) =>
    '{' :: (quote key ++ ':' :: (write value ++ writeMembers members))

/-- The items of an array after its first, with the bracket that closes it. -/
def writeItems : List Json → List Char
  | [] => [']']
  | item :: items => ',' :: (write item ++ writeItems items)

/-- The members of an object after its first, with the brace that closes it. -/
def writeMembers : List (String × Json) → List Char
  | [] => ['}']
  | (key, value) :: members => ',' :: (quote key ++ ':' :: (write value ++ writeMembers members))

end

end Json

end PoolFees
