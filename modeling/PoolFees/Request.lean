import PoolFees.Operation

/-!
# Requests

A request names an operation and gives its arguments. Arguments are written down before they are
known to have a value: a word is written as a value and a width that may not go together, and an
argument can stand for the result of an earlier request.
-/

namespace PoolFees

/-- A value as it is written in a request. -/
inductive Argument where
  | absent
  | truth (flag : Bool)
  | whole (number : Int)
  /-- An integer in decimal digits, of any size. -/
  | numeral (text : String)
  /-- A real number in decimal digits, or the name of one that is not finite. -/
  | real (text : String)
  | text (content : String)
  /-- Bytes in hexadecimal digits. -/
  | bytes (digits : String)
  | list (items : List Argument)
  | record (entries : List (String × Argument))
  | word (value width : Argument)
  | calculator (answers : List (String × Argument))
  | capability (operations : List String)
  /-- The result of an earlier request, counted from zero. -/
  | register (position : Nat)
deriving Inhabited

structure Request where
  operation : Operation
  arguments : List Argument
deriving Inhabited

end PoolFees
