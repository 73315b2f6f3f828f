import PoolFees.Numeral.Literal
import PoolFees.Value

/-!
# Amounts from outside

External configuration gives amounts of 64 bits as integers or as texts. `Amount.ofValue` reads one;
what it refuses is told apart by whether the value has the wrong type, is a text that denotes no
integer, is negative or is too large. Messages show a text as it was given, so blanks, signs and
leading zeros stay in it.
-/

namespace PoolFees.Amount

/-- The amount that an integer is. -/
def ofInt (given : Shown) (number : Int) : Except AmountFault UInt64 :=
  if number < 0 then .error (AmountFault.negative given).reported
  else if below : number.toNat < UInt64.size then .ok (UInt64.ofNatLT number.toNat below)
  else .error (AmountFault.tooLarge given).reported

/-- The amount that a value denotes. -/
def ofValue : Value → Except AmountFault UInt64
  | .whole number => ofInt (.whole number) number
  | .text content =>
    match Numeral.read? content with
    | some number => ofInt (.text content) number
    | none => .error (.notNumeral content)
  | other => .error (.wrongType other.typeName)

end PoolFees.Amount
