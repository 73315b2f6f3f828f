/-!
# Rates and their fields

A pool charges four fees in proportion to an amount. Each proportion is a rate: a numerator and a
denominator of 64 bits. The eight numbers that make up the four rates are the fields of a fee
schedule; everything that lists them does so in the order of `Field.all`.
-/

namespace PoolFees

/-- A proportion of an amount. A zero denominator is allowed and makes every fee unavailable. -/
structure Rate where
  numerator : UInt64
  denominator : UInt64
deriving DecidableEq, Repr, Inhabited

/-- The four fees that are a fixed proportion of an amount. -/
inductive RateFee where
  /-- The administrator's share of a trade fee that was already charged. -/
  | adminTrade
  /-- The administrator's share of a withdrawal fee that was already charged. -/
  | adminWithdraw
  | trade
  | withdraw
deriving DecidableEq, Repr, Inhabited

namespace RateFee

def all : List RateFee := [adminTrade, adminWithdraw, trade, withdraw]

/-- The name of a fee in records and events. -/
def name : RateFee → String
  | adminTrade => "admin_trade_fee"
  | adminWithdraw => "admin_withdraw_fee"
  | trade => "trade_fee"
  | withdraw => "withdraw_fee"

/-- The name of a fee in external configuration. -/
def externalName : RateFee → String
  | adminTrade => "adminTradeFee"
  | adminWithdraw => "adminWithdrawFee"
  | trade => "tradeFee"
  | withdraw => "withdrawFee"

/-- The name of the amount that a fee is taken from. -/
def amountName : RateFee → String
  | adminTrade | adminWithdraw => "fee_amount"
  | trade => "trade_amount"
  | withdraw => "withdraw_amount"

end RateFee

/-- The two numbers of a rate. -/
inductive RatePart where
  | numerator
  | denominator
deriving DecidableEq, Repr, Inhabited

/-- One of the eight numbers of a fee schedule. -/
structure Field where
  fee : RateFee
  part : RatePart
deriving DecidableEq, Repr, Inhabited

namespace Field

/-- The eight fields in the order in which they are listed, checked and written. -/
def all : List Field :=
  RateFee.all.flatMap fun fee => [⟨fee, .numerator⟩, ⟨fee, .denominator⟩]

/-- The name of a field in records. -/
def name : Field → String
  | ⟨fee, .numerator⟩ => fee.name ++ "_numerator"
  | ⟨fee, .denominator⟩ => fee.name ++ "_denominator"

/-- The name of a field in external configuration. -/
def externalName : Field → String
  | ⟨fee, .numerator⟩ => fee.externalName ++ "Numerator"
  | ⟨fee, .denominator⟩ => fee.externalName ++ "Denominator"

/-- The field with the given name. -/
def ofName? (name : String) : Option Field := all.find? (·.name == name)

theorem mem_all (field : Field) : field ∈ all := by
  rcases field with ⟨fee, part⟩
  cases fee <;> cases part <;> decide

end Field

/-- Four rates, one for each proportional fee. -/
structure Schedule where
  adminTrade : Rate
  adminWithdraw : Rate
  trade : Rate
  withdraw : Rate
deriving DecidableEq, Repr, Inhabited

namespace Schedule

/-- The rate at which a fee is charged. -/
def rate (schedule : Schedule) : RateFee → Rate
  | .adminTrade => schedule.adminTrade
  | .adminWithdraw => schedule.adminWithdraw
  | .trade => schedule.trade
  | .withdraw => schedule.withdraw

/-- The number in a field of a schedule. -/
def get (schedule : Schedule) : Field → UInt64
  | ⟨fee, .numerator⟩ => (schedule.rate fee).numerator
  | ⟨fee, .denominator⟩ => (schedule.rate fee).denominator

/-- The schedule with the given number in each field. -/
def ofFields (numbers : Field → UInt64) : Schedule where
  adminTrade := ⟨numbers ⟨.adminTrade, .numerator⟩, numbers ⟨.adminTrade, .denominator⟩⟩
  adminWithdraw :=
    ⟨numbers ⟨.adminWithdraw, .numerator⟩, numbers ⟨.adminWithdraw, .denominator⟩⟩
  trade := ⟨numbers ⟨.trade, .numerator⟩, numbers ⟨.trade, .denominator⟩⟩
  withdraw := ⟨numbers ⟨.withdraw, .numerator⟩, numbers ⟨.withdraw, .denominator⟩⟩

@[simp]
theorem get_ofFields (numbers : Field → UInt64) (field : Field) :
    (ofFields numbers).get field = numbers field := by
  rcases field with ⟨fee, part⟩
  cases fee <;> cases part <;> rfl

end Schedule

end PoolFees
