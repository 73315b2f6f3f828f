import PoolFees.Event
import PoolFees.Form
import PoolFees.LooseWord

/-!
# Fees

A fee schedule charges four fees in proportion to an amount and one fee that also depends on the
size of the pool. `Schedule.rateFee` and `Schedule.normalizedFee` compute them; the result is absent
when it is not an amount of 64 bits, and then exactly one event tells why. Nothing is put in the
place of an absent fee: `requireFee` turns it into a fault.

The normalized fee scales the numerator of the trade rate by `n / (4 * (n - 1))`, where `n` is the
number of coins. It is defined for two to sixty-four coins, because the divisor has to be positive
and to fit eight bits.
-/

namespace PoolFees

/-- The factor of the divisor that normalizes the trade fee. -/
def normalizationFactor : Nat := 4

/-- The width of the number of coins in a pool. -/
def coinsWidth : Nat := 8

namespace Schedule

/-- The proportional fee on an amount. -/
def rateFee (schedule : Schedule) (store : Store) (fee : RateFee) (amount : Value) :
    Traced (Option Nat) :=
  let rate := schedule.rate fee
  match store.mulDiv MulDiv.imbalanced amount (.whole rate.numerator.toNat)
      (.whole rate.denominator.toNat) with
  | .ok none => ⟨.ok none, [.rateFeeAbsent fee amount rate]⟩
  | outcome => .silent outcome

end Schedule

/-- The size of a pool and the divisor of its normalized fee. -/
structure Pool where
  size : Nat
  divisor : Nat

namespace Pool

/-- The width of the number of coins as a width of words. -/
def sizeWidth : Width := ⟨coinsWidth, by decide⟩

/-- The divisor of the normalized fee for a number of coins, if there is a positive one. -/
def divisor? (coins : Word) : Option Nat := do
  let others ← coins.calculate? .sub 1
  let divisor ← others.calculate? .mul normalizationFactor
  if divisor.value = 0 then none else some divisor.value

/-- The pool with a number of coins, if there is a divisor for it. -/
def ofWord? (coins : Word) : Option Pool :=
  (divisor? coins).map fun divisor => ⟨coins.value, divisor⟩

/-- The pool with a loose number of coins, if there is a divisor for it. -/
def ofLooseWord (store : Store) (coins : LooseWord) : Except Fault (Option Pool) := do
  match ← coins.combine store .sub (.whole 1) with
  | none => .ok none
  | some others =>
    match ← others.combine store .mul (.whole normalizationFactor) with
    | none => .ok none
    | some divisor =>
      if ← divisor.isNonzero store then
        .ok do some ⟨← coins.number?, ← divisor.number?⟩
      else .ok none

/-- The pool with the number of coins that a value gives, if there is a divisor for it. -/
def ofValue (store : Store) (coins : Value) : Except Fault (Option Pool) :=
  if coins.isLoose then do
    let coins ← LooseWord.bind store (.whole coinsWidth) coins
    ofLooseWord store coins
  else (Word.ofValueAt sizeWidth coins).map ofWord?

end Pool

namespace Schedule

/-- The fee on the part of an amount that deviates from the balance of a pool. -/
def normalizedFee (schedule : Schedule) (store : Store) (coins amount : Value) :
    Traced (Option Nat) :=
  match Pool.ofValue store coins with
  | .error fault => .silent (.error fault)
  | .ok none => ⟨.ok none, [.invalidPoolSize coins]⟩
  | .ok (some pool) =>
    let rate := schedule.trade
    match MulDiv.compute MulDiv.balanced (.whole rate.numerator.toNat) (.whole pool.size)
        (.whole pool.divisor) with
    | .error fault => .silent (.error fault)
    | .ok none => ⟨.ok none, [.adjustedNumeratorAbsent coins rate.numerator]⟩
    | .ok (some adjusted) =>
      match store.mulDiv MulDiv.balanced amount (.whole adjusted)
          (.whole rate.denominator.toNat) with
      | .ok none =>
        ⟨.ok none, [.normalizedFeeAbsent coins amount adjusted rate.denominator]⟩
      | outcome => .silent outcome

end Schedule

/-- The value of a fee that may be absent. -/
def Value.ofFee : Option Nat → Value := Value.ofOption fun fee => .whole fee

namespace Calculator

/-- The proportional fee that a fee calculator charges on an amount. -/
def rateFee (store : Store) (calculator : Value) (fee : RateFee) (amount : Value) : Traced Value :=
  match calculator with
  | .schedule schedule _ => (schedule.rateFee store fee amount).map .ofFee
  | .calculator answers _ => .silent (.ok (answers (.rate fee)))
  | _ => .silent (refuse .wrongReceiver)

/-- The normalized fee that a fee calculator charges on an amount. -/
def normalizedFee (store : Store) (calculator coins amount : Value) : Traced Value :=
  match calculator with
  | .schedule schedule _ => (schedule.normalizedFee store coins amount).map .ofFee
  | .calculator answers _ => .silent (.ok (answers .normalizedTrade))
  | _ => .silent (refuse .wrongReceiver)

/-- Whether a form has something under the name of an operation. -/
def formOffers (store : Store) (handle : Nat) (operation : FeeOperation) : Except Fault Bool :=
  match store.member handle operation.name with
  | .ok .absent | .error (.noAttribute ..) => .ok false
  | .ok _ => .ok true
  | .error fault => .error fault

/-- Whether a value offers all operations of a fee calculator. Of a form it is only looked at what
it has under their names. -/
def isCalculator (store : Store) : Value → Except Fault Bool
  | .schedule .. | .calculator .. => .ok true
  | .capability operations _ =>
    .ok (FeeOperation.all.all fun operation => operations.contains operation.name)
  | .form handle => FeeOperation.all.allM (formOffers store handle)
  | _ => .ok false

end Calculator

/-- A fee that an operation cannot go on without. The operation is named as it was passed, and by
the text that shows it in a message, if there is one. -/
def requireFee (fee operation : Value) (shown : Except Fault String) : Traced Value :=
  match fee with
  | .absent =>
    ⟨shown.bind fun name => refuse (.feeUnavailable name), [.requiredFeeAbsent operation]⟩
  | present => .silent (.ok present)

end PoolFees
