import Mathlib.Algebra.Order.Field.Rat
import Mathlib.Tactic.FieldSimp
import PoolFees.Value.Equality

/-!
# Equal quantities

Two ratios are the same quantity exactly when they stand for the same rational number: a power of
ten that is not computed belongs to a number with more digits than the other one has. So being the
same quantity is symmetric, and it is transitive for the quantities that values stand for.
-/

namespace PoolFees

namespace Quantity

/-- The order of two quantities is reversed with them. -/
theorem compare?_swap (left right : Quantity) :
    compare? right left = (compare? left right).map Ordering.swap := by
  cases left with
  | nan => cases right <;> rfl
  | infinite negative =>
      cases right with
      | nan => rfl
      | infinite other => cases negative <;> cases other <;> rfl
      | ratio => cases negative <;> rfl
  | ratio numerator denominator exponent =>
      cases right with
      | nan => rfl
      | infinite other => cases other <;> rfl
      | ratio otherNumerator otherDenominator otherExponent =>
          simp only [compare?, Option.map_some, Option.some_inj]
          rcases Int.lt_trichotomy exponent otherExponent with less | same | greater
          · rw [if_pos (Int.le_of_lt less), if_neg (Int.not_le.2 less), Ordering.swap_swap]
          · subst same
            rw [if_pos (Int.le_refl exponent), if_pos (Int.le_refl exponent), Int.sub_self]
            exact (Int.compare_swap _ _).symm
          · rw [if_neg (Int.not_le.2 greater), if_pos (Int.le_of_lt greater)]

theorem same_comm (left right : Quantity) : same left right = same right left := by
  rw [same, same, compare?_swap left right]
  cases compare? left right with
  | none => rfl
  | some order => cases order <;> rfl

/-- The denominator of a ratio is not zero. -/
def IsProper : Quantity → Prop
  | ratio _ denominator _ => denominator ≠ 0
  | _ => True

/-- The rational number that a ratio stands for. -/
def rational (numerator : Int) (denominator : Nat) (exponent : Int) : Rat :=
  numerator / denominator * 10 ^ exponent

theorem compareScaled_eq_eq {left right : Int} {exponent : Nat} :
    compareScaled left exponent right = .eq ↔ left * 10 ^ exponent = right := by
  unfold compareScaled
  split
  · rename_i unscaled
    rw [Int.compare_eq_eq]
    rcases unscaled with rfl | rfl
    · rw [pow_zero, mul_one]
    · rw [zero_mul]
  · rename_i scaled
    rw [not_or] at scaled
    split
    · -- The scaled number has more bits than the other one.
      rename_i fewBits
      refine iff_of_false ?_ ?_
      · split <;> decide
      · rintro rfl
        have few : (left * 10 ^ exponent).natAbs < (2 ^ 3) ^ exponent := by
          rw [← pow_mul]
          exact Nat.lt_log2_self.trans_le (Nat.pow_le_pow_right (by decide) fewBits)
        have many : (2 ^ 3) ^ exponent ≤ (left * 10 ^ exponent).natAbs := by
          rw [Int.natAbs_mul, Int.natAbs_pow]
          exact (Nat.pow_le_pow_left (by decide) exponent).trans
            (Nat.le_mul_of_pos_left _ (Int.natAbs_pos.2 scaled.2))
        exact Nat.not_le.2 few many
    · rw [Int.compare_eq_eq, Nat.pow_eq, Int.natCast_pow]
      rfl

/-- Shifting a ratio by a power of ten. -/
theorem scaled_eq_iff {leftNumerator rightNumerator leftExponent rightExponent : Int}
    {leftDenominator rightDenominator : Nat} (leftProper : leftDenominator ≠ 0)
    (rightProper : rightDenominator ≠ 0) (ordered : rightExponent ≤ leftExponent) :
    leftNumerator * rightDenominator * 10 ^ (leftExponent - rightExponent).toNat =
        rightNumerator * leftDenominator ↔
      rational leftNumerator leftDenominator leftExponent =
        rational rightNumerator rightDenominator rightExponent := by
  have shift : (10 : Rat) ^ leftExponent =
      10 ^ (leftExponent - rightExponent).toNat * 10 ^ rightExponent := by
    rw [← zpow_natCast, ← zpow_add₀ (by norm_num), Int.toNat_of_nonneg (by omega),
      Int.sub_add_cancel]
  have leftNonzero : (leftDenominator : Rat) ≠ 0 := Nat.cast_ne_zero.2 leftProper
  have rightNonzero : (rightDenominator : Rat) ≠ 0 := Nat.cast_ne_zero.2 rightProper
  have unit : (10 : Rat) ^ rightExponent ≠ 0 := zpow_ne_zero _ (by norm_num)
  rw [rational, rational, shift, ← mul_assoc, mul_left_inj' unit, div_mul_eq_mul_div,
    div_eq_div_iff leftNonzero rightNonzero, mul_right_comm]
  exact_mod_cast Iff.rfl

/-- Ratios are the same when they stand for the same rational number. -/
theorem same_ratio {leftNumerator rightNumerator leftExponent rightExponent : Int}
    {leftDenominator rightDenominator : Nat} (leftProper : leftDenominator ≠ 0)
    (rightProper : rightDenominator ≠ 0) :
    same (ratio leftNumerator leftDenominator leftExponent)
        (ratio rightNumerator rightDenominator rightExponent) = true ↔
      rational leftNumerator leftDenominator leftExponent =
        rational rightNumerator rightDenominator rightExponent := by
  rw [same, compare?, beq_iff_eq, Option.some_inj]
  split
  · rename_i ordered
    rw [compareScaled_eq_eq, scaled_eq_iff leftProper rightProper ordered]
  · rename_i reversed
    rw [Ordering.swap_eq_eq, compareScaled_eq_eq,
      scaled_eq_iff rightProper leftProper (Int.le_of_lt (Int.not_le.1 reversed)), eq_comm]

theorem same_trans {left middle right : Quantity} (leftProper : left.IsProper)
    (middleProper : middle.IsProper) (rightProper : right.IsProper)
    (first : same left middle = true) (second : same middle right = true) :
    same left right = true := by
  cases left with
  | nan => cases first
  | infinite negative =>
      cases middle with
      | nan => cases first
      | infinite other =>
          cases negative <;> cases other <;> first | exact second | cases first
      | ratio => cases negative <;> cases first
  | ratio numerator denominator exponent =>
      cases middle with
      | nan => cases first
      | infinite other => cases other <;> cases first
      | ratio =>
          cases right with
          | nan => cases second
          | infinite other => cases other <;> cases second
          | ratio =>
              rw [same_ratio leftProper middleProper] at first
              rw [same_ratio middleProper rightProper] at second
              rw [same_ratio leftProper rightProper]
              exact first.trans second

end Quantity

namespace Value

theorem sameQuantity_comm (left right : Value) :
    left.sameQuantity right = right.sameQuantity left := by
  simp only [sameQuantity]
  cases left.quantity? with
  | none => cases right.quantity? <;> rfl
  | some leftQuantity =>
      cases right.quantity? with
      | none => rfl
      | some rightQuantity => exact leftQuantity.same_comm rightQuantity

theorem quantity?_isProper {value : Value} {quantity : Quantity}
    (found : value.quantity? = some quantity) : quantity.IsProper := by
  cases value with
  | truth | whole | decimal =>
      cases found
      exact Nat.one_ne_zero
  | real number origin =>
      cases found
      cases number with
      | finite =>
          change Nat.pow 2 Binary64.scale ≠ 0
          rw [Nat.pow_eq]
          exact pow_ne_zero _ two_ne_zero
      | _ => exact trivial
  | _ => cases found

theorem sameQuantity_eq_true {left right : Value} :
    left.sameQuantity right = true ↔
      ∃ quantity other, left.quantity? = some quantity ∧ right.quantity? = some other ∧
        quantity.same other = true := by
  rw [sameQuantity]
  cases left.quantity? with
  | none => simp
  | some quantity => cases right.quantity? <;> simp

theorem sameQuantity_trans {left middle right : Value}
    (first : left.sameQuantity middle = true) (second : middle.sameQuantity right = true) :
    left.sameQuantity right = true := by
  rw [sameQuantity_eq_true] at first second ⊢
  rcases first with ⟨quantity, other, found, otherFound, equal⟩
  rcases second with ⟨_, last, again, lastFound, lastEqual⟩
  obtain rfl := Option.some_inj.1 (otherFound.symm.trans again)
  exact ⟨quantity, last, found, lastFound, Quantity.same_trans (quantity?_isProper found)
    (quantity?_isProper otherFound) (quantity?_isProper lastFound) equal lastEqual⟩

theorem quantity?_of_integer? {value : Value} {number : Int}
    (isInteger : value.integer? = some number) : value.quantity? = some (.ofInt number) := by
  cases value with
  | truth | whole =>
      cases isInteger
      rfl
  | _ => cases isInteger

theorem integer?_of_quantity? {value : Value} (notNumber : value.quantity? = none) :
    value.integer? = none := by
  cases isInteger : value.integer? with
  | none => rfl
  | some number =>
      rw [quantity?_of_integer? isInteger] at notNumber
      cases notNumber

theorem sameQuantity_of_integers {left right : Value} {leftNumber rightNumber : Int}
    (leftIsInteger : left.integer? = some leftNumber)
    (rightIsInteger : right.integer? = some rightNumber) :
    left.sameQuantity right = (leftNumber == rightNumber) := by
  rw [sameQuantity, quantity?_of_integer? leftIsInteger, quantity?_of_integer? rightIsInteger]
  exact Quantity.same_ofInt leftNumber rightNumber

end Value

end PoolFees
