import Mathlib.Algebra.Order.Field.Rat
import Mathlib.Data.List.Basic
import PoolFees.Proofs.FixedPoint.Parts
import PoolFees.Proofs.Word.Combination

/-!
# Fixed-point numbers in powers of ten

A fixed-point number is handed on as a number in powers of ten: its text is read, and all digits of
it are kept. Such a number has a text of its own. It is the text of the fixed-point number as long
as the first digit does not stand too far behind the point, with the point left out where nothing
follows it. Otherwise it is written with one digit before the point and an exponent.

The digit that is looked at is the first one of the magnitude. With `count` places it stands for the
power of ten with the exponent `(Numeral.digits number).length - count - 1`.
-/

namespace PoolFees

namespace Numeral

theorem toList_write_of_neg {number : Int} (negative : number < 0) :
    (write number).toList = '-' :: digits number.natAbs := by
  obtain ⟨below, rfl⟩ := Int.eq_negSucc_of_lt_zero negative
  change ("-" ++ (below + 1).repr).toList = _
  rw [String.toList_append, Nat.toList_repr]
  rfl

end Numeral

namespace Scientific

/-- A text without the point that ends it, if it ends in one. -/
def withoutFinalPoint (text : List Char) : List Char :=
  if text.getLast? = some '.' then text.dropLast else text

/-- A point and the digits behind it, or nothing where there are none. -/
def pointed (fraction : List Char) : List Char :=
  if fraction = [] then [] else '.' :: fraction

/-- An exponent is written with its sign. -/
def exponentText (exponent : Int) : List Char :=
  (if exponent < 0 then '-' else '+') :: Numeral.digits exponent.natAbs

/-- The text of a number with one digit before the point and an exponent. That digit is zero for the
number zero only. -/
structure WritesExponent (number : ℚ) (text : List Char) : Prop where
  parts : ∃ first fraction exponent,
    text = first :: pointed fraction ++ 'E' :: exponentText exponent ∧
    (∀ character ∈ first :: fraction, character.isDigit = true) ∧
    (first = '0' → number = 0) ∧
    number = Nat.ofDigitChars 10 (first :: fraction) 0 * 10 ^ (exponent - fraction.length)

theorem withoutFinalPoint_append {whole fraction : List Char} (noPoint : '.' ∉ fraction) :
    withoutFinalPoint (whole ++ '.' :: fraction) = whole ++ pointed fraction := by
  cases fraction with
  | nil =>
      rw [withoutFinalPoint, List.getLast?_concat, if_pos rfl, List.dropLast_concat, pointed,
        if_pos rfl, List.append_nil]
  | cons first rest =>
      have notFinal : (whole ++ '.' :: first :: rest).getLast? ≠ some '.' := by
        rw [List.getLast?_append_of_ne_nil _ (List.cons_ne_nil _ _), List.getLast?_cons_cons]
        exact fun final => noPoint (List.mem_of_getLast? final)
      rw [withoutFinalPoint, if_neg notFinal, pointed, if_neg (List.cons_ne_nil _ _)]

section Written

variable {number count : Nat}

theorem no_point_of_digits : '.' ∉ Numeral.digits number :=
  fun member => absurd (Numeral.isDigit_of_mem_digits member) (by decide)

theorem pointPosition_neg :
    pointPosition ⟨number, -(count : Int)⟩ = (Numeral.digits number).length - (count : Int) := rfl

/-- Where zeros are filled in a digit follows the point. -/
theorem withoutFinalPoint_of_filled (behind : (Numeral.digits number).length ≤ count) :
    withoutFinalPoint (FixedPoint.insertPoint (Numeral.digits number) count) =
      '0' :: '.' :: (List.replicate (count - (Numeral.digits number).length) '0' ++
        Numeral.digits number) := by
  have notEmpty : Numeral.digits number ≠ [] := Nat.toDigits_ne_nil
  have noPoint : '.' ∉ List.replicate (count - (Numeral.digits number).length) '0' ++
      Numeral.digits number := by
    rw [List.mem_append, not_or]
    exact ⟨fun member => absurd (List.eq_of_mem_replicate member) (by decide), no_point_of_digits⟩
  have unchanged := @withoutFinalPoint_append ['0'] _ noPoint
  rw [List.singleton_append, pointed, if_neg (List.append_ne_nil_of_right_ne_nil _ notEmpty),
    List.singleton_append] at unchanged
  rw [FixedPoint.insertPoint, if_pos behind, unchanged]

/-- Where the digits are split the point is left out when there are no places. -/
theorem withoutFinalPoint_of_split (beside : ¬(Numeral.digits number).length ≤ count) :
    withoutFinalPoint (FixedPoint.insertPoint (Numeral.digits number) count) =
      (Numeral.digits number).take ((Numeral.digits number).length - count) ++
        pointed ((Numeral.digits number).drop ((Numeral.digits number).length - count)) := by
  rw [FixedPoint.insertPoint, if_neg beside]
  exact withoutFinalPoint_append fun member => no_point_of_digits (List.mem_of_mem_drop member)

theorem write_of_near (near : -6 ≤ ((Numeral.digits number).length : Int) - count - 1) :
    write ⟨number, -(count : Int)⟩ =
      String.ofList
        (withoutFinalPoint (FixedPoint.insertPoint (Numeral.digits number) count)) := by
  have position_eq := @pointPosition_neg number count
  have positional : (decide (-(count : Int) ≤ 0) &&
      decide (-6 < pointPosition ⟨number, -(count : Int)⟩)) = true := by
    rw [Bool.and_eq_true, decide_eq_true_iff, decide_eq_true_iff]
    omega
  rw [write]
  dsimp only
  rw [if_pos positional]
  -- Both texts fill in zeros where the digits do not reach the point. Otherwise both split the
  -- digits.
  by_cases behind : (Numeral.digits number).length ≤ count
  · have filled_eq : (-pointPosition ⟨number, -(count : Int)⟩).toNat =
        count - (Numeral.digits number).length := by omega
    rw [if_pos (by omega), filled_eq, withoutFinalPoint_of_filled behind]
    exact String.ofList_append.symm
  · have kept_eq : (pointPosition ⟨number, -(count : Int)⟩).toNat =
        (Numeral.digits number).length - count := by omega
    rw [if_neg (by omega), kept_eq, withoutFinalPoint_of_split behind, pointed]
    by_cases noPlaces : count = 0
    · rw [noPlaces, Nat.sub_zero, if_pos (Nat.le_refl _), List.take_length, List.drop_length,
        if_pos rfl, List.append_nil]
    · have digitsFollow :
          (Numeral.digits number).drop ((Numeral.digits number).length - count) ≠ [] := by
        rw [Ne, List.drop_eq_nil_iff]
        omega
      rw [if_neg (by omega), if_neg digitsFollow]

theorem writesExponent_of_far (far : ((Numeral.digits number).length : Int) - count - 1 < -6) :
    ∃ text, write ⟨number, -(count : Int)⟩ = String.ofList text ∧
      WritesExponent (number / 10 ^ count) text := by
  have position_eq := @pointPosition_neg number count
  have notPositional : ¬(decide (-(count : Int) ≤ 0) &&
      decide (-6 < pointPosition ⟨number, -(count : Int)⟩)) = true := by
    rw [Bool.and_eq_true, decide_eq_true_iff, decide_eq_true_iff]
    omega
  have notEmpty : Numeral.digits number ≠ [] := Nat.toDigits_ne_nil
  rcases List.exists_cons_of_ne_nil notEmpty with ⟨first, fraction, digits_eq⟩
  rw [digits_eq, List.length_cons] at position_eq far
  -- One digit stands before the point, so the exponent is that of the first digit.
  refine ⟨first :: pointed fraction ++ 'E' :: exponentText (fraction.length - count), ?_, first,
    fraction, fraction.length - count, rfl, ?_, ?_, ?_⟩
  · have negative : (fraction.length : Int) - count < 0 := by omega
    have exponent_eq : pointPosition ⟨number, -(count : Int)⟩ - 1 = fraction.length - count := by
      omega
    rw [write]
    dsimp only
    rw [if_neg notPositional, exponent_eq, if_pos negative, digits_eq, exponentText,
      if_pos negative, ← String.toList_inj]
    simp only [String.toList_append, String.toList_ofList, Numeral.toList_write_of_neg negative]
    cases fraction with
    | nil => rfl
    | cons => simp [pointed]
  · rw [← digits_eq]
    exact fun character member => Numeral.isDigit_of_mem_digits member
  · rintro rfl
    have isZero : number = 0 := Numeral.eq_zero_of_head? (by rw [digits_eq]; rfl)
    rw [isZero, Nat.cast_zero, zero_div]
  · rw [← digits_eq, Numeral.ofDigitChars_digits, sub_sub_cancel_left, zpow_neg, zpow_natCast]
    rfl

end Written

end Scientific

theorem Store.plainText_decimal (store : Store) (number : Scientific) :
    store.plainText (.decimal false number) = .ok number.write := by
  change Except.ok ("" ++ number.write) = _
  rw [String.empty_append]

namespace TextOperation

variable {store : Store} {value : Value} {number count : Nat}

/-- A fixed-point number in powers of ten has the digits of the magnitude and the negated count of
places. Its text is that of the fixed-point number or has an exponent, and denotes the same. -/
theorem perform_decimal_exact (denotes : store.Denotes value number)
    (numberLe : number ≤ 2 ^ 128 - 1) (countLe : count ≤ 2 ^ 32 - 1) :
    ∃ made text shown,
      perform store .fixedPoint [value, .whole count] = .ok made ∧
      (∀ origin, perform store .plain [made.madeAt origin] = .ok (.text (String.ofList text)) ∧
        perform store .decimal [made.madeAt origin] = .ok (.decimal false ⟨number, -count⟩)) ∧
      store.plainText (.decimal false ⟨number, -count⟩) = .ok (String.ofList shown) ∧
      (-6 ≤ ((Numeral.digits number).length : Int) - count - 1 →
        shown = Scientific.withoutFinalPoint text) ∧
      (((Numeral.digits number).length : Int) - count - 1 < -6 →
        Scientific.WritesExponent (number / 10 ^ count) shown) := by
  have fits : Fits 128 number := fits_iff_le.2 numberLe
  have countFits : Fits 32 count := fits_iff_le.2 countLe
  rcases Store.exists_pairFixedPoint denotes (.inl rfl) fits countFits with
    ⟨made, accepted, pairs⟩
  have shows : ∀ origin,
      perform store .plain [made.madeAt origin] =
        .ok (.text (String.ofList (FixedPoint.insertPoint (Numeral.digits number) count))) ∧
      perform store .decimal [made.madeAt origin] = .ok (.decimal false ⟨number, -count⟩) :=
    fun origin => ⟨(pairs.madeAt origin).perform_plain, (pairs.madeAt origin).perform_decimal⟩
  have written := store.plainText_decimal ⟨number, -count⟩
  by_cases near : -6 ≤ ((Numeral.digits number).length : Int) - count - 1
  · rw [Scientific.write_of_near near] at written
    exact ⟨made, _, _, accepted, shows, written, fun _ => rfl, fun far => by omega⟩
  · rw [Int.not_le] at near
    rcases Scientific.writesExponent_of_far near with ⟨shown, shown_eq, writes⟩
    rw [shown_eq] at written
    exact ⟨made, _, shown, accepted, shows, written, fun near => by omega, fun _ => writes⟩

/-- 42 in a word is written with an exponent when it has ten places. -/
theorem perform_decimal_exact_of_ten_places :
    let magnitude : Value := .word ⟨⟨8, by decide⟩, 42, by decide⟩ []
    ∃ made text shown,
      perform .empty .fixedPoint [magnitude, .whole 10] = .ok made ∧
      perform .empty .plain [made.madeAt []] = .ok (.text (String.ofList text)) ∧
      perform .empty .decimal [made.madeAt []] = .ok (.decimal false ⟨42, -10⟩) ∧
      Store.empty.plainText (.decimal false ⟨42, -10⟩) = .ok (String.ofList shown) ∧
      String.ofList text = "0.0000000042" ∧ String.ofList shown = "4.2E-9" ∧
      Scientific.WritesExponent (42 / 10 ^ 10) shown := by
  intro magnitude
  have denotes : Store.empty.Denotes magnitude (42 : Nat) := .inr ⟨.whole 8, rfl⟩
  rcases @perform_decimal_exact .empty magnitude 42 10 denotes (by decide) (by decide) with
    ⟨made, text, shown, accepted, shows, written, _, far⟩
  cases accepted
  refine ⟨_, text, shown, rfl, (shows []).1, (shows []).2, written, ?_, ?_, far (by decide)⟩
  · exact Value.text.inj (Except.ok.inj ((shows []).1.symm.trans rfl))
  · exact Except.ok.inj (written.symm.trans rfl)

end TextOperation

end PoolFees
