import PoolFees.Proofs.FixedPoint.Text
import PoolFees.Proofs.Numeral.Grammar
import PoolFees.Scientific.Literal

/-!
# Reading digits with a point

The reader of numbers in powers of ten takes the text of a fixed-point number as it is. The text has
no sign, no exponent and nothing that is trimmed or left out of it, so the digits before the point
and those behind it are read one after the other, and the exponent counts the digits behind it. So
texts that are the same are those of the same number.
-/

namespace PoolFees

namespace Numeral

/-- A digit of ASCII is plain already. -/
theorem plainDigit_of_isDigit {character : Char} (isDigit : character.isDigit = true) :
    plainDigit character = character := by
  have inRange : 48 ≤ character.toNat ∧ character.toNat ≤ 57 := by
    simpa [Char.isDigit, Char.le_def, UInt32.le_iff_toNat_le] using isDigit
  have zero_eq : '0'.toNat = 48 := rfl
  rw [plainDigit, Unicode.decimalDigit?_of_isDigit isDigit, ← Char.toNat_inj,
    Nat.toNat_digitChar_of_lt_ten (by omega)]
  omega

end Numeral

namespace Scientific

theorem isBesideLiteral_of_isDigit {character : Char} (isDigit : character.isDigit = true) :
    isBesideLiteral character = false := by
  have notBlank := Unicode.isBlank_of_decimalDigit? (Unicode.decimalDigit?_of_isDigit isDigit)
  have above : 48 ≤ character.toNat := by
    simp only [Char.isDigit, Bool.and_eq_true, decide_eq_true_eq] at isDigit
    exact isDigit.1
  have notSeparator : decide (character.toNat ≤ 0x1F) = false := decide_eq_false (by omega)
  rw [isBesideLiteral, notBlank, notSeparator, Bool.and_false, Bool.or_false]

theorem trim_eq_self {text : List Char}
    (plain : ∀ character ∈ text, isBesideLiteral character = false) : trim text = text := by
  have nothingDropped : ∀ part : List Char,
      (∀ character ∈ part, isBesideLiteral character = false) →
        part.dropWhile isBesideLiteral = part := by
    intro part plain
    cases part with
    | nil => rfl
    | cons first rest =>
        exact List.dropWhile_cons_of_neg (by rw [plain first List.mem_cons_self]; decide)
  rw [trim, nothingDropped text plain, nothingDropped text.reverse, List.reverse_reverse]
  exact fun character member => plain character (List.mem_reverse.1 member)

theorem readSigned?_point {whole fraction : List Char}
    (areDigits : ∀ character ∈ whole ++ fraction, character.isDigit = true)
    (notEmpty : whole ≠ []) :
    readSigned? (whole ++ '.' :: fraction) =
      some (false, ⟨Nat.ofDigitChars 10 (whole ++ fraction) 0, -(fraction.length : Int)⟩) := by
  rw [List.forall_mem_append] at areDigits
  have isNotEmpty : whole.isEmpty = false := by
    rw [← Bool.not_eq_true, List.isEmpty_iff]
    exact notEmpty
  have spansWhole : spanDigits (whole ++ '.' :: fraction) = (whole, '.' :: fraction) :=
    spanDigits_append areDigits.1 (by rintro _ ⟨⟩; rfl)
  have spansFraction : spanDigits fraction = (fraction, []) := spanDigits_eq_self areDigits.2
  have reads : read? (whole ++ '.' :: fraction) =
      some ⟨Nat.ofDigitChars 10 (whole ++ fraction) 0, -(fraction.length : Int)⟩ := by
    simp [read?, spansWhole, spansFraction, isNotEmpty, readExponent?]
  rcases List.exists_cons_of_ne_nil notEmpty with ⟨first, rest, rfl⟩
  have firstIsDigit := areDigits.1 first List.mem_cons_self
  rw [List.cons_append] at reads ⊢
  -- A sign would be the first character, which is a digit.
  unfold readSigned?
  split
  · rename_i minus
    rw [(List.cons.inj minus).1] at firstIsDigit
    cases firstIsDigit
  · rename_i plus
    rw [(List.cons.inj plus).1] at firstIsDigit
    cases firstIsDigit
  · rw [reads]
    rfl

end Scientific

namespace FixedPoint

variable {number places : Nat} {text : List Char}

namespace Writes

theorem exists_parts (writes : Writes number places text) :
    ∃ whole fraction, text = whole ++ '.' :: fraction ∧ fraction.length = places ∧ whole ≠ [] ∧
      (∀ character ∈ whole ++ fraction, character.isDigit = true) ∧
      Nat.ofDigitChars 10 (whole ++ fraction) 0 = number := by
  rcases writes.parts with ⟨whole, fraction, rfl, length_eq, notEmpty, _⟩
  have noPoint : '.' ∉ whole ++ fraction := by
    have onePoint := writes.onePoint
    rw [List.count_append, List.count_cons_self] at onePoint
    rw [← List.count_eq_zero, List.count_append]
    omega
  refine ⟨whole, fraction, rfl, length_eq, notEmpty, ?_, ?_⟩
  · intro character member
    have inText : character ∈ whole ++ '.' :: fraction :=
      (List.sublist_cons_self '.' fraction).append_left whole |>.subset member
    rcases writes.digits character inText with rfl | isDigit
    · exact absurd member noPoint
    · exact isDigit
  · rw [← filter_point noPoint]
    exact writes.number_eq

theorem trim_eq (writes : Writes number places text) : Scientific.trim text = text := by
  apply Scientific.trim_eq_self
  intro character member
  rcases writes.digits character member with rfl | isDigit
  · decide
  · exact Scientific.isBesideLiteral_of_isDigit isDigit

theorem plain_eq (writes : Writes number places text) :
    (text.filter (· != '_')).map Numeral.plainDigit = text := by
  have notOmitted : text.filter (· != '_') = text := by
    rw [List.filter_eq_self]
    intro character member
    rw [bne_iff_ne]
    rintro rfl
    rcases writes.digits _ member with isPoint | isDigit
    · cases isPoint
    · cases isDigit
  rw [notOmitted, List.map_congr_left, List.map_id]
  intro character member
  rcases writes.digits character member with rfl | isDigit
  · decide
  · exact Numeral.plainDigit_of_isDigit isDigit

end Writes

/-- The digits of a text are read as its number, and those behind the point are counted. -/
theorem Writes.readSigned?_eq (writes : Writes number places text) :
    Scientific.readSigned? text = some (false, ⟨number, -(places : Int)⟩) := by
  rcases writes.exists_parts with ⟨whole, fraction, rfl, rfl, notEmpty, areDigits, rfl⟩
  exact Scientific.readSigned?_point areDigits notEmpty

/-- A text of digits and a point is read as the number with as many decimal places, unless its
powers of ten are too large or too small to be kept. -/
theorem ofText_of_writes (writes : Writes number places text)
    (inRange : Scientific.isInLiteralRange ⟨number, -(places : Int)⟩ = true) :
    Scientific.ofText (String.ofList text) = .ok (false, ⟨number, -(places : Int)⟩) := by
  rw [Scientific.ofText, String.toList_ofList, writes.trim_eq, writes.plain_eq,
    writes.readSigned?_eq]
  exact if_pos inRange

/-- Different numbers have different texts. -/
theorem insertPoint_digits_inj {other otherPlaces : Nat} :
    insertPoint (Numeral.digits number) places = insertPoint (Numeral.digits other) otherPlaces ↔
      number = other ∧ places = otherPlaces := by
  constructor
  · intro same
    have read_eq := (writes_insertPoint number places).readSigned?_eq
    rw [same, (writes_insertPoint other otherPlaces).readSigned?_eq] at read_eq
    simp only [Option.some.injEq, Prod.mk.injEq, Scientific.mk.injEq] at read_eq
    omega
  · rintro ⟨rfl, rfl⟩
    rfl

end FixedPoint

end PoolFees
