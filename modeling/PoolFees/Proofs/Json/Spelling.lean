import PoolFees.Json.Reader

/-!
# The spelling of texts and integers

The same text can be written in many ways, because every character can be escaped. `WritesCharacter`
has the ways to write one character, and `Spells` those to write several. `IsText` and `IsInteger`
say what a text and an integer look like in a document.

The main statements are that whatever is written in one of these ways is read as what it stands for,
and that what comes behind it is left. A text ends at its closing quote. An integer goes on as far
as characters that can belong to a word, so what follows it has to begin with another one.
-/

namespace PoolFees

namespace Json

/-- A reader takes a value off the front of a text and leaves the rest. -/
def Reads {α : Type} (reader : Reader α) (text : List Char) (value : α) (rest : List Char) : Prop :=
  ∃ read, reader text = some read ∧ read.value = value ∧ read.rest = rest

theorem Reads.eq_some {α : Type} {reader : Reader α} {text rest : List Char} {value : α}
    (reads : Reads reader text value rest) :
    ∃ shorter, reader text = some ⟨value, rest, shorter⟩ := by
  rcases reads with ⟨⟨value, rest, shorter⟩, read, rfl, rfl⟩
  exact ⟨shorter, read⟩

/-- The ways to write a character within a text: as it is, by a letter after a backslash, or by its
number, in two parts when it is beyond sixteen bits. -/
inductive WritesCharacter : List Char → Char → Prop where
  | plain {character : Char} (visible : ¬character < ' ') (notBackslash : character ≠ '\\')
      (notQuote : character ≠ '"') : WritesCharacter [character] character
  | letter {letter character : Char} (standsFor : unescape? letter = some character) :
      WritesCharacter ['\\', letter] character
  | number {a b c d : Char} {unit : Nat} (read : Hexadecimal.number? [a, b, c, d] = some unit)
      (notHigh : isHighSurrogate unit = false) (notLow : isLowSurrogate unit = false) :
      WritesCharacter ['\\', 'u', a, b, c, d] (Char.ofNat unit)
  | pair {a b c d e f g h : Char} {high low : Nat}
      (highRead : Hexadecimal.number? [a, b, c, d] = some high)
      (lowRead : Hexadecimal.number? [e, f, g, h] = some low)
      (isHigh : isHighSurrogate high = true) (isLow : isLowSurrogate low = true) :
      WritesCharacter ['\\', 'u', a, b, c, d, '\\', 'u', e, f, g, h] (ofSurrogates high low)

/-- The ways to write several characters, one after the other. -/
inductive Spells : List Char → List Char → Prop where
  | nil : Spells [] []
  | cons {written rest : List Char} {character : Char} {content : List Char}
      (writes : WritesCharacter written character) (spells : Spells rest content) :
      Spells (written ++ rest) (character :: content)

/-- The content of a text, spelled between quotes. -/
def IsText (written : List Char) (content : String) : Prop :=
  ∃ body, written = '"' :: (body ++ ['"']) ∧ Spells body content.toList

/-- The digits of an integer, after a minus sign when it is negative. Zero may have one too. -/
def IsInteger (written : List Char) (number : Int) : Prop :=
  (0 ≤ number ∧ written = Numeral.digits number.natAbs) ∨
    (number ≤ 0 ∧ written = '-' :: Numeral.digits number.natAbs)

section Characters

variable {written rest : List Char} {character : Char}

theorem readCharacter_of_writes (writes : WritesCharacter written character) :
    Reads readCharacter (written ++ rest) character rest := by
  cases writes with
  | plain visible notBackslash notQuote =>
      simp [Reads, readCharacter, visible, notBackslash, notQuote]
  | @letter letter _ standsFor =>
      have notNumber : letter ≠ 'u' := by
        rintro rfl
        cases standsFor
      simp [Reads, readCharacter, notNumber, standsFor]
  | number read notHigh notLow => simp [Reads, readCharacter, read, notHigh, notLow]
  | pair highRead lowRead isHigh isLow =>
      simp [Reads, readCharacter, highRead, lowRead, isHigh, isLow]

theorem WritesCharacter.head (writes : WritesCharacter written character) :
    ∃ first others, written = first :: others ∧ first ≠ '"' := by
  cases writes with
  | plain _ _ notQuote => exact ⟨_, _, rfl, notQuote⟩
  | letter _ => exact ⟨_, _, rfl, by decide⟩
  | number _ _ _ => exact ⟨_, _, rfl, by decide⟩
  | pair _ _ _ _ => exact ⟨_, _, rfl, by decide⟩

theorem readText_of_spells {content : List Char} (spells : Spells written content)
    (rest : List Char) : Reads readText (written ++ '"' :: rest) content rest := by
  induction spells with
  | nil => simp [Reads, readText]
  | @cons first others character content writes _ ih =>
      -- The text does not end here, because no character is written with a quote in front.
      rcases writes.head with ⟨mark, body, rfl, notQuote⟩
      have front : Reads readCharacter (mark :: (body ++ (others ++ '"' :: rest))) character
          (others ++ '"' :: rest) := readCharacter_of_writes writes
      rcases front.eq_some with ⟨_, frontRead⟩
      rcases ih.eq_some with ⟨_, laterRead⟩
      have unfolded := readText.eq_3 mark (body ++ (others ++ '"' :: rest)) notQuote
      rw [List.append_assoc, List.cons_append]
      simp [Reads, unfolded, frontRead, laterRead]

end Characters

/-- The number of a control character is written in four digits. -/
theorem number?_write {number : Nat} (isControl : number < 0x20) :
    ∃ a b c d, Hexadecimal.write 4 number = [a, b, c, d] ∧
      Hexadecimal.number? [a, b, c, d] = some number := by
  have reread : ∀ number < 0x20, (Hexadecimal.write 4 number).length = 4 ∧
      Hexadecimal.number? (Hexadecimal.write 4 number) = some number := by decide
  rcases reread number isControl with ⟨four, read⟩
  match digits : Hexadecimal.write 4 number, four with
  | [a, b, c, d], _ =>
      rw [digits] at read
      exact ⟨a, b, c, d, rfl, read⟩

/-- A character is escaped to a text that stands for it. -/
theorem writesCharacter_escape (character : Char) :
    WritesCharacter (escape character) character := by
  fun_cases escape character with
  | case1 special =>
      simp only [Bool.or_eq_true, decide_eq_true_eq] at special
      rcases special with rfl | rfl
      · exact .letter rfl
      · exact .letter rfl
  | case2 _ same =>
      subst same
      exact .letter rfl
  | case3 _ _ same =>
      subst same
      exact .letter rfl
  | case4 _ _ _ same =>
      subst same
      exact .letter rfl
  | case5 _ _ _ _ same =>
      subst same
      exact .letter rfl
  | case6 _ _ _ _ _ same =>
      subst same
      exact .letter rfl
  | case7 _ _ _ _ _ _ isControl =>
      -- The number of a control character is far below those that stand for half a character.
      have small : character.toNat < 0x20 := isControl
      rcases number?_write small with ⟨a, b, c, d, digits, read⟩
      have notHigh : isHighSurrogate character.toNat = false := by
        simp only [isHighSurrogate, Bool.and_eq_false_imp, decide_eq_true_eq]
        omega
      have notLow : isLowSurrogate character.toNat = false := by
        simp only [isLowSurrogate, Bool.and_eq_false_imp, decide_eq_true_eq]
        omega
      rw [digits]
      have writes := WritesCharacter.number read notHigh notLow
      rwa [Char.ofNat_toNat] at writes
  | case8 notSpecial _ _ _ _ _ visible =>
      simp only [Bool.or_eq_true, decide_eq_true_eq, not_or] at notSpecial
      exact .plain visible notSpecial.2 notSpecial.1

theorem isText_quote (content : String) : IsText (quote content) content := by
  refine ⟨_, rfl, ?_⟩
  generalize content.toList = characters
  induction characters with
  | nil => exact .nil
  | cons character rest ih => exact .cons (writesCharacter_escape character) ih

section Integers

variable {written : List Char} {number : Int}

theorem isWordCharacter_of_isDigit {character : Char} (isDigit : character.isDigit = true) :
    isWordCharacter character = true := by
  simp [isWordCharacter, Char.isAlphanum, isDigit]

theorem isWholePart_digits (number : Nat) : isWholePart (Numeral.digits number) = true := by
  by_cases isZero : number = 0
  · subst isZero
    rfl
  · rcases Numeral.digits_head isZero with ⟨first, rest, digits_eq, notZero⟩
    rw [digits_eq]
    unfold isWholePart
    split
    · rename_i none
      cases none
    · rfl
    · rename_i first' rest' other same
      cases same
      simpa using notZero

theorem spanDigits_digits (number : Nat) :
    Scientific.spanDigits (Numeral.digits number) = (Numeral.digits number, []) := by
  apply Scientific.spanDigits_eq_self
  intro character member
  exact Numeral.isDigit_of_mem_digits member

theorem magnitude?_digits (negative : Bool) (number : Nat)
    (short : (Numeral.digits number).length + negative.toNat ≤ Numeral.maxDigits) :
    magnitude? negative (Numeral.digits number) =
      some (whole (if negative then -number else number)) := by
  have notName : Numeral.digits number ≠ ['I', 'n', 'f', 'i', 'n', 'i', 't', 'y'] := by
    intro same
    have member : 'I' ∈ Numeral.digits number := by
      rw [same]
      exact List.mem_cons_self
    exact absurd (Numeral.isDigit_of_mem_digits member) (by decide)
  have fits := Nat.not_lt.2 short
  simp [magnitude?, notName, spanDigits_digits, isWholePart_digits, fits,
    Numeral.ofDigitChars_digits]

theorem ofWord?_of_isDigit {first : Char} {rest : List Char} (isDigit : first.isDigit = true) :
    ofWord? (first :: rest) = magnitude? false (first :: rest) := by
  unfold ofWord?
  split
  case h_6 => rfl
  all_goals
    rename_i same
    cases same
    exact absurd isDigit (by decide)

/-- An integer that is not too long is the document that it stands for. -/
theorem ofWord?_of_isInteger (isInteger : IsInteger written number)
    (short : written.length ≤ Numeral.maxDigits) : ofWord? written = some (whole number) := by
  rcases isInteger with ⟨natural, rfl⟩ | ⟨notPositive, rfl⟩
  · have read := magnitude?_digits false number.natAbs (by simpa using short)
    cases digits_eq : Numeral.digits number.natAbs with
    | nil => exact absurd digits_eq Nat.toDigits_ne_nil
    | cons first rest =>
        have member : first ∈ Numeral.digits number.natAbs := by
          rw [digits_eq]
          exact List.mem_cons_self
        rw [ofWord?_of_isDigit (Numeral.isDigit_of_mem_digits member), ← digits_eq, read]
        simp only [Bool.false_eq_true, if_false, Option.some.injEq, whole.injEq]
        omega
  · have read := magnitude?_digits true number.natAbs (by simpa using short)
    change magnitude? true _ = _
    rw [read]
    simp only [if_true, Option.some.injEq, whole.injEq]
    omega

theorem isWordCharacter_of_isInteger (isInteger : IsInteger written number) {character : Char}
    (member : character ∈ written) : isWordCharacter character = true := by
  rcases isInteger with ⟨_, rfl⟩ | ⟨_, rfl⟩
  · exact isWordCharacter_of_isDigit (Numeral.isDigit_of_mem_digits member)
  · rcases List.mem_cons.1 member with rfl | member
    · rfl
    · exact isWordCharacter_of_isDigit (Numeral.isDigit_of_mem_digits member)

theorem IsInteger.head (isInteger : IsInteger written number) :
    ∃ first others, written = first :: others := by
  rcases isInteger with ⟨_, rfl⟩ | ⟨_, rfl⟩
  · exact List.exists_cons_of_ne_nil Nat.toDigits_ne_nil
  · exact ⟨_, _, rfl⟩

/-- An integer is read up to a character that cannot belong to it. -/
theorem readWord_of_isInteger {mark : Char} (isInteger : IsInteger written number)
    (short : written.length ≤ Numeral.maxDigits) (ends : isWordCharacter mark = false)
    (rest : List Char) :
    Reads readWord (written ++ mark :: rest) (whole number) (mark :: rest) := by
  have read := ofWord?_of_isInteger isInteger short
  have inWord : ∀ character ∈ written, isWordCharacter character = true := by
    intro character member
    exact isWordCharacter_of_isInteger isInteger member
  rcases isInteger.head with ⟨first, others, rfl⟩
  have othersInWord : ∀ character ∈ others, isWordCharacter character = true := by
    intro character member
    exact inWord character (List.mem_cons_of_mem _ member)
  have taken : (others ++ mark :: rest).takeWhile isWordCharacter = others := by
    rw [List.takeWhile_append_of_pos othersInWord, List.takeWhile_cons_of_neg (by simp [ends]),
      List.append_nil]
  have left : (others ++ mark :: rest).dropWhile isWordCharacter = mark :: rest := by
    rw [List.dropWhile_append_of_pos othersInWord, List.dropWhile_cons_of_neg (by simp [ends])]
  simp [Reads, readWord, inWord first List.mem_cons_self, taken, left, read]

end Integers

end Json

end PoolFees
