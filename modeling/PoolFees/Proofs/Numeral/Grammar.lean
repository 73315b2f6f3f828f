import PoolFees.Numeral.Literal

/-!
# The grammar of integer literals

A literal consists of blanks, a sign that may be missing, a run of digits and blanks again. A run
has at least one digit, its digits may belong to any script, and a single underscore may stand
between two of them. `Numeral.Denotes` says which number a text denotes by this grammar: the
base-ten reading of the digits under the sign, unless there are more than `Numeral.maxDigits` of
them.

The reader accepts exactly this grammar. It works from the outside inwards, so the proof says of
each of its three steps that it takes off just what the grammar puts there: blanks are neither signs
nor digits, and neither signs nor underscores are digits. Numerals that were written are literals
too, so they are read back.
-/

namespace PoolFees

namespace Unicode

/-- No character is both a blank and a digit. -/
theorem decimalDigit?_of_isBlank {character : Char} (blank : isBlank character = true) :
    decimalDigit? character = none := by
  have disjoint : ∀ code ∈ blanks,
      digitZeros.find? (fun first => first ≤ code && code < first + 10) = none := by decide
  unfold decimalDigit?
  rw [disjoint character.toNat (List.contains_iff_mem.1 blank), Option.map_none]

theorem isBlank_of_decimalDigit? {character : Char} {digit : Nat}
    (isDigit : decimalDigit? character = some digit) : isBlank character = false := by
  cases blank : isBlank character with
  | false => rfl
  | true => simp [decimalDigit?_of_isBlank blank] at isDigit

theorem ne_of_decimalDigit? {character other : Char} {digit : Nat}
    (isDigit : decimalDigit? character = some digit) (notDigit : decimalDigit? other = none) :
    character ≠ other := by
  rintro rfl
  simp [notDigit] at isDigit

/-- The digits of ASCII are digits with their usual values. -/
theorem decimalDigit?_of_isDigit {character : Char} (plain : character.isDigit = true) :
    decimalDigit? character = some (character.toNat - '0'.toNat) := by
  have inRun : 48 ≤ character.toNat ∧ character.toNat < 58 := by
    simp only [Char.isDigit, Bool.and_eq_true, decide_eq_true_eq] at plain
    exact ⟨plain.1, Nat.lt_succ_of_le plain.2⟩
  unfold decimalDigit? digitZeros
  rw [List.find?_cons_of_pos (by simpa using inRun)]
  rfl

end Unicode

namespace Numeral

/-- A run of digits with their values. -/
inductive DigitRun : List Char → List Nat → Prop where
  | last {character : Char} {digit : Nat}
      (isDigit : Unicode.decimalDigit? character = some digit) : DigitRun [character] [digit]
  | next {character : Char} {digit : Nat} {rest : List Char} {digits : List Nat}
      (isDigit : Unicode.decimalDigit? character = some digit) (run : DigitRun rest digits) :
      DigitRun (character :: rest) (digit :: digits)
  | spaced {character : Char} {digit : Nat} {rest : List Char} {digits : List Nat}
      (isDigit : Unicode.decimalDigit? character = some digit) (run : DigitRun rest digits) :
      DigitRun (character :: '_' :: rest) (digit :: digits)

inductive Sign where
  | missing
  | plus
  | minus

namespace Sign

def text : Sign → List Char
  | missing => []
  | plus => ['+']
  | minus => ['-']

/-- A magnitude under a sign. -/
def apply : Sign → Nat → Int
  | minus, magnitude => -(magnitude : Int)
  | _, magnitude => magnitude

end Sign

/-- A literal with its sign and the values of its digits. -/
def Literal (text : List Char) (sign : Sign) (digits : List Nat) : Prop :=
  ∃ before body after,
    text = before ++ (sign.text ++ body) ++ after ∧
    (∀ character ∈ before, Unicode.isBlank character = true) ∧
    (∀ character ∈ after, Unicode.isBlank character = true) ∧
    DigitRun body digits

/-- The number that a text denotes, if it is a literal without too many digits. -/
def Denotes (text : String) (number : Int) : Prop :=
  ∃ sign digits, Literal text.toList sign digits ∧ digits.length ≤ maxDigits ∧
    number = sign.apply (ofDigits digits)

namespace DigitRun

variable {body : List Char} {digits : List Nat}

theorem head (run : DigitRun body digits) :
    ∃ first rest digit, body = first :: rest ∧ Unicode.decimalDigit? first = some digit := by
  cases run with
  | last isDigit => exact ⟨_, _, _, rfl, isDigit⟩
  | next isDigit _ => exact ⟨_, _, _, rfl, isDigit⟩
  | spaced isDigit _ => exact ⟨_, _, _, rfl, isDigit⟩

theorem final (run : DigitRun body digits) :
    ∃ front last digit, body = front ++ [last] ∧ Unicode.decimalDigit? last = some digit := by
  induction run with
  | last isDigit => exact ⟨[], _, _, rfl, isDigit⟩
  | next _ _ ih =>
      rcases ih with ⟨front, last, digit, rfl, isDigit⟩
      exact ⟨_ :: front, last, digit, rfl, isDigit⟩
  | spaced _ _ ih =>
      rcases ih with ⟨front, last, digit, rfl, isDigit⟩
      exact ⟨_ :: '_' :: front, last, digit, rfl, isDigit⟩

/-- A digit at the head of a run is no underscore, so no space between digits is skipped there. -/
theorem head_ne_underscore {rest : List Char} (run : DigitRun body digits) :
    body ≠ '_' :: rest := by
  rintro rfl
  rcases run.head with ⟨first, others, digit, body_eq, isDigit⟩
  injection body_eq with first_eq _
  exact Unicode.ne_of_decimalDigit? isDigit (by decide) first_eq.symm

end DigitRun

/-- The reader of digits accepts exactly the runs. -/
theorem digitValues?_eq_some_iff {body : List Char} {digits : List Nat} :
    digitValues? body = some digits ↔ DigitRun body digits := by
  constructor
  · intro read
    induction body using digitValues?.induct generalizing digits with
    | case1 => simp [digitValues?] at read
    | case2 last =>
        rcases Option.map_eq_some_iff.1 read with ⟨digit, isDigit, rfl⟩
        exact .last isDigit
    | case3 first rest ih =>
        simp only [digitValues?, Option.bind_eq_bind, Option.bind_eq_some_iff,
          Option.some.injEq] at read
        rcases read with ⟨digit, isDigit, others, othersRead, rfl⟩
        exact .spaced isDigit (ih othersRead)
    | case4 first rest notEmpty notSpaced ih =>
        rw [digitValues?.eq_4 first rest notEmpty notSpaced] at read
        simp only [Option.bind_eq_bind, Option.bind_eq_some_iff, Option.some.injEq] at read
        rcases read with ⟨digit, isDigit, others, othersRead, rfl⟩
        exact .next isDigit (ih othersRead)
  · intro run
    induction run with
    | last isDigit => simp [digitValues?, isDigit]
    | @next character digit rest digits isDigit run ih =>
        have notEmpty : rest = [] → False := by
          rintro rfl
          cases run
        have notSpaced : ∀ others, rest = '_' :: others → False := by
          intro others
          exact run.head_ne_underscore
        rw [digitValues?.eq_4 character rest notEmpty notSpaced]
        simp [isDigit, ih]
    | spaced isDigit run ih => simp [digitValues?, isDigit, ih]

/-- Runs with too many digits are not read. -/
theorem magnitude?_eq_some_iff {body : List Char} {number : Nat} :
    magnitude? body = some number ↔
      ∃ digits, DigitRun body digits ∧ digits.length ≤ maxDigits ∧ number = ofDigits digits := by
  simp only [magnitude?, Option.bind_eq_bind, Option.bind_eq_some_iff, digitValues?_eq_some_iff]
  constructor
  · rintro ⟨digits, run, read⟩
    split at read
    · rename_i short
      exact ⟨digits, run, short, (Option.some.inj read).symm⟩
    · simp at read
  · rintro ⟨digits, run, short, rfl⟩
    exact ⟨digits, run, if_pos short⟩

theorem signed_eq_some_iff {magnitude : Option Nat} {change : Int → Int} {number : Int} :
    Option.map change (do let found ← magnitude; pure (found : Int)) = some number ↔
      ∃ found, magnitude = some found ∧ change found = number := by
  cases magnitude <;> simp

/-- The sign is told apart from the run behind it. -/
theorem signed?_eq_some_iff {text : List Char} {number : Int} :
    signed? text = some number ↔
      ∃ sign body digits, text = Sign.text sign ++ body ∧ DigitRun body digits ∧
        digits.length ≤ maxDigits ∧ number = sign.apply (ofDigits digits) := by
  constructor
  · intro read
    unfold signed? at read
    split at read
    · rename_i body
      rcases signed_eq_some_iff.1 read with ⟨magnitude, found, rfl⟩
      rcases magnitude?_eq_some_iff.1 found with ⟨digits, run, short, rfl⟩
      exact ⟨.plus, body, digits, rfl, run, short, rfl⟩
    · rename_i body
      rcases signed_eq_some_iff.1 read with ⟨magnitude, found, rfl⟩
      rcases magnitude?_eq_some_iff.1 found with ⟨digits, run, short, rfl⟩
      exact ⟨.minus, body, digits, rfl, run, short, rfl⟩
    · rename_i body _ _
      rcases signed_eq_some_iff.1 read with ⟨magnitude, found, rfl⟩
      rcases magnitude?_eq_some_iff.1 found with ⟨digits, run, short, rfl⟩
      exact ⟨.missing, text, digits, rfl, run, short, rfl⟩
  · rintro ⟨sign, body, digits, rfl, run, short, rfl⟩
    have found := magnitude?_eq_some_iff.2 ⟨digits, run, short, rfl⟩
    cases sign with
    | missing =>
        rcases run.head with ⟨first, rest, digit, rfl, isDigit⟩
        have notPlus : first ≠ '+' := Unicode.ne_of_decimalDigit? isDigit (by decide)
        have notMinus : first ≠ '-' := Unicode.ne_of_decimalDigit? isDigit (by decide)
        simp [Sign.text, Sign.apply, signed?, found, notPlus, notMinus]
    | plus => simp [Sign.text, Sign.apply, signed?, found]
    | minus => simp [Sign.text, Sign.apply, signed?, found]

/-- Trimming takes nothing but blanks off. -/
theorem trim_decomposition (text : List Char) :
    ∃ before after, text = before ++ trim text ++ after ∧
      (∀ character ∈ before, Unicode.isBlank character = true) ∧
      (∀ character ∈ after, Unicode.isBlank character = true) := by
  have rest_eq := List.takeWhile_append_dropWhile (p := Unicode.isBlank)
    (l := (text.dropWhile Unicode.isBlank).reverse)
  refine ⟨text.takeWhile Unicode.isBlank,
    ((text.dropWhile Unicode.isBlank).reverse.takeWhile Unicode.isBlank).reverse, ?_, ?_, ?_⟩
  · rw [List.append_assoc, trim, ← List.reverse_append, rest_eq, List.reverse_reverse,
      List.takeWhile_append_dropWhile]
  · intro character member
    exact List.all_eq_true.1 List.all_takeWhile character member
  · intro character member
    exact List.all_eq_true.1 List.all_takeWhile character (List.mem_reverse.1 member)

/-- Trimming takes all blanks off. -/
theorem trim_of_blanks {before middle after : List Char} {first last : Char}
    {rest front : List Char}
    (leading : ∀ character ∈ before, Unicode.isBlank character = true)
    (trailing : ∀ character ∈ after, Unicode.isBlank character = true)
    (head_eq : middle = first :: rest) (firstStays : Unicode.isBlank first = false)
    (last_eq : middle = front ++ [last]) (lastStays : Unicode.isBlank last = false) :
    trim (before ++ middle ++ after) = middle := by
  have dropped : (before ++ middle ++ after).dropWhile Unicode.isBlank = middle ++ after := by
    rw [List.append_assoc, List.dropWhile_append_of_pos leading, head_eq, List.cons_append,
      List.dropWhile_cons_of_neg (by simp [firstStays])]
  have trailing_reversed : ∀ character ∈ after.reverse, Unicode.isBlank character = true := by
    intro character member
    exact trailing character (List.mem_reverse.1 member)
  rw [trim, dropped, List.reverse_append, List.dropWhile_append_of_pos trailing_reversed, last_eq,
    List.reverse_append, List.reverse_singleton, List.singleton_append,
    List.dropWhile_cons_of_neg (by simp [lastStays]), List.reverse_cons, List.reverse_reverse]

theorem trim_of_literal {before body after : List Char} {sign : Sign} {digits : List Nat}
    (leading : ∀ character ∈ before, Unicode.isBlank character = true)
    (trailing : ∀ character ∈ after, Unicode.isBlank character = true)
    (run : DigitRun body digits) :
    trim (before ++ (sign.text ++ body) ++ after) = sign.text ++ body := by
  rcases run.head with ⟨first, rest, digit, head_eq, firstIsDigit⟩
  rcases run.final with ⟨front, last, digit', last_eq, lastIsDigit⟩
  have lastStays := Unicode.isBlank_of_decimalDigit? lastIsDigit
  have signed_last_eq : sign.text ++ body = (sign.text ++ front) ++ [last] := by
    rw [last_eq, List.append_assoc]
  cases sign with
  | missing =>
      exact trim_of_blanks leading trailing head_eq
        (Unicode.isBlank_of_decimalDigit? firstIsDigit) signed_last_eq lastStays
  | plus => exact trim_of_blanks leading trailing rfl (by decide) signed_last_eq lastStays
  | minus => exact trim_of_blanks leading trailing rfl (by decide) signed_last_eq lastStays

/-- A text is read as a number exactly when it denotes that number. -/
theorem read?_eq_some_iff {text : String} {number : Int} :
    read? text = some number ↔ Denotes text number := by
  unfold read? Denotes Literal
  rw [signed?_eq_some_iff]
  constructor
  · rintro ⟨sign, body, digits, trimmed, run, short, rfl⟩
    rcases trim_decomposition text.toList with ⟨before, after, text_eq, leading, trailing⟩
    rw [trimmed] at text_eq
    exact ⟨sign, digits, ⟨before, body, after, text_eq, leading, trailing, run⟩, short, rfl⟩
  · rintro ⟨sign, digits, ⟨before, body, after, text_eq, leading, trailing, run⟩, short, rfl⟩
    refine ⟨sign, body, digits, ?_, run, short, rfl⟩
    rw [text_eq]
    exact trim_of_literal leading trailing run

theorem Denotes.unique {text : String} {left right : Int} (leftDenotes : Denotes text left)
    (rightDenotes : Denotes text right) : left = right := by
  rw [← read?_eq_some_iff] at leftDenotes rightDenotes
  rw [rightDenotes] at leftDenotes
  exact (Option.some.inj leftDenotes).symm

/-- The values of digits of ASCII. -/
theorem digitRun_of_isDigit {body : List Char} (notEmpty : body ≠ [])
    (plain : ∀ character ∈ body, character.isDigit = true) :
    DigitRun body (body.map fun character => character.toNat - '0'.toNat) := by
  induction body with
  | nil => exact absurd rfl notEmpty
  | cons first rest ih =>
      have firstIsDigit := Unicode.decimalDigit?_of_isDigit (plain first List.mem_cons_self)
      cases rest with
      | nil => exact .last firstIsDigit
      | cons second others =>
          refine .next firstIsDigit (ih (by simp) ?_)
          intro character member
          exact plain character (List.mem_cons_of_mem _ member)

/-- The numeral of a natural number denotes it, unless it is too long. -/
theorem denotes_write {number : Nat} (writable : Writable number) :
    Denotes (write number) number := by
  have plain : ∀ character ∈ digits number, character.isDigit = true := by
    intro character member
    exact isDigit_of_mem_digits member
  have run : DigitRun (digits number) _ := digitRun_of_isDigit Nat.toDigits_ne_nil plain
  refine ⟨.missing, _, ⟨[], digits number, [], ?_, by simp, by simp, run⟩, ?_, ?_⟩
  · rw [toList_write_ofNat]
    simp [Sign.text]
  · rw [List.length_map]
    exact writable_iff_length_digits.1 writable
  · have value_eq := ofDigitChars_digits number
    rw [Nat.ofDigitChars_eq_foldl] at value_eq
    simp only [Sign.apply, ofDigits, List.foldl_map, value_eq]

end Numeral

end PoolFees
