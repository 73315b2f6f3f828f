import PoolFees.Json

/-!
# Reading documents

The reader is strict: there are no comments, no commas before a closing bracket, no control
characters within a text and no surrogate escapes without their partner. Beyond the standard it
knows the names of the numbers that are not finite.

Every step returns what it read together with the rest of the text and a proof that the rest is
shorter, so the reader ends without a bound on its steps. Arrays and objects that are not empty nest
at most `maxDepth` deep.
-/

namespace PoolFees.Json

/-- What was read at the front of a text, and the rest of the text. -/
structure Read (α : Type) (text : List Char) where
  value : α
  rest : List Char
  shorter : rest.length < text.length

/-- A step of the reader, which fails or consumes the front of a text. -/
abbrev Reader (α : Type) : Type := (text : List Char) → Option (Read α text)

/-- The deepest nesting of arrays and objects that are not empty. -/
def maxDepth : Nat := 200

def isBlank (character : Char) : Bool :=
  character = ' ' || character = '\t' || character = '\n' || character = '\r'

def skipBlanks (text : List Char) : List Char := text.dropWhile isBlank

theorem length_skipBlanks_le (text : List Char) : (skipBlanks text).length ≤ text.length :=
  (List.dropWhile_sublist _).length_le

def isHighSurrogate (unit : Nat) : Bool := 0xD800 ≤ unit && unit < 0xDC00

def isLowSurrogate (unit : Nat) : Bool := 0xDC00 ≤ unit && unit < 0xE000

/-- The character that a pair of surrogates stands for. -/
def ofSurrogates (high low : Nat) : Char :=
  Char.ofNat (0x10000 + (high - 0xD800) * 0x400 + (low - 0xDC00))

/-- The character that a letter after a backslash stands for. -/
def unescape? : Char → Option Char
  | '"' => some '"'
  | '\\' => some '\\'
  | '/' => some '/'
  | 'b' => some '\x08'
  | 'f' => some '\x0c'
  | 'n' => some '\n'
  | 'r' => some '\r'
  | 't' => some '\t'
  | _ => none

/-- Reads one character of a text, which may be escaped. -/
def readCharacter : Reader Char
  | '\\' :: 'u' :: a :: b :: c :: d :: rest =>
    match Hexadecimal.number? [a, b, c, d] with
    | none => none
    | some unit =>
      if isHighSurrogate unit then
        match rest with
        | '\\' :: 'u' :: e :: f :: g :: h :: rest =>
          match Hexadecimal.number? [e, f, g, h] with
          | none => none
          | some low =>
            if isLowSurrogate low then
              some ⟨ofSurrogates unit low, rest, by simp only [List.length_cons]; omega⟩
            else none
        | _ => none
      else if isLowSurrogate unit then none
      else some ⟨Char.ofNat unit, rest, by simp only [List.length_cons]; omega⟩
  | '\\' :: letter :: rest =>
    (unescape? letter).map fun character =>
      ⟨character, rest, by simp only [List.length_cons]; omega⟩
  | character :: rest =>
    if character < ' ' || character = '\\' || character = '"' then none
    else some ⟨character, rest, by simp⟩
  | [] => none

/-- Reads a text up to the quote that ends it. -/
def readText : Reader (List Char)
  | [] => none
  | '"' :: rest => some ⟨[], rest, by simp⟩
  | front :: body =>
    match readCharacter (front :: body) with
    | none => none
    | some first =>
      have := first.shorter
      match readText first.rest with
      | none => none
      | some others =>
        have := others.shorter
        some ⟨first.value :: others.value, others.rest, by omega⟩
termination_by text => text.length
decreasing_by exact first.shorter

/-- Whether a character belongs to a number or a name. -/
def isWordCharacter (character : Char) : Bool :=
  character.isAlphanum || character = '+' || character = '-' || character = '.'

/-- Whether digits form the whole part of a number: there is at least one, and the first of several
is not zero. -/
def isWholePart : List Char → Bool
  | [] => false
  | ['0'] => true
  | first :: _ => first != '0'

/-- What follows the whole part of a number that is not an integer: the digits after the point and
the exponent. -/
def readFraction? : List Char → Option (List Char × Int)
  | '.' :: body =>
    let (digits, rest) := Scientific.spanDigits body
    if digits.isEmpty then none
    else (Scientific.readExponent? rest).map fun exponent => (digits, exponent)
  | body => (Scientific.readExponent? body).map fun exponent => ([], exponent)

/-- The number that a word without its sign stands for. The whole part has no more characters than a
numeral may have digits, where the sign counts as one. -/
def magnitude? (negative : Bool) (word : List Char) : Option Json :=
  if word = ['I', 'n', 'f', 'i', 'n', 'i', 't', 'y'] then some (real (.infinite negative))
  else
    let (digits, rest) := Scientific.spanDigits word
    if !isWholePart digits || Numeral.maxDigits < digits.length + negative.toNat then none
    else if rest.isEmpty then
      let number := Nat.ofDigitChars 10 digits 0
      some (whole (if negative then -number else number))
    else
      (readFraction? rest).map fun (fraction, exponent) =>
        real (.ofScientific negative
          ⟨Nat.ofDigitChars 10 (digits ++ fraction) 0, exponent - fraction.length⟩)

/-- The document that a word stands for. -/
def ofWord? : List Char → Option Json
  | ['n', 'u', 'l', 'l'] => some null
  | ['t', 'r', 'u', 'e'] => some (truth true)
  | ['f', 'a', 'l', 's', 'e'] => some (truth false)
  | ['N', 'a', 'N'] => some (real .nan)
  | '-' :: word => magnitude? true word
  | word => magnitude? false word

/-- Reads a name or a number, which ends where no character can belong to it. -/
def readWord : Reader Json
  | [] => none
  | first :: body =>
    if isWordCharacter first then
      (ofWord? (first :: body.takeWhile isWordCharacter)).map fun value =>
        ⟨value, body.dropWhile isWordCharacter,
          Nat.lt_succ_of_le (List.dropWhile_sublist _).length_le⟩
    else none

/-- Reads the items of a list that is not empty, up to the bracket that closes it. -/
def readItems {α : Type} (item : Reader α) (close : Char) (text : List Char) :
    Option (Read (List α) text) :=
  have := length_skipBlanks_le text
  match item (skipBlanks text) with
  | none => none
  | some first =>
    have := first.shorter
    have := length_skipBlanks_le first.rest
    match after : skipBlanks first.rest with
    | [] => none
    | mark :: rest =>
      have : rest.length < (skipBlanks first.rest).length := by simp [after]
      if mark = close then some ⟨[first.value], rest, by omega⟩
      else if mark = ',' then
        match readItems item close rest with
        | none => none
        | some others =>
          have := others.shorter
          some ⟨first.value :: others.value, others.rest, by omega⟩
      else none
termination_by text.length

/-- Reads a member of an object: its key, a colon and its value. -/
def readMember {α : Type} (value : Reader α) : Reader (String × α)
  | '"' :: body =>
    match readText body with
    | none => none
    | some key =>
      have := key.shorter
      have := length_skipBlanks_le key.rest
      match after : skipBlanks key.rest with
      | ':' :: rest =>
        have : rest.length < (skipBlanks key.rest).length := by simp [after]
        have := length_skipBlanks_le rest
        match value (skipBlanks rest) with
        | none => none
        | some content =>
          have := content.shorter
          some ⟨(String.ofList key.value, content.value), content.rest, by
            simp only [List.length_cons]; omega⟩
      | _ => none
  | _ => none

/-- Reads what stands between brackets after the opening one, given a reader for items, if there may
be any. -/
def readBracketed {α : Type} (item : Option (Reader α)) (close : Char) : Reader (List α) :=
  fun text =>
    have := length_skipBlanks_le text
    match after : skipBlanks text with
    | [] => none
    | mark :: rest =>
      have : rest.length < (skipBlanks text).length := by simp [after]
      if mark = close then some ⟨[], rest, by omega⟩
      else
        match item with
        | none => none
        | some item => readItems item close text

/-- Reads a document that starts without a blank, given a reader for the documents within it. -/
def readWithin (inner : Option (Reader Json)) : Reader Json
  | '"' :: body =>
    (readText body).map fun content =>
      have := content.shorter
      ⟨text (String.ofList content.value), content.rest, by simp only [List.length_cons]; omega⟩
  | '[' :: body =>
    (readBracketed inner ']' body).map fun items =>
      have := items.shorter
      ⟨array items.value, items.rest, by simp only [List.length_cons]; omega⟩
  | '{' :: body =>
    (readBracketed (inner.map readMember) '}' body).map fun members =>
      have := members.shorter
      ⟨object members.value, members.rest, by simp only [List.length_cons]; omega⟩
  | body => readWord body

/-- Reads a document with the given depth of nesting. -/
def readValue : Nat → Reader Json
  | 0 => readWithin none
  | depth + 1 => readWithin (some (readValue depth))

/-- Reads a text that is one document with blanks around it. -/
def readChars? (text : List Char) : Option Json :=
  match readValue maxDepth (skipBlanks text) with
  | some document => if (skipBlanks document.rest).isEmpty then some document.value else none
  | none => none

def read? (text : String) : Option Json := readChars? text.toList

end PoolFees.Json
