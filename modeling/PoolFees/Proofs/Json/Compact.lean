import PoolFees.Proofs.Json.Spelling

/-!
# Compact objects

A compact object has no blanks: its members stand between braces with commas between them, and each
is a key, a colon and a value. Only members whose values are texts or integers are looked at here.

The items of a list are read one after the other, and each has to leave exactly the mark behind it.
`IsItem` is what the reader of a list asks of its items, and the members of a compact object satisfy
it.
-/

namespace PoolFees.Json

/-- The ways to write a text or an integer. -/
inductive WritesScalar : List Char → Json → Prop where
  | text {written : List Char} {content : String} (isText : IsText written content) :
      WritesScalar written (.text content)
  | whole {written : List Char} {number : Int} (isInteger : IsInteger written number)
      (short : written.length ≤ Numeral.maxDigits) : WritesScalar written (.whole number)

/-- A key, a colon and a text or an integer, without blanks. -/
def WritesMember (written : List Char) (member : String × Json) : Prop :=
  ∃ key value, written = key ++ ':' :: value ∧ IsText key member.1 ∧ WritesScalar value member.2

/-- An item of a list is read up to the mark behind it, which is a comma or closes the list. -/
structure IsItem {α : Type} (item : Reader α) (close : Char) (written : List Char) (value : α) :
    Prop where
  starts : ∃ first others, written = first :: others ∧ isBlank first = false ∧ first ≠ close
  reads : ∀ mark rest, mark = ',' ∨ mark = close →
    Reads item (written ++ mark :: rest) value (mark :: rest)

theorem skipBlanks_cons {first : Char} (visible : isBlank first = false) (rest : List Char) :
    skipBlanks (first :: rest) = first :: rest :=
  List.dropWhile_cons_of_neg (by simp [visible])

theorem isBlank_of_isWordCharacter {character : Char}
    (inWord : isWordCharacter character = true) : isBlank character = false := by
  cases blank : isBlank character with
  | false => rfl
  | true =>
      simp only [isBlank, Bool.or_eq_true, decide_eq_true_eq] at blank
      rcases blank with ((rfl | rfl) | rfl) | rfl <;> cases inWord

theorem WritesScalar.head {written : List Char} {value : Json}
    (writes : WritesScalar written value) :
    ∃ first others, written = first :: others ∧ isBlank first = false := by
  cases writes with
  | text isText =>
      rcases isText with ⟨body, rfl, _⟩
      exact ⟨_, _, rfl, rfl⟩
  | whole isInteger _ =>
      rcases isInteger.head with ⟨first, others, rfl⟩
      have inWord := isWordCharacter_of_isInteger isInteger List.mem_cons_self
      exact ⟨first, others, rfl, isBlank_of_isWordCharacter inWord⟩

/-- A text or an integer is read at every depth of nesting. -/
theorem readWithin_of_scalar {written rest : List Char} {value : Json} {mark : Char}
    (writes : WritesScalar written value) (ends : isWordCharacter mark = false)
    (inner : Option (Reader Json)) :
    Reads (readWithin inner) (written ++ mark :: rest) value (mark :: rest) := by
  cases writes with
  | text isText =>
      rcases isText with ⟨body, rfl, spells⟩
      rcases (readText_of_spells spells (mark :: rest)).eq_some with ⟨_, read⟩
      have text_eq :
          '"' :: (body ++ ['"']) ++ mark :: rest = '"' :: (body ++ '"' :: mark :: rest) := by
        simp
      rw [text_eq]
      simp [Reads, readWithin, read]
  | whole isInteger short =>
      have word := readWord_of_isInteger isInteger short ends rest
      rcases isInteger.head with ⟨first, others, rfl⟩
      have inWord := isWordCharacter_of_isInteger isInteger List.mem_cons_self
      have dispatched : readWithin inner (first :: others ++ mark :: rest) =
          readWord (first :: others ++ mark :: rest) := by
        apply readWithin.eq_4
        all_goals
          intro body same
          cases same
          cases inWord
      rw [Reads, dispatched]
      exact word

theorem readValue_of_scalar {written : List Char} {value : Json} {mark : Char}
    (writes : WritesScalar written value) (ends : isWordCharacter mark = false) (depth : Nat)
    (rest : List Char) :
    Reads (readValue depth) (written ++ mark :: rest) value (mark :: rest) := by
  cases depth with
  | zero => exact readWithin_of_scalar writes ends none
  | succ depth => exact readWithin_of_scalar writes ends (some (readValue depth))

/-- A member is read in three steps: its key, a colon and its value. -/
theorem Reads.member {α : Type} {value : Reader α} {body rest after left key : List Char}
    {content : α} (keyReads : Reads readText body key rest) (colon : skipBlanks rest = ':' :: after)
    (valueReads : Reads value (skipBlanks after) content left) :
    Reads (readMember value) ('"' :: body) (String.ofList key, content) left := by
  rcases keyReads.eq_some with ⟨_, keyRead⟩
  rcases valueReads.eq_some with ⟨_, valueRead⟩
  simp only [Reads, readMember, keyRead]
  split
  · rename_i rest' same
    obtain rfl : rest' = after := by simpa [colon] using same.symm
    simp [valueRead]
  · rename_i other
    exact absurd colon (other after)

theorem readMember_of_writes {written rest : List Char} {member : String × Json} {mark : Char}
    (writes : WritesMember written member) (ends : isWordCharacter mark = false) (depth : Nat) :
    Reads (readMember (readValue depth)) (written ++ mark :: rest) member (mark :: rest) := by
  rcases member with ⟨key, content⟩
  rcases writes with ⟨_, value, rfl, ⟨body, rfl, spells⟩, scalar⟩
  have keyReads := readText_of_spells spells (':' :: (value ++ mark :: rest))
  have colon : skipBlanks (':' :: (value ++ mark :: rest)) = ':' :: (value ++ mark :: rest) :=
    skipBlanks_cons rfl _
  have valueReads : Reads (readValue depth) (skipBlanks (value ++ mark :: rest)) content
      (mark :: rest) := by
    have read := readValue_of_scalar scalar ends depth rest
    rcases scalar.head with ⟨first, others, rfl, visible⟩
    rw [List.cons_append] at read ⊢
    rwa [skipBlanks_cons visible]
  have reads := Reads.member keyReads colon valueReads
  simpa using reads

/-- The last item of a list is read with the mark that closes the list. -/
theorem Reads.lastItem {α : Type} {item : Reader α} {close : Char} {text rest after : List Char}
    {value : α} (reads : Reads item (skipBlanks text) value rest)
    (closed : skipBlanks rest = close :: after) :
    Reads (readItems item close) text [value] after := by
  rcases reads.eq_some with ⟨_, read⟩
  rw [Reads, readItems]
  simp only [read]
  split
  · rename_i empty
    rw [closed] at empty
    cases empty
  · rename_i mark others same
    rw [closed] at same
    cases same
    simp

theorem Reads.nextItem {α : Type} {item : Reader α} {close : Char}
    {text rest after left : List Char} {value : α} {values : List α}
    (reads : Reads item (skipBlanks text) value rest)
    (comma : skipBlanks rest = ',' :: after) (notClose : close ≠ ',')
    (others : Reads (readItems item close) after values left) :
    Reads (readItems item close) text (value :: values) left := by
  rcases reads.eq_some with ⟨_, read⟩
  rcases others.eq_some with ⟨_, othersRead⟩
  rw [Reads, readItems]
  simp only [read]
  split
  · rename_i empty
    rw [comma] at empty
    cases empty
  · rename_i mark others same
    rw [comma] at same
    cases same
    simp [notClose.symm, othersRead]

section Lists

variable {α ι : Type} {item : Reader α} {close : Char} {written : ι → List Char} {value : ι → α}

/-- Items with commas between them are read in their order. -/
theorem readItems_of_isItem {order : List ι} (notComma : close ≠ ',')
    (notBlank : isBlank close = false) (some : order ≠ [])
    (items : ∀ index ∈ order, IsItem item close (written index) (value index))
    (rest : List Char) :
    Reads (readItems item close) (List.intercalate [','] (order.map written) ++ close :: rest)
      (order.map value) rest := by
  -- A list of items is not empty, so the induction starts with one item, which is the last one.
  induction order with
  | nil => exact absurd rfl some
  | cons index others ih =>
      have isItem := items index List.mem_cons_self
      have skipped : ∀ tail, skipBlanks (written index ++ tail) = written index ++ tail := by
        intro tail
        rcases isItem.starts with ⟨first, body, written_eq, visible, _⟩
        rw [written_eq]
        exact skipBlanks_cons visible _
      cases others with
      | nil =>
          rw [List.map_singleton, List.map_singleton, List.intercalate_singleton]
          refine Reads.lastItem ?_ (skipBlanks_cons notBlank rest)
          rw [skipped]
          exact isItem.reads close rest (.inr rfl)
      | cons next others =>
          have later := ih (by simp) fun other member => items other (List.mem_cons_of_mem _ member)
          rw [List.map_cons, List.map_cons, List.map_cons, List.intercalate_cons_cons,
            List.append_assoc, List.append_assoc]
          refine Reads.nextItem ?_ (skipBlanks_cons rfl _) notComma later
          rw [skipped]
          exact isItem.reads ',' _ (.inl rfl)

theorem readBracketed_of_isItem {order : List ι} (notComma : close ≠ ',')
    (notBlank : isBlank close = false) (some : order ≠ [])
    (items : ∀ index ∈ order, IsItem item close (written index) (value index))
    (rest : List Char) :
    Reads (readBracketed (.some item) close)
      (List.intercalate [','] (order.map written) ++ close :: rest) (order.map value) rest := by
  have read := readItems_of_isItem notComma notBlank some items rest
  cases order with
  | nil => exact absurd rfl some
  | cons index others =>
      rcases (items index List.mem_cons_self).starts with
        ⟨first, body, written_eq, visible, notClose⟩
      rw [List.map_cons, written_eq, List.intercalate_cons_cons_left, List.cons_append] at read ⊢
      rcases read.eq_some with ⟨_, itemsRead⟩
      rw [Reads, readBracketed]
      split
      · rename_i empty
        rw [skipBlanks_cons visible] at empty
        cases empty
      · rename_i mark rest same
        rw [skipBlanks_cons visible] at same
        cases same
        simp [notClose, itemsRead]

end Lists

/-- A compact object with members that are texts and integers. -/
theorem readChars?_of_members {ι : Type} {order : List ι} {written : ι → List Char}
    {member : ι → String × Json} (some : order ≠ [])
    (writes : ∀ index, WritesMember (written index) (member index)) :
    readChars? ('{' :: (List.intercalate [','] (order.map written) ++ ['}'])) =
      .some (.object (order.map member)) := by
  -- The values of the members are one level below the object.
  have items : ∀ index ∈ order, IsItem (readMember (readValue 199)) '}' (written index)
      (member index) := by
    intro index _
    refine ⟨?_, ?_⟩
    · rcases writes index with ⟨_, _, written_eq, ⟨body, rfl, _⟩, _⟩
      exact ⟨_, _, written_eq, rfl, by decide⟩
    · intro mark rest ends
      apply readMember_of_writes (writes index)
      rcases ends with rfl | rfl
      · rfl
      · rfl
  have reads := readBracketed_of_isItem (by decide) rfl some items []
  rcases reads.eq_some with ⟨_, read⟩
  have document : Reads (readValue maxDepth)
      (skipBlanks ('{' :: (List.intercalate [','] (order.map written) ++ ['}'])))
      (.object (order.map member)) [] := by
    rw [skipBlanks_cons rfl]
    change Reads (readWithin (.some (readValue 199))) _ _ _
    simp [Reads, readWithin, read]
  rcases document.eq_some with ⟨_, read⟩
  simp only [readChars?, read]
  rfl

end PoolFees.Json
