import PoolFees.Form
import PoolFees.Replacement

/-!
# Known values

A value holds other values, down to handles and no further: what is behind a handle is in the store.
`Value.IsKnown` says that each of them that has an identity is known under it, and `Store.IsKnown`
says so of what a store holds. What is known may be the handles of a store, wherever values were
made, or which value was made where.

A new value has no identity, so it is known when its parts are. It gets an identity when it is made
at an origin; then so do the new values in it, each at a place of its own. A value that is replaced
by a handle is replaced in every part.
-/

namespace PoolFees

theorem FeeOperation.mem_all (operation : FeeOperation) : operation ∈ all := by
  cases operation with
  | rate fee => cases fee <;> decide
  | normalizedTrade => decide

namespace Value

/-- The values that a value holds. -/
def parts : Value → List Value
  | list items _ => items
  | record entries _ => entries.map Prod.snd
  | looseWord content width _ => [content, width]
  | fixedPoint number _ => [ofIntegral number.magnitude, ofIntegral number.places]
  | looseFixedPoint magnitude places _ => [magnitude, places]
  | calculator answers _ => FeeOperation.all.map answers
  | _ => []

theorem parts_of_fixedPointParts? {value magnitude places : Value}
    (found : value.fixedPointParts? = some (magnitude, places)) :
    value.parts = [magnitude, places] := by
  cases value with
  | fixedPoint | looseFixedPoint =>
      cases found
      rfl
  | _ => cases found

/-- What a path of positions leads to. -/
def part? : List Nat → Value → Option Value
  | [], value => some value
  | position :: path, value => value.parts[position]?.bind (part? path)

/-- A value holds another one, at any depth. -/
def Holds (value part : Value) : Prop := ∃ path, value.part? path = some part

theorem holds_self (value : Value) : value.Holds value := ⟨[], rfl⟩

theorem holds_of_mem {value part : Value} (member : part ∈ value.parts) : value.Holds part := by
  rcases List.getElem?_of_mem member with ⟨position, found⟩
  exact ⟨[position], Option.bind_eq_some_iff.2 ⟨part, found, rfl⟩⟩

/-- All values in a value that have an identity are known under it. -/
inductive IsKnown (known : Identity → Value → Prop) : Value → Prop where
  | intro {value : Value} (here : ∀ identity ∈ value.identity?, known identity value)
      (within : ∀ part ∈ value.parts, IsKnown known part) : IsKnown known value

namespace IsKnown

variable {known all : Identity → Value → Prop} {value first second : Value}

theorem here (isKnown : value.IsKnown known) : ∀ identity ∈ value.identity?, known identity value :=
  match isKnown with
  | .intro here _ => here

theorem within (isKnown : value.IsKnown known) : ∀ part ∈ value.parts, part.IsKnown known :=
  match isKnown with
  | .intro _ within => within

/-- A value without an identity is known as far as its parts are. -/
theorem new (isNew : value.identity? = none) (within : ∀ part ∈ value.parts, part.IsKnown known) :
    value.IsKnown known := by
  refine .intro ?_ within
  rw [isNew]
  intro identity found
  cases found

theorem plain (isNew : value.identity? = none) (isSingle : value.parts = []) :
    value.IsKnown known := by
  refine new isNew ?_
  rw [isSingle]
  intro part member
  cases member

theorem single {identity : Identity} (identified : value.identity? = some identity)
    (isKnown : known identity value) (isSingle : value.parts = []) : value.IsKnown known := by
  constructor
  · rw [identified]
    rintro _ ⟨⟩
    exact isKnown
  · rw [isSingle]
    intro part member
    cases member

theorem pair (isNew : value.identity? = none) (parts_eq : value.parts = [first, second])
    (firstKnown : first.IsKnown known) (secondKnown : second.IsKnown known) :
    value.IsKnown known := by
  refine new isNew ?_
  rw [parts_eq, List.forall_mem_cons, List.forall_mem_singleton]
  exact ⟨firstKnown, secondKnown⟩

theorem record {entries : List (String × Value)} (each : ∀ entry ∈ entries, entry.2.IsKnown known) :
    (Value.record entries []).IsKnown known :=
  new rfl (List.forall_mem_map.2 each)

theorem both (isKnown : value.IsKnown known) (parts_eq : value.parts = [first, second]) :
    first.IsKnown known ∧ second.IsKnown known := by
  have within := isKnown.within
  rw [parts_eq, List.forall_mem_cons, List.forall_mem_singleton] at within
  exact within

theorem answer {answers : FeeOperation → Value} {origin : Origin}
    (isKnown : (calculator answers origin).IsKnown known) (operation : FeeOperation) :
    (answers operation).IsKnown known :=
  isKnown.within _ (List.mem_map_of_mem operation.mem_all)

theorem mono (isKnown : value.IsKnown known)
    (implies : ∀ identity value, known identity value → all identity value) :
    value.IsKnown all := by
  induction isKnown with
  | intro here _ ih => exact .intro (fun identity found => implies _ _ (here identity found)) ih

/-- What a known value holds is known. -/
theorem holds (isKnown : value.IsKnown known) {part : Value} (holds : value.Holds part) :
    part.IsKnown known := by
  rcases holds with ⟨path, found⟩
  induction path generalizing value with
  | nil =>
      cases found
      exact isKnown
  | cons position path ih =>
      rcases Option.bind_eq_some_iff.1 found with ⟨next, isPart, found⟩
      exact ih (isKnown.within next (List.mem_of_getElem? isPart)) found

end IsKnown

end Value

/-- What is known, or was made on a path within an origin. -/
def Identity.KnownOrMade (known : Identity → Value → Prop) (origin : Origin)
    (made : List Nat → Option Value) (identity : Identity) (value : Value) : Prop :=
  known identity value ∨ ∃ path, identity = .made (origin ++ path) ∧ made path = some value

/-- What was made at a position within an origin was made within the origin. -/
theorem Identity.KnownOrMade.within {known : Identity → Value → Prop} {origin : Origin}
    {position : Nat} {made : List Nat → Option Value} {identity : Identity} {value : Value}
    (holds : KnownOrMade known (origin ++ [position]) (fun path => made (position :: path))
      identity value) : KnownOrMade known origin made identity value := by
  rcases holds with isKnown | ⟨path, rfl, isMade⟩
  · exact .inl isKnown
  · exact .inr ⟨position :: path, by rw [List.append_assoc, List.singleton_append], isMade⟩

theorem Identity.KnownOrMade.idem {known : Identity → Value → Prop} {origin : Origin}
    {made : List Nat → Option Value} {identity : Identity} {value : Value}
    (holds : KnownOrMade (KnownOrMade known origin made) origin made identity value) :
    KnownOrMade known origin made identity value :=
  holds.elim id .inr

namespace Value

variable {known : Identity → Value → Prop} {value : Value}

theorem getElem?_itemsMadeAt (origin : Origin) (position : Nat) (items : List Value)
    (index : Nat) : (itemsMadeAt origin position items)[index]? =
      items[index]?.map (madeAt (origin ++ [position + index])) := by
  induction items generalizing position index with
  | nil => rw [itemsMadeAt, List.getElem?_nil, Option.map_none]
  | cons item rest ih =>
      rw [itemsMadeAt]
      cases index with
      | zero => rfl
      | succ index =>
          rw [List.getElem?_cons_succ, List.getElem?_cons_succ, ih, Nat.add_right_comm,
            Nat.add_assoc]

theorem map_entriesMadeAt (origin : Origin) (position : Nat) (entries : List (String × Value)) :
    (entriesMadeAt origin position entries).map Prod.snd =
      itemsMadeAt origin position (entries.map Prod.snd) := by
  induction entries generalizing position with
  | nil => rfl
  | cons entry rest ih =>
      rcases entry with ⟨key, value⟩
      rw [entriesMadeAt, List.map_cons, List.map_cons, itemsMadeAt, ih]

/-- A value that gets an origin has none before, and keeps its parts. -/
theorem withOrigin_cases (origin : Origin) (value : Value) :
    value.withOrigin origin = value ∨
      (value.withOrigin origin).identity? = origin.identity? ∧
        (value.withOrigin origin).parts = value.parts := by
  unfold withOrigin
  split
  case h_9 => exact .inl rfl
  all_goals exact .inr ⟨rfl, rfl⟩

/-- A new value is made with its parts, or they stay as they are. -/
theorem madeAt_cases (origin : Origin) (value : Value) :
    value.madeAt origin = value.withOrigin origin ∨
      (value.madeAt origin).identity? = origin.identity? ∧
        (value.madeAt origin).parts = itemsMadeAt origin 0 value.parts := by
  unfold madeAt
  split
  case h_1 => exact .inr ⟨rfl, rfl⟩
  case h_2 entries => exact .inr ⟨rfl, map_entriesMadeAt origin 0 entries⟩
  case h_3 => exact .inr ⟨rfl, rfl⟩
  case h_4 => exact .inl rfl

namespace IsKnown

theorem here_of_made {origin : Origin} {made : List Nat → Option Value}
    (identified : value.identity? = origin.identity?) (isMade : made [] = some value) :
    ∀ identity ∈ value.identity?, Identity.KnownOrMade known origin made identity value := by
  rw [identified]
  cases origin with
  | nil => 
      intro identity found
      cases found
  | cons =>
      rintro _ ⟨⟩
      exact .inr ⟨[], by rw [List.append_nil], isMade⟩

theorem withOrigin (isKnown : value.IsKnown known) (origin : Origin)
    {made : List Nat → Option Value} (isMade : made [] = some (value.withOrigin origin)) :
    (value.withOrigin origin).IsKnown (Identity.KnownOrMade known origin made) := by
  rcases value.withOrigin_cases origin with same | ⟨identified, parts_eq⟩
  · rw [same]
    exact isKnown.mono fun _ _ => .inl
  · refine .intro (here_of_made identified isMade) ?_
    rw [parts_eq]
    intro part member
    exact (isKnown.within part member).mono fun _ _ => .inl

/-- What is new in a value that is made at an origin is made within it. -/
theorem madeAt (isKnown : value.IsKnown known) (origin : Origin) :
    (value.madeAt origin).IsKnown
      (Identity.KnownOrMade known origin fun path => (value.madeAt origin).part? path) := by
  induction isKnown generalizing origin with
  | @intro value here within ih =>
      rcases value.madeAt_cases origin with same | ⟨identified, parts_eq⟩
      · rw [same]
        exact withOrigin (.intro here within) origin rfl
      · refine .intro (here_of_made identified rfl) ?_
        intro part member
        rcases List.getElem?_of_mem member with ⟨position, found⟩
        have isPart := found
        rw [parts_eq, getElem?_itemsMadeAt, Nat.zero_add] at found
        rcases Option.map_eq_some_iff.1 found with ⟨old, oldFound, rfl⟩
        refine (ih old (List.mem_of_getElem? oldFound) (origin ++ [position])).mono ?_
        intro identity other holds
        refine @Identity.KnownOrMade.within _ _ position _ _ _ ?_
        simpa only [Value.part?, isPart, Option.bind_some] using holds

end IsKnown

end Value

namespace Replacement

variable {replacement : Replacement} {known all : Identity → Value → Prop} {value : Value}

theorem applyToItems_eq_map (replacement : Replacement) (items : List Value) :
    replacement.applyToItems items = items.map replacement.apply := by
  induction items with
  | nil => rw [applyToItems, List.map_nil]
  | cons item rest ih => rw [applyToItems, List.map_cons, ih]

theorem applyToEntries_eq_map (replacement : Replacement) (entries : List (String × Value)) :
    replacement.applyToEntries entries =
      entries.map fun (key, value) => (key, replacement.apply value) := by
  induction entries with
  | nil => rw [applyToEntries, List.map_nil]
  | cons entry rest ih => rw [applyToEntries, List.map_cons, ih]

/-- A part of a number is replaced as it would be by itself. -/
theorem apply_ofIntegral (replacement : Replacement) (part : Integral) :
    replacement.apply (.ofIntegral part) = replacement.applyToPart part := by
  cases part with
  | whole => rfl
  | word => rw [Value.ofIntegral, apply, applyToPart, concernsPart, Value.ofIntegral]

theorem applyToPart_eq_self {part : Integral}
    (unconcerned : ¬replacement.concernsPart part = true) :
    replacement.applyToPart part = .ofIntegral part := by
  rw [applyToPart, if_neg unconcerned]

/-- A value is replaced itself, or it keeps its identity and its parts are replaced. -/
theorem apply_cases (replacement : Replacement) (value : Value) :
    replacement.apply value = replacement.handle ∨
      (replacement.apply value).identity? = value.identity? ∧
        (replacement.apply value).parts = value.parts.map replacement.apply := by
  cases value with
  | word | looseWord =>
      rw [apply]
      split
      · exact .inl rfl
      · exact .inr ⟨rfl, rfl⟩
  | record entries =>
      rw [apply]
      split
      · exact .inl rfl
      · refine .inr ⟨rfl, ?_⟩
        simp only [Value.parts, applyToEntries_eq_map, List.map_map]
        rfl
  | list items => exact .inr ⟨rfl, replacement.applyToItems_eq_map items⟩
  | fixedPoint number =>
      simp only [apply, Value.parts, List.map_cons, List.map_nil, apply_ofIntegral]
      split
      · exact .inr ⟨rfl, rfl⟩
      · rename_i unconcerned
        rw [Bool.or_eq_true, not_or] at unconcerned
        rw [applyToPart_eq_self unconcerned.1, applyToPart_eq_self unconcerned.2]
        exact .inr ⟨rfl, rfl⟩
  | calculator answers =>
      refine .inr ⟨rfl, ?_⟩
      simp only [apply, Value.parts, List.map_map]
      rfl
  | _ => exact .inr ⟨rfl, rfl⟩

/-- A replacement adds its handle, and what was known is known as it is replaced. -/
theorem apply_isKnown (handleKnown : replacement.handle.IsKnown all)
    (keeps : ∀ identity value, known identity value → all identity (replacement.apply value))
    (isKnown : value.IsKnown known) : (replacement.apply value).IsKnown all := by
  induction isKnown with
  | @intro value here within ih =>
      rcases replacement.apply_cases value with replaced | ⟨identified, parts_eq⟩
      · rw [replaced]
        exact handleKnown
      · constructor
        · rw [identified]
          intro identity found
          exact keeps identity value (here identity found)
        · rw [parts_eq, List.forall_mem_map]
          exact ih

end Replacement

/-- The two parts of a word are known. -/
structure LooseWord.IsKnown (known : Identity → Value → Prop) (word : LooseWord) : Prop where
  content : word.content.IsKnown known
  width : word.width.IsKnown known

theorem LooseWord.ofWord_isKnown (known : Identity → Value → Prop) (bound : Word) :
    (ofWord bound).IsKnown known :=
  ⟨.plain rfl rfl, .plain rfl rfl⟩

/-- All values among entries are known. -/
def Entries.IsKnown (known : Identity → Value → Prop) (entries : Entries) : Prop :=
  ∀ entry ∈ entries, entry.2.IsKnown known

namespace Entries.IsKnown

variable {known : Identity → Value → Prop} {entries : Entries} {name : String} {value : Value}

theorem lookup (knows : entries.IsKnown known) (found : entries.lookup name = some value) :
    value.IsKnown known :=
  knows (name, value) (Entries.mem_of_lookup found)

theorem put (knows : entries.IsKnown known) (valueIn : value.IsKnown known) (name : String) :
    (entries.put name value).IsKnown known := by
  induction entries with
  | nil =>
      rw [Entries.put, Entries.IsKnown, List.forall_mem_singleton]
      exact valueIn
  | cons entry rest ih =>
      rw [Entries.IsKnown, List.forall_mem_cons] at knows
      rw [Entries.put]
      split
      · rw [Entries.IsKnown, List.forall_mem_cons]
        exact ⟨valueIn, knows.2⟩
      · rw [Entries.IsKnown, List.forall_mem_cons]
        exact ⟨knows.1, ih knows.2⟩

end Entries.IsKnown

theorem Form.entriesOf_isKnown {known : Identity → Value → Prop} (amounts : Field → UInt64) :
    Entries.IsKnown known (entriesOf amounts) := by
  rw [entriesOf, Entries.IsKnown, List.forall_mem_map]
  intro field _
  exact .plain rfl rfl

/-- The attributes of a form are known. -/
structure Form.IsKnown (known : Identity → Value → Prop) (form : Form) : Prop where
  hidden : form.hidden.IsKnown known
  additional : form.additional.IsKnown known
  observer : ∀ observer ∈ form.observer, observer.IsKnown known

namespace Store

/-- All values that a store holds are known. -/
structure IsKnown (known : Identity → Value → Prop) (store : Store) : Prop where
  words : ∀ word ∈ store.words, word.IsKnown known
  records : ∀ entries ∈ store.records, entries.IsKnown known
  forms : ∀ form ∈ store.forms, form.IsKnown known

theorem forall_mem_modify {α : Type} {P : α → Prop} {items : List α} {change : α → α}
    (holds : ∀ item ∈ items, P item) (changed : ∀ item, P item → P (change item))
    (position : Nat) : ∀ item ∈ items.modify position change, P item := by
  intro item member
  rcases List.getElem?_of_mem member with ⟨index, found⟩
  rw [List.getElem?_modify] at found
  rcases Option.map_eq_some_iff.1 found with ⟨old, oldFound, rfl⟩
  have oldHolds : P old := holds old (List.mem_of_getElem? oldFound)
  split
  · exact changed old oldHolds
  · exact oldHolds

namespace IsKnown

variable {known all : Identity → Value → Prop} {store : Store} {value : Value}

theorem mono (knows : store.IsKnown known)
    (implies : ∀ identity value, known identity value → all identity value) :
    store.IsKnown all := by
  constructor
  · intro word member
    exact ⟨(knows.words word member).content.mono implies,
      (knows.words word member).width.mono implies⟩
  · intro entries member entry entryMember
    exact (knows.records entries member entry entryMember).mono implies
  · intro form member
    refine ⟨(knows.forms form member).hidden.mono implies,
      (knows.forms form member).additional.mono implies, ?_⟩
    intro observer found
    exact ((knows.forms form member).observer observer found).mono implies

theorem word? (knows : store.IsKnown known) (valueIn : value.IsKnown known) {word : LooseWord}
    (found : store.word? value = some word) : word.IsKnown known := by
  cases value with
  | word bound =>
      cases found
      exact LooseWord.ofWord_isKnown known bound
  | looseWord =>
      cases found
      rcases valueIn.both rfl with ⟨contentIn, widthIn⟩
      exact ⟨contentIn, widthIn⟩
  | sharedWord => exact knows.words word (List.mem_of_getElem? found)
  | _ => cases found

theorem record? (knows : store.IsKnown known) (valueIn : value.IsKnown known)
    {entries : Entries} (found : store.record? value = some entries) :
    entries.IsKnown known := by
  cases value with
  | record entries =>
      cases found
      exact List.forall_mem_map.1 valueIn.within
  | sharedRecord => exact knows.records entries (List.mem_of_getElem? found)
  | _ => cases found

theorem form? (knows : store.IsKnown known) {handle : Nat} {form : Form}
    (found : store.form? handle = some form) : form.IsKnown known :=
  knows.forms form (List.mem_of_getElem? found)

theorem entries? (knows : store.IsKnown known) {handle : Nat} {entries : Entries}
    (found : store.entries? handle = some entries) : entries.IsKnown known := by
  rcases Option.bind_eq_some_iff.1 found with ⟨form, _, found⟩
  exact knows.records entries (List.mem_of_getElem? found)

/-- What a form has under a name that not all forms have lies in the store. -/
theorem member (knows : store.IsKnown known) {handle : Nat} {name : String}
    (found : store.member handle name = .ok value) : value.IsKnown known := by
  unfold Store.member Validation.member at found
  split at found
  case h_1 form entries formFound entriesFound =>
    split at found
    · rename_i lookup
      cases found
      exact (knows.entries? entriesFound).lookup lookup
    · cases something : Validation.isSomething store form.additional with
      | error fault =>
          rw [something] at found
          cases found
      | ok isSomething =>
          rw [something] at found
          change (if isSomething = true then _ else _) = _ at found
          split at found
          · split at found
            · rename_i additional additionalFound
              split at found
              · rename_i lookup
                cases found
                have additionalIn := (knows.form? formFound).additional
                exact (knows.record? additionalIn additionalFound).lookup lookup
              · cases found
            · cases found
          · cases found
  case h_2 => cases found

theorem fieldValue (knows : store.IsKnown known) {handle : Nat} {field : Field}
    (found : store.fieldValue handle field = .ok value) : value.IsKnown known :=
  knows.member found

theorem addWord (knows : store.IsKnown known) {word : LooseWord}
    (wordIn : word.IsKnown known) : (store.addWord word).IsKnown known := by
  refine ⟨?_, knows.records, knows.forms⟩
  rw [Store.addWord, List.forall_mem_append, List.forall_mem_singleton]
  exact ⟨knows.words, wordIn⟩

theorem setWord (knows : store.IsKnown known) {word : LooseWord}
    (wordIn : word.IsKnown known) (handle : Nat) :
    (store.setWord handle word).IsKnown known := by
  refine ⟨?_, knows.records, knows.forms⟩
  intro other member
  rcases List.mem_or_eq_of_mem_set member with member | rfl
  · exact knows.words other member
  · exact wordIn

theorem addRecord (knows : store.IsKnown known) {entries : Entries}
    (entriesIn : entries.IsKnown known) : (store.addRecord entries).IsKnown known := by
  refine ⟨knows.words, ?_, knows.forms⟩
  rw [Store.addRecord, List.forall_mem_append, List.forall_mem_singleton]
  exact ⟨knows.records, entriesIn⟩

theorem addForm (knows : store.IsKnown known) {entries : Entries}
    (entriesIn : entries.IsKnown known) : (store.addForm entries).IsKnown known := by
  refine ⟨knows.words, (knows.addRecord entriesIn).records, ?_⟩
  rw [Store.addForm, List.forall_mem_append, List.forall_mem_singleton]
  refine ⟨knows.forms, .plain rfl rfl, .plain rfl rfl, ?_⟩
  intro observer found
  cases found

theorem put (knows : store.IsKnown known) (valueIn : value.IsKnown known) (handle : Nat)
    (name : String) : (store.put handle name value).IsKnown known := by
  unfold Store.put
  split
  · refine ⟨knows.words, forall_mem_modify knows.records ?_ _, knows.forms⟩
    intro entries entriesIn
    exact entriesIn.put valueIn name
  · exact knows

theorem modifyForm (knows : store.IsKnown known) {change : Form → Form}
    (changedIn : ∀ form, form.IsKnown known → (change form).IsKnown known) (handle : Nat) :
    (store.modifyForm handle change).IsKnown known :=
  ⟨knows.words, knows.records, forall_mem_modify knows.forms changedIn handle⟩

/-- All values in the store are replaced at once. -/
theorem replace (knows : store.IsKnown known) {replacement : Replacement}
    (handleIn : replacement.handle.IsKnown all)
    (keeps : ∀ identity value, known identity value → all identity (replacement.apply value)) :
    (store.replace replacement).IsKnown all := by
  have applyIn {value : Value} (valueIn : value.IsKnown known) :
      (replacement.apply value).IsKnown all :=
    replacement.apply_isKnown handleIn keeps valueIn
  constructor
  · rw [Store.replace, Store.map, List.forall_mem_map]
    intro word member
    exact ⟨applyIn (knows.words word member).content, applyIn (knows.words word member).width⟩
  · rw [Store.replace, Store.map, List.forall_mem_map]
    intro entries member
    rw [Entries.IsKnown, List.forall_mem_map]
    intro entry entryMember
    exact applyIn (knows.records entries member entry entryMember)
  · rw [Store.replace, Store.map, List.forall_mem_map]
    intro form member
    have formIn := knows.forms form member
    refine ⟨applyIn formIn.hidden, applyIn formIn.additional, ?_⟩
    intro observer found
    rcases Option.map_eq_some_iff.1 found with ⟨old, oldFound, rfl⟩
    exact applyIn (formIn.observer old oldFound)

end IsKnown

end Store

end PoolFees
