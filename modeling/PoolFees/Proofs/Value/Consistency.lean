import Mathlib.Data.List.Forall2
import Mathlib.Data.List.Perm.Subperm
import PoolFees.Proofs.Form.Written

/-!
# Consistent comparisons

A comparison that need not have an outcome cannot be transitive, but it can be consistent: values
that equal a third one are then not found to be different. A consistent comparison of values is
consistent for lists of them, for records and for forms.

Forms need their entries to have distinct names. Two forms with entries of fields only are different
as soon as their records are, while other forms are compared field by field, and it takes distinct
names to see that this makes no difference.
-/

namespace List

variable {α : Type} {check : α → Option Bool} {items : List α}

theorem of_allM_eq_some_true (passes : items.allM check = some true) :
    ∀ item ∈ items, check item = some true := by
  induction items with
  | nil => exact nofun
  | cons item rest ih =>
      rw [allM_cons] at passes
      cases checked : check item with
      | none =>
          rw [checked] at passes
          cases passes
      | some outcome =>
          rw [checked] at passes
          cases outcome with
          | false => cases passes
          | true => exact forall_mem_cons.2 ⟨checked, ih passes⟩

theorem exists_of_allM_eq_some_false (fails : items.allM check = some false) :
    ∃ item ∈ items, check item = some false := by
  induction items with
  | nil => cases fails
  | cons item rest ih =>
      rw [allM_cons] at fails
      cases checked : check item with
      | none =>
          rw [checked] at fails
          cases fails
      | some outcome =>
          rw [checked] at fails
          cases outcome with
          | false => exact ⟨item, mem_cons_self, checked⟩
          | true =>
              rcases ih fails with ⟨found, member, notPassed⟩
              exact ⟨found, mem_cons_of_mem item member, notPassed⟩

end List

namespace PoolFees

/-- Values that equal one value are not found to be different. -/
def Consistent (among : Value → Prop) (same : Value → Value → Option Bool) : Prop :=
  ∀ left middle right, among left → among middle → among right →
    same left middle = some true → same middle right = some true → same left right ≠ some false

section Parts

variable {among : Value → Prop} {same : Value → Value → Option Bool}

theorem Consistent.matchesItem (consistent : Consistent among same)
    (coherent : ∀ left right, among left → among right → left.isIdentical right = true →
      left = right) : Consistent among (Value.matchesItem same) := by
  intro left middle right leftAmong middleAmong rightAmong first second
  by_cases firstIdentical : left.isIdentical middle = true
  · rw [coherent left middle leftAmong middleAmong firstIdentical, second]
    decide
  · by_cases secondIdentical : middle.isIdentical right = true
    · rw [← coherent middle right middleAmong rightAmong secondIdentical, first]
      decide
    · rw [Value.matchesItem, if_neg firstIdentical] at first
      rw [Value.matchesItem, if_neg secondIdentical] at second
      rw [Value.matchesItem]
      split
      · decide
      · exact consistent left middle right leftAmong middleAmong rightAmong first second

section Items

variable {items others lasts : List Value}

theorem Value.matches_of_sameItems (equal : Value.sameItems same items others = some true) :
    List.Forall₂ (fun item other => Value.matchesItem same item other = some true)
      items others := by
  rw [Value.sameItems] at equal
  split at equal
  · rename_i length_eq
    refine List.forall₂_iff_zip.2 ⟨length_eq, ?_⟩
    intro item other member
    exact List.of_allM_eq_some_true equal (item, other) member
  · cases equal

theorem Value.sameItems_of_matches
    (matching : List.Forall₂ (fun item other => Value.matchesItem same item other ≠ some false)
      items others) : Value.sameItems same items others ≠ some false := by
  rcases List.forall₂_iff_zip.1 matching with ⟨length_eq, zipped⟩
  rw [Value.sameItems, if_pos length_eq]
  intro differs
  rcases List.exists_of_allM_eq_some_false differs with ⟨⟨item, other⟩, member, notSame⟩
  exact zipped member notSame

theorem Consistent.sameItems (consistent : Consistent among (Value.matchesItem same))
    (itemsAmong : ∀ item ∈ items, among item) (othersAmong : ∀ item ∈ others, among item)
    (lastsAmong : ∀ item ∈ lasts, among item)
    (first : Value.sameItems same items others = some true)
    (second : Value.sameItems same others lasts = some true) :
    Value.sameItems same items lasts ≠ some false := by
  apply Value.sameItems_of_matches
  have firstMatches := Value.matches_of_sameItems first
  have secondMatches := Value.matches_of_sameItems second
  clear first second
  induction firstMatches generalizing lasts with
  | nil =>
      cases secondMatches
      exact .nil
  | cons firstSame _ ih =>
      cases secondMatches with
      | cons secondSame rest =>
          rw [List.forall_mem_cons] at itemsAmong othersAmong lastsAmong
          exact .cons
            (consistent _ _ _ itemsAmong.1 othersAmong.1 lastsAmong.1 firstSame secondSame)
            (ih itemsAmong.2 othersAmong.2 lastsAmong.2 rest)

end Items

namespace Entries

variable {entries others lasts : Entries} {key : String} {value : Value}

/-- The names of entries are distinct. -/
def Distinct (entries : Entries) : Prop := (entries.map Prod.fst).Nodup

/-- All values among entries are of a kind. -/
def Among (among : Value → Prop) (entries : Entries) : Prop :=
  ∀ key value, (key, value) ∈ entries → among value

theorem lookup_of_mem (distinct : entries.Distinct) (member : (key, value) ∈ entries) :
    entries.lookup key = some value := by
  induction entries with
  | nil => cases member
  | cons entry rest ih =>
      rcases entry with ⟨name, content⟩
      rw [Distinct, List.map_cons, List.nodup_cons] at distinct
      rcases List.mem_cons.1 member with isFirst | later
      · cases isFirst
        exact List.lookup_cons_self
      · have differs : (key == name) = false := by
          rw [beq_eq_false_iff_ne]
          rintro rfl
          exact distinct.1 (List.mem_map.2 ⟨(key, value), later, rfl⟩)
        rw [List.lookup_cons, differs]
        exact ih distinct.2 later

theorem mem_names : key ∈ entries.map Prod.fst ↔ ∃ value, entries.lookup key = some value := by
  constructor
  · intro member
    cases found : entries.lookup key with
    | some value => exact ⟨value, rfl⟩
    | none =>
        rcases List.mem_map.1 member with ⟨entry, entryMember, rfl⟩
        have differs := List.lookup_eq_none_iff.1 found entry entryMember
        rw [bne_self_eq_false] at differs
        cases differs
  · rintro ⟨value, found⟩
    exact List.mem_map_of_mem (mem_of_lookup found)

theorem names_subset
    (within : ∀ key value, entries.lookup key = some value →
      ∃ other, others.lookup key = some other) :
    entries.map Prod.fst ⊆ others.map Prod.fst := by
  intro name member
  rcases mem_names.1 member with ⟨value, found⟩
  exact mem_names.2 (within name value found)

theorem matches_of_same (equal : entries.same same others = some true)
    (member : (key, value) ∈ entries) :
    ∃ other, others.lookup key = some other ∧ Value.matchesItem same value other = some true := by
  rw [Entries.same] at equal
  split at equal
  · have checked := List.of_allM_eq_some_true equal (key, value) member
    simp only at checked
    split at checked
    · rename_i other found
      exact ⟨other, found, checked⟩
    · cases checked
  · cases equal

theorem length_eq_of_same (equal : entries.same same others = some true) :
    entries.length = others.length := by
  rw [Entries.same] at equal
  split at equal
  · assumption
  · cases equal

theorem same_of_matches (length_eq : entries.length = others.length)
    (matching : ∀ key value, (key, value) ∈ entries →
      ∃ other, others.lookup key = some other ∧
        Value.matchesItem same value other ≠ some false) :
    entries.same same others ≠ some false := by
  rw [Entries.same, if_pos length_eq]
  intro differs
  rcases List.exists_of_allM_eq_some_false differs with ⟨⟨key, value⟩, member, notSame⟩
  rcases matching key value member with ⟨other, found, notDifferent⟩
  simp only [found] at notSame
  exact notDifferent notSame

end Entries

theorem Consistent.sameEntries {entries others lasts : Entries}
    (consistent : Consistent among (Value.matchesItem same)) (entriesAmong : entries.Among among)
    (othersAmong : others.Among among) (lastsAmong : lasts.Among among)
    (first : entries.same same others = some true) (second : others.same same lasts = some true) :
    entries.same same lasts ≠ some false := by
  refine Entries.same_of_matches
    ((Entries.length_eq_of_same first).trans (Entries.length_eq_of_same second)) ?_
  intro key value member
  rcases Entries.matches_of_same first member with ⟨other, found, firstSame⟩
  have otherMember := Entries.mem_of_lookup found
  rcases Entries.matches_of_same second otherMember with ⟨last, lastFound, secondSame⟩
  exact ⟨last, lastFound, consistent value other last (entriesAmong key value member)
    (othersAmong key other otherMember) (lastsAmong key last (Entries.mem_of_lookup lastFound))
    firstSame secondSame⟩

section Fields

variable {agree : Value → Value → Prop} {entries others lasts : Entries}

namespace Entries

/-- Entries have values in a relation under the names of the same fields. -/
def AgreeOnFields (agree : Value → Value → Prop) (entries others : Entries) : Prop :=
  ∀ field : Field, Option.Rel agree (entries.lookup field.name) (others.lookup field.name)

/-- Equal entries have the same names, and equal values under them. -/
theorem agree_of_same (distinct : entries.Distinct) (equal : entries.same same others = some true) :
    AgreeOnFields (fun value other => Value.matchesItem same value other = some true)
      entries others := by
  intro field
  cases found : entries.lookup field.name with
  | some value =>
      rcases matches_of_same equal (mem_of_lookup found) with ⟨other, otherFound, matching⟩
      rw [otherFound]
      exact .some matching
  | none =>
      cases otherFound : others.lookup field.name with
      | none => exact .none
      | some other =>
          -- There is no room for another name in as many entries.
          have included : entries.map Prod.fst ⊆ others.map Prod.fst := by
            refine names_subset fun key value named => ?_
            rcases matches_of_same equal (mem_of_lookup named) with ⟨other, otherNamed, _⟩
            exact ⟨other, otherNamed⟩
          have length_eq : (others.map Prod.fst).length = (entries.map Prod.fst).length := by
            rw [List.length_map, List.length_map, length_eq_of_same equal]
          have reordered := (distinct.subperm included).perm_of_length_le (Nat.le_of_eq length_eq)
          rcases mem_names.1 (reordered.mem_iff.2 (mem_names.2 ⟨other, otherFound⟩)) with
            ⟨value, named⟩
          rw [found] at named
          cases named

theorem agree_of_sameFields (equal : entries.sameFields same others = some true) :
    AgreeOnFields (fun value other => Value.matchesItem same value other = some true)
      entries others := by
  intro field
  have checked := List.of_allM_eq_some_true equal field (Field.mem_all field)
  cases found : entries.lookup field.name <;> cases otherFound : others.lookup field.name <;>
    simp only [found, otherFound] at checked
  · exact .none
  · cases checked
  · cases checked
  · exact .some checked

theorem sameFields_of_agree
    (agrees : AgreeOnFields (fun value other => Value.matchesItem same value other ≠ some false)
      entries others) : entries.sameFields same others ≠ some false := by
  intro differs
  rcases List.exists_of_allM_eq_some_false differs with ⟨field, _, notSame⟩
  have agreed := agrees field
  cases found : entries.lookup field.name <;> cases otherFound : others.lookup field.name <;>
    simp only [found, otherFound] at agreed notSame <;> cases agreed
  · cases notSame
  · rename_i notDifferent
    exact notDifferent notSame

namespace AgreeOnFields

theorem swap (agrees : AgreeOnFields agree entries others) :
    AgreeOnFields (fun other value => agree value other) others entries := by
  intro field
  have agreed := agrees field
  cases found : entries.lookup field.name <;> cases otherFound : others.lookup field.name <;>
    rw [found, otherFound] at agreed <;> cases agreed
  · exact .none
  · rename_i related
    exact .some related

theorem exists_of_lookup (agrees : AgreeOnFields agree entries others)
    (areFields : entries.areFields = true) {key : String} {value : Value}
    (found : entries.lookup key = some value) :
    ∃ other, others.lookup key = some other ∧ agree value other := by
  rcases Option.isSome_iff_exists.1 (List.all_eq_true.1 areFields _ (mem_of_lookup found)) with
    ⟨field, named⟩
  obtain rfl := Field.name_of_ofName? named
  have agreed := agrees field
  rw [found] at agreed
  cases otherFound : others.lookup field.name <;> rw [otherFound] at agreed <;> cases agreed
  rename_i other related
  exact ⟨other, rfl, related⟩

theorem length_le (agrees : AgreeOnFields agree entries others) (distinct : entries.Distinct)
    (areFields : entries.areFields = true) : entries.length ≤ others.length := by
  have included : entries.map Prod.fst ⊆ others.map Prod.fst := by
    refine names_subset fun key value found => ?_
    rcases agrees.exists_of_lookup areFields found with ⟨other, otherFound, _⟩
    exact ⟨other, otherFound⟩
  have bound := (distinct.subperm included).length_le
  rwa [List.length_map, List.length_map] at bound

/-- Entries that all belong to fields are equal when the fields are. -/
theorem same_ne_false
    (agrees : AgreeOnFields (fun value other => Value.matchesItem same value other ≠ some false)
      entries others)
    (distinct : entries.Distinct) (othersDistinct : others.Distinct)
    (areFields : entries.areFields = true) (othersAreFields : others.areFields = true) :
    entries.same same others ≠ some false := by
  apply same_of_matches
  · exact Nat.le_antisymm (agrees.length_le distinct areFields)
      (agrees.swap.length_le othersDistinct othersAreFields)
  · intro key value member
    exact agrees.exists_of_lookup areFields (lookup_of_mem distinct member)

end AgreeOnFields

end Entries

theorem Consistent.agreeOnFields (consistent : Consistent among (Value.matchesItem same))
    (entriesAmong : entries.Among among) (othersAmong : others.Among among)
    (lastsAmong : lasts.Among among)
    (first : Entries.AgreeOnFields
      (fun value other => Value.matchesItem same value other = some true) entries others)
    (second : Entries.AgreeOnFields
      (fun value other => Value.matchesItem same value other = some true) others lasts) :
    Entries.AgreeOnFields (fun value other => Value.matchesItem same value other ≠ some false)
      entries lasts := by
  intro field
  have firstAgreed := first field
  have secondAgreed := second field
  cases found : entries.lookup field.name <;> cases otherFound : others.lookup field.name <;>
    rw [found, otherFound] at firstAgreed <;> cases firstAgreed <;>
    cases lastFound : lasts.lookup field.name <;>
    rw [otherFound, lastFound] at secondAgreed <;> cases secondAgreed
  · exact .none
  · rename_i firstSame _ secondSame
    exact .some (consistent _ _ _ (entriesAmong _ _ (Entries.mem_of_lookup found))
      (othersAmong _ _ (Entries.mem_of_lookup otherFound))
      (lastsAmong _ _ (Entries.mem_of_lookup lastFound)) firstSame secondSame)

end Fields

namespace Store

/-- How a comparison of two forms ends. -/
inductive FormComparison (store : Store) (same : Value → Value → Option Bool) (left right : Form) :
    Bool → Prop where
  | hidden (differs : same left.hidden right.hidden = some false) :
      FormComparison store same left right false
  | additional (differs : same left.additional right.additional = some false) :
      FormComparison store same left right false
  | missing (missing : store.records[left.entries]? = none ∨ store.records[right.entries]? = none) :
      FormComparison store same left right false
  | differing {entries others : Entries} (found : store.records[left.entries]? = some entries)
      (otherFound : store.records[right.entries]? = some others)
      (differs : entries.same same others = some false) (areFields : entries.areFields = true)
      (othersAreFields : others.areFields = true) : FormComparison store same left right false
  | records {entries others : Entries} (hidden : same left.hidden right.hidden = some true)
      (additional : same left.additional right.additional = some true)
      (found : store.records[left.entries]? = some entries)
      (otherFound : store.records[right.entries]? = some others)
      (equal : entries.same same others = some true) : FormComparison store same left right true
  | fields {entries others : Entries} {outcome : Bool}
      (hidden : same left.hidden right.hidden = some true)
      (additional : same left.additional right.additional = some true)
      (found : store.records[left.entries]? = some entries)
      (otherFound : store.records[right.entries]? = some others)
      (compared : entries.sameFields same others = some outcome) :
      FormComparison store same left right outcome

variable {store : Store} {left right : Form} {outcome : Bool}

theorem formComparison_of_sameForm (ends : store.sameForm same left right = some outcome) :
    store.FormComparison same left right outcome := by
  simp only [sameForm, Option.bind_eq_bind, Option.bind_eq_some_iff] at ends
  rcases ends with ⟨hiddenSame, hidden, ends⟩
  cases hiddenSame with
  | false =>
      cases ends
      exact .hidden hidden
  | true =>
      rcases Option.bind_eq_some_iff.1 ends with ⟨additionalSame, additional, ends⟩
      cases additionalSame with
      | false =>
          cases ends
          exact .additional additional
      | true =>
          simp only [Bool.not_true, Bool.false_eq_true, if_false] at ends
          cases found : store.records[left.entries]? with
          | none =>
              simp only [found] at ends
              cases ends
              exact .missing (.inl found)
          | some entries =>
              cases otherFound : store.records[right.entries]? with
              | none =>
                  simp only [found, otherFound] at ends
                  cases ends
                  exact .missing (.inr otherFound)
              | some others =>
                  simp only [found, otherFound] at ends
                  rcases Option.bind_eq_some_iff.1 ends with ⟨entriesSame, compared, ends⟩
                  cases entriesSame with
                  | true =>
                      cases ends
                      exact .records hidden additional found otherFound compared
                  | false =>
                      simp only [Bool.false_eq_true, if_false] at ends
                      split at ends
                      · rename_i areFields
                        rw [Bool.and_eq_true] at areFields
                        cases ends
                        exact .differing found otherFound compared areFields.1 areFields.2
                      · exact .fields hidden additional found otherFound ends

/-- What makes two forms equal. -/
theorem sameForm_cases (equal : store.sameForm same left right = some true) :
    same left.hidden right.hidden = some true ∧
      same left.additional right.additional = some true ∧
      ∃ entries others, store.records[left.entries]? = some entries ∧
        store.records[right.entries]? = some others ∧
        (entries.same same others = some true ∨ entries.sameFields same others = some true) := by
  cases formComparison_of_sameForm equal with
  | records hidden additional found otherFound compared =>
      exact ⟨hidden, additional, _, _, found, otherFound, .inl compared⟩
  | fields hidden additional found otherFound compared =>
      exact ⟨hidden, additional, _, _, found, otherFound, .inr compared⟩

/-- What keeps two forms from being different. -/
theorem sameForm_ne_false {entries others : Entries}
    (hidden : same left.hidden right.hidden ≠ some false)
    (additional : same left.additional right.additional ≠ some false)
    (found : store.records[left.entries]? = some entries)
    (otherFound : store.records[right.entries]? = some others)
    (entriesSame : entries.areFields = true → others.areFields = true →
      entries.same same others ≠ some false)
    (fieldsSame : entries.sameFields same others ≠ some false) :
    store.sameForm same left right ≠ some false := by
  intro different
  cases formComparison_of_sameForm different with
  | hidden differs => exact hidden differs
  | additional differs => exact additional differs
  | missing missing =>
      rw [found, otherFound] at missing
      exact missing.elim nofun nofun
  | differing entriesFound othersFound differs areFields othersAreFields =>
      obtain rfl := Option.some_inj.1 (found.symm.trans entriesFound)
      obtain rfl := Option.some_inj.1 (otherFound.symm.trans othersFound)
      exact entriesSame areFields othersAreFields differs
  | fields _ _ entriesFound othersFound compared =>
      obtain rfl := Option.some_inj.1 (found.symm.trans entriesFound)
      obtain rfl := Option.some_inj.1 (otherFound.symm.trans othersFound)
      exact fieldsSame compared

end Store

end Parts

end PoolFees
