import PoolFees.Proofs.Form.Filling
import PoolFees.Proofs.Json.Compact

/-!
# Filling forms from documents

A document can name each field in one of two ways and give its amount in one of two ways, and its
members can come in any order. `Field.Writes` has the ways to write one member, independently of the
other members.

What is read from such a document is a record with one entry for each field, whose keys are distinct
because no external name is the name of a field. So the record gives every field, and the form is
filled with the amounts that were written.
-/

namespace PoolFees

namespace Entries

theorem put_of_fresh {entries : Entries} {name : String} (fresh : name ∉ entries.map Prod.fst)
    (value : Value) : entries.put name value = entries ++ [(name, value)] := by
  induction entries with
  | nil => rfl
  | cons entry rest ih =>
      rcases entry with ⟨other, content⟩
      simp only [List.map_cons, List.mem_cons, not_or] at fresh
      have differs : other ≠ name := Ne.symm fresh.1
      simp only [put, differs, if_false, ih fresh.2, List.cons_append]

end Entries

namespace Json

/-- The members of an object whose keys are distinct make one entry each. -/
theorem toRecord_of_distinct {entries : Entries} {members : List (String × Json)}
    (distinct : (entries.map Prod.fst ++ members.map Prod.fst).Nodup) :
    toRecord entries members = entries ++ members.map fun (key, value) => (key, value.toValue) := by
  induction members generalizing entries with
  | nil => simp [toRecord]
  | cons member rest ih =>
      rcases member with ⟨key, value⟩
      have fresh : key ∉ entries.map Prod.fst := by
        intro known
        exact List.nodup_append.1 distinct |>.2.2 key known key List.mem_cons_self rfl
      rw [toRecord, Entries.put_of_fresh fresh, ih]
      · simp
      · simpa using distinct

end Json

namespace Field

theorem externalName_injective : Function.Injective externalName := by
  intro one other same
  have separate : ∀ one ∈ all, ∀ other ∈ all, one.externalName = other.externalName →
      one = other := by decide
  exact separate one (mem_all one) other (mem_all other) same

theorem externalName_ne_name (one other : Field) : one.externalName ≠ other.name := by
  have separate : ∀ one ∈ all, ∀ other ∈ all, one.externalName ≠ other.name := by decide
  exact separate one (mem_all one) other (mem_all other)

/-- One of the two names of each field. -/
def IsKey (key : Field → String) : Prop :=
  ∀ field, key field = field.externalName ∨ key field = field.name

variable {key : Field → String} {content : Field → Value} {fields : List Field} {field : Field}

theorem IsKey.injective (isKey : IsKey key) : Function.Injective key := by
  intro one other same
  rcases isKey one with oneKey | oneKey <;> rcases isKey other with otherKey | otherKey
  · exact externalName_injective (oneKey.symm.trans (same.trans otherKey))
  · exact absurd (oneKey.symm.trans (same.trans otherKey)) (externalName_ne_name one other)
  · exact absurd (otherKey.symm.trans (same.symm.trans oneKey)) (externalName_ne_name other one)
  · exact name_injective (oneKey.symm.trans (same.trans otherKey))

/-- A record with one entry for each field, under one of the names of the field, gives it. -/
theorem gives_of_keys {amount : UInt64} (isKey : IsKey key) (listed : field ∈ fields)
    (accepted : Amount.ofValue (content field) = .ok amount) :
    Gives (fields.map fun field => (key field, content field)) field amount := by
  have found := Field.lookup_key isKey.injective content listed
  refine ⟨key field, content field, ?_, found, accepted⟩
  rcases isKey field with isExternal | isOwn
  · rw [isExternal] at found
    simp only [key?, List.find?, found, Option.isSome_some, isExternal]
  · have absent : (fields.map fun field => (key field, content field)).lookup field.externalName =
        none := by
      rw [List.lookup_eq_none_iff]
      intro entry member
      rcases List.mem_map.1 member with ⟨other, _, rfl⟩
      rw [bne_iff_ne]
      intro same
      rcases isKey other with otherKey | otherKey
      · have fields_eq := externalName_injective (same.trans otherKey)
        subst fields_eq
        exact externalName_ne_name field field (otherKey.symm.trans isOwn)
      · exact externalName_ne_name field other (same.trans otherKey)
    rw [isOwn] at found
    simp only [key?, List.find?, absent, found, Option.isSome_none, Option.isSome_some, isOwn]

/-- The ways to write a field that has an amount as a member of a document: under its external name
or its own, and as an integer or as the text of its digits. -/
def Writes (field : Field) (amount : UInt64) (written : String) : Prop :=
  ∃ key value, written.toList = key ++ ':' :: value ∧
    (Json.IsText key field.externalName ∨ Json.IsText key field.name) ∧
    (Json.IsInteger value amount.toNat ∨ Json.IsText value (Numeral.write amount.toNat))

end Field

namespace Json

theorem IsInteger.short {written : List Char} {amount : UInt64}
    (isInteger : IsInteger written amount.toNat) : written.length ≤ Numeral.maxDigits := by
  have few : (Numeral.digits amount.toNat).length ≤ 20 := by
    rw [Numeral.digits, Nat.length_toDigits_le_iff (by decide) (by decide)]
    exact Nat.lt_of_lt_of_le amount.toNat_lt (by decide)
  have limit : Numeral.maxDigits = 4300 := rfl
  -- A minus sign, which only zero can have here, counts towards the limit.
  rcases isInteger with ⟨_, rfl⟩ | ⟨_, rfl⟩
  · simp only [Int.natAbs_natCast]
    omega
  · simp only [Int.natAbs_natCast, List.length_cons]
    omega

end Json

theorem Field.Writes.member {field : Field} {amount : UInt64} {written : String}
    (writes : field.Writes amount written) :
    ∃ key value, (key = field.externalName ∨ key = field.name) ∧
      Amount.ofValue (Json.toValue value) = .ok amount ∧
      Json.WritesMember written.toList (key, value) := by
  rcases writes with ⟨keyText, valueText, written_eq, isKey, isAmount⟩
  have scalar : ∃ value, Amount.ofValue (Json.toValue value) = .ok amount ∧
      Json.WritesScalar valueText value := by
    rcases isAmount with isInteger | isText
    · exact ⟨.whole amount.toNat, Amount.ofInt_amount _ amount, .whole isInteger isInteger.short⟩
    · exact ⟨.text (Numeral.write amount.toNat), Amount.ofValue_write amount, .text isText⟩
  rcases scalar with ⟨value, accepted, writesValue⟩
  rcases isKey with isText | isText
  · exact ⟨field.externalName, value, .inl rfl, accepted, keyText, valueText, written_eq, isText,
      writesValue⟩
  · exact ⟨field.name, value, .inr rfl, accepted, keyText, valueText, written_eq, isText,
      writesValue⟩

namespace Form

/-- A compact object with one member for each field. -/
def compactText (member : Field → String) (order : List Field) : String :=
  "\x7b" ++ ",".intercalate (order.map member) ++ "\x7d"

variable {amounts : Field → UInt64} {order : List Field} {member : Field → String}

theorem ofRecord_of_keys {key : Field → String} {content : Field → Value}
    (complete : order.Perm Field.all) (isKey : Field.IsKey key)
    (accepted : ∀ field, Amount.ofValue (content field) = .ok (amounts field)) :
    ofRecord (order.map fun field => (key field, content field)) = .ok (entriesOf amounts) := by
  apply ofRecord_of_gives
  intro field
  exact Field.gives_of_keys isKey (complete.mem_iff.2 (Field.mem_all field)) (accepted field)

theorem ofText_of_writes (complete : order.Perm Field.all)
    (writes : ∀ field : Field, field.Writes (amounts field) (member field)) :
    ofText (compactText member order) = .ok (entriesOf amounts) := by
  have members : ∀ field : Field, ∃ pair : String × Json,
      (pair.1 = field.externalName ∨ pair.1 = field.name) ∧
        Amount.ofValue pair.2.toValue = .ok (amounts field) ∧
        Json.WritesMember (member field).toList pair := by
    intro field
    rcases (writes field).member with ⟨key, value, isKey, accepted, writesMember⟩
    exact ⟨(key, value), isKey, accepted, writesMember⟩
  rcases Classical.axiomOfChoice members with ⟨pair, pairs⟩
  have isKey : Field.IsKey fun field => (pair field).1 := fun field => (pairs field).1
  have someFields : order ≠ [] := by
    rintro rfl
    exact absurd complete.length_eq (by decide)
  have text_eq : (compactText member order).toList =
      '{' :: (List.intercalate [','] (order.map fun field => (member field).toList) ++ ['}']) := by
    simp [compactText, String.toList_intercalate, List.map_map, Function.comp_def]
  have read : Json.read? (compactText member order) = some (.object (order.map pair)) := by
    rw [Json.read?, text_eq]
    exact Json.readChars?_of_members someFields fun field => (pairs field).2.2
  -- No member replaces another one, so the order of the members is that of the entries.
  have distinct : (([] : Entries).map Prod.fst ++ (order.map pair).map Prod.fst).Nodup := by
    rw [List.map_nil, List.nil_append, List.map_map]
    have separate : order.Nodup := complete.nodup_iff.2 (by decide)
    exact List.Pairwise.map _ (fun _ _ differ => isKey.injective.ne differ) separate
  simp only [ofText, Validation.readText, read, Json.toValue, Json.toRecord_of_distinct distinct,
    List.nil_append, List.map_map]
  exact ofRecord_of_keys complete isKey fun field => (pairs field).2.1

end Form

namespace FormOperation

theorem perform_fillText_of_read {store : Store} {text : String} {entries : Entries}
    (read : Form.ofText text = .ok entries) :
    perform store fillText [.text text] =
      .update (store.addForm entries) (.form store.forms.length) := by
  simp only [perform, read, keep]

/-- A compact object with one member for each field fills a form with the amounts that it writes,
and the schedule of the form has these amounts. -/
theorem perform_compactText {amounts : Field → UInt64} {order : List Field}
    {member : Field → String} (complete : order.Perm Field.all)
    (writes : ∀ field : Field, field.Writes (amounts field) (member field)) (store : Store) :
    let filled := store.addForm (Form.entriesOf amounts)
    perform store fillText [.text (Form.compactText member order)] =
      .update filled (.form store.forms.length) ∧
    (∀ field, filled.fieldValue store.forms.length field = .ok (.whole (amounts field).toNat)) ∧
    ∃ schedule, perform filled toSchedule [.form store.forms.length] =
      .answer filled (.ok (.schedule schedule [])) ∧
      ∀ field, schedule.get field = amounts field := by
  refine ⟨?_, ?_, Schedule.ofFields amounts, ?_, ?_⟩
  · exact perform_fillText_of_read (Form.ofText_of_writes complete writes)
  · intro field
    exact Store.fieldValue_addForm store amounts field
  · simp only [perform, entriesOf, Store.entries?_addForm_new, Bind.bind, Except.bind,
      Form.toSchedule_entriesOf, Except.map]
  · intro field
    exact Schedule.get_ofFields amounts field

/-- The members may come in any order, numerators as integers under the external names and
denominators as texts under the own names. -/
theorem perform_mixedText :
    perform .empty fillText [.text (
        "\x7b\"withdraw_fee_denominator\":\"18446744073709551615\"," ++
        "\"withdrawFeeNumerator\":25," ++
        "\"trade_fee_denominator\":\"18446744073709551615\"," ++
        "\"tradeFeeNumerator\":25," ++
        "\"admin_withdraw_fee_denominator\":\"18446744073709551615\"," ++
        "\"adminWithdrawFeeNumerator\":25," ++
        "\"admin_trade_fee_denominator\":\"18446744073709551615\"," ++
        "\"adminTradeFeeNumerator\":25\x7d")] =
      .update (Store.empty.addForm (Form.entriesOf fun field =>
        match field.part with
        | .numerator => 25
        | .denominator => 18446744073709551615)) (.form 0) := by
  have writes : ∀ field : Field, field.Writes
      (match field.part with
        | .numerator => 25
        | .denominator => 18446744073709551615)
      (match field.part with
        | .numerator => "\"" ++ field.externalName ++ "\":25"
        | .denominator => "\"" ++ field.name ++ "\":\"18446744073709551615\"") := by
    rintro ⟨fee, part⟩
    cases part with
    | numerator =>
        refine ⟨Json.quote _, Numeral.digits 25, ?_, .inl (Json.isText_quote _),
          .inl (.inl ⟨Int.natCast_nonneg _, rfl⟩)⟩
        cases fee <;> decide
    | denominator =>
        refine ⟨Json.quote _, Json.quote (Numeral.write 18446744073709551615), ?_,
          .inr (Json.isText_quote _), .inr (Json.isText_quote _)⟩
        cases fee <;> decide
  have performs := perform_compactText (List.reverse_perm Field.all) writes .empty
  refine Eq.trans (congrArg (fun text => perform .empty fillText [.text text]) ?_) performs.1
  decide +kernel

end FormOperation

end PoolFees
