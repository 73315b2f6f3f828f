import Mathlib.Data.List.Forall2
import PoolFees.Validation.Reading

/-!
# What is read and what is reported

Here is what holds of the readers whatever is declared: the fields and the validator are those of
the reader. Several checks are accepted together exactly when none of them complains.

Of a list this is known item by item. When all items are accepted, the results stand in the order of
the items. Otherwise each item that is refused is reported once, at the position where it stands,
and the complaints follow the order of these positions: an item that is refused neither moves the
items behind it nor hides what is wrong with them.
-/

namespace PoolFees

/-- When exactly what is kept of a list leads to a result, what is kept and the results go together
one by one. -/
theorem forall₂_filter_filterMap {α β : Type} {relation : α → β → Prop} {keeps : α → Bool}
    {result? : α → Option β} {items : List α}
    (leads : ∀ item ∈ items, keeps item = true →
      ∃ result, result? item = some result ∧ relation item result)
    (ends : ∀ item ∈ items, keeps item = false → result? item = none) :
    List.Forall₂ relation (items.filter keeps) (items.filterMap result?) := by
  induction items with
  | nil => exact .nil
  | cons item rest ih =>
      rw [List.forall_mem_cons] at leads ends
      have related := ih leads.2 ends.2
      cases kept : keeps item with
      | true =>
          rcases leads.1 kept with ⟨result, present, holds⟩
          rw [List.filter_cons_of_pos kept, List.filterMap_cons_some present]
          exact .cons holds related
      | false =>
          have notKept : ¬keeps item = true := Bool.eq_false_iff.1 kept
          rw [List.filter_cons_of_neg notKept, List.filterMap_cons_none (ends.1 kept)]
          exact related

namespace Validation

variable {α : Type} {title key : String}

theorem collect_of_silent {outcomes : List (Except Complaint α)}
    (silent : complaintsOf outcomes = []) :
    collect title outcomes = .ok (accepted outcomes) := by
  rw [collect, silent]

theorem collect_of_complaints {outcomes : List (Except Complaint α)}
    (complains : complaintsOf outcomes ≠ []) :
    collect title outcomes = .error ⟨title, complaintsOf outcomes⟩ := by
  unfold collect
  split
  · rename_i silent
    exact absurd silent complains
  · rfl

variable {validate : Value → Except ComplaintCause α} {items : List Value} {item : Value}
  {position : Nat}

/-- A value is refused by a validator. -/
def isRefused (validate : Value → Except ComplaintCause α) (value : Value) : Bool :=
  (validate value).toOption.isNone

theorem isRefused_iff :
    isRefused validate item = true ↔ ∃ cause, validate item = .error cause := by
  unfold isRefused
  cases validate item <;> simp [Except.toOption]

theorem not_isRefused_iff :
    isRefused validate item = false ↔ ∃ result, validate item = .ok result := by
  unfold isRefused
  cases validate item <;> simp [Except.toOption]

/-- The items of a list that are refused, each with its position. -/
def refusals (validate : Value → Except ComplaintCause α) (items : List Value) :
    List (Value × Nat) :=
  items.zipIdx.filter fun placed => isRefused validate placed.1

theorem mem_refusals_iff : (item, position) ∈ refusals validate items ↔
    items[position]? = some item ∧ isRefused validate item = true := by
  rw [refusals, List.mem_filter, List.mem_zipIdx_iff_getElem?]

theorem refusals_increase (validate : Value → Except ComplaintCause α) (items : List Value) :
    ((refusals validate items).map Prod.snd).Pairwise (· < ·) := by
  have increase : (items.zipIdx.map Prod.snd).Pairwise (· < ·) := by
    rw [List.zipIdx_map_snd]
    exact List.pairwise_lt_range' 1
  rw [refusals, List.pairwise_map]
  exact (List.pairwise_map.1 increase).filter _

/-- The complaints about a list go together with the items that are refused. -/
theorem complaintsOf_items (key : String) (validate : Value → Except ComplaintCause α)
    (items : List Value) :
    List.Forall₂ (fun placed complaint => items[placed.2]? = some placed.1 ∧
        ∃ cause, validate placed.1 = .error cause ∧
          complaint = ⟨[.key key, .index placed.2], cause⟩)
      (refusals validate items) (complaintsOf (items.mapIdx (readItem key validate))) := by
  -- The items are numbered before any of them is dropped, so the positions are those in the list.
  rw [refusals, complaintsOf, List.mapIdx_eq_zipIdx_map, List.filterMap_map]
  apply forall₂_filter_filterMap
  · rintro ⟨item, position⟩ member refused
    rcases isRefused_iff.1 refused with ⟨cause, read⟩
    exact ⟨_, by simp only [Function.comp_apply, readItem, read, Except.mapError],
      List.mem_zipIdx_iff_getElem?.1 member, cause, read, rfl⟩
  · rintro ⟨item, position⟩ _ accepts
    rcases not_isRefused_iff.1 accepts with ⟨result, read⟩
    simp only [Function.comp_apply, readItem, read, Except.mapError]

/-- What is accepted of a list is what its items are accepted as, in their order. -/
theorem accepted_items (key : String) (validate : Value → Except ComplaintCause α)
    (items : List Value) :
    List.Forall₂ (fun item result => validate item = .ok result)
      (items.filter fun item => !isRefused validate item)
      (accepted (items.mapIdx (readItem key validate))) := by
  have readItem_eq : ∀ placed : Value × Nat,
      (readItem key validate placed.2 placed.1).toOption = (validate placed.1).toOption := by
    rintro ⟨item, position⟩
    rw [readItem]
    cases validate item <;> rfl
  have accepted_eq : accepted (items.mapIdx (readItem key validate)) =
      items.filterMap fun item => (validate item).toOption := by
    calc accepted (items.mapIdx (readItem key validate))
        = items.zipIdx.filterMap fun placed =>
            (readItem key validate placed.2 placed.1).toOption := by
          rw [accepted, List.mapIdx_eq_zipIdx_map, List.filterMap_map]
          rfl
      _ = (items.zipIdx.map Prod.fst).filterMap fun item => (validate item).toOption := by
          simp only [readItem_eq, List.filterMap_map, Function.comp_def]
      _ = items.filterMap fun item => (validate item).toOption := by rw [List.zipIdx_map_fst]
  rw [accepted_eq]
  apply forall₂_filter_filterMap
  · intro item _ kept
    rw [Bool.not_eq_true'] at kept
    rcases not_isRefused_iff.1 kept with ⟨result, read⟩
    exact ⟨result, by rw [read]; rfl, read⟩
  · intro item _ skipped
    rw [Bool.not_eq_false'] at skipped
    rcases isRefused_iff.1 skipped with ⟨cause, read⟩
    rw [read]
    rfl

theorem readList_of_accepted (origin : Origin)
    (accepts : ∀ item ∈ items, isRefused validate item = false) :
    ∃ results, List.Forall₂ (fun item result => validate item = .ok result) items results ∧
      readList title key validate (.list items origin) = .ok results := by
  have noRefusals : refusals validate items = [] := by
    rw [List.eq_nil_iff_forall_not_mem]
    rintro ⟨item, position⟩ member
    rcases mem_refusals_iff.1 member with ⟨found, refused⟩
    rw [accepts item (List.mem_of_getElem? found)] at refused
    cases refused
  have silent : complaintsOf (items.mapIdx (readItem key validate)) = [] := by
    have together := complaintsOf_items key validate items
    rwa [noRefusals, List.forall₂_nil_left_iff] at together
  have allKept : (items.filter fun item => !isRefused validate item) = items := by
    rw [List.filter_eq_self]
    intro item member
    rw [accepts item member]
    rfl
  have results := accepted_items key validate items
  rw [allKept] at results
  exact ⟨_, results, collect_of_silent silent⟩

theorem readList_of_refused (origin : Origin)
    (refused : ∃ item ∈ items, isRefused validate item = true) :
    readList title key validate (.list items origin) =
      .error ⟨title, complaintsOf (items.mapIdx (readItem key validate))⟩ := by
  rcases refused with ⟨item, member, refused⟩
  rcases List.mem_iff_getElem?.1 member with ⟨position, found⟩
  have isRefusal := mem_refusals_iff.2 ⟨found, refused⟩
  -- The item that is refused has a complaint, so there are some.
  have together := complaintsOf_items key validate items
  apply collect_of_complaints
  intro silent
  rw [silent, List.forall₂_nil_right_iff] at together
  rw [together] at isRefusal
  cases isRefusal

end Validation

end PoolFees
