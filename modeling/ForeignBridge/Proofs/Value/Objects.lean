import ForeignBridge.Proofs.Fields
import ForeignBridge.Value.Document
import Mathlib.Data.List.Basic

/-! # The objects in a value

The objects in a container are those in its parts, and the value of a document has none.
-/

namespace ForeignBridge.Value

theorem itemObjects_eq (items : List Value) : itemObjects items = items.flatMap objects := by
  induction items with
  | nil => rfl
  | cons item rest ih => rw [itemObjects, ih, List.flatMap_cons]

theorem pairObjects_eq (pairs : List (Value × Value)) :
    pairObjects pairs = pairs.flatMap fun pair => pair.1.objects ++ pair.2.objects := by
  induction pairs with
  | nil => rfl
  | cons pair rest ih => rw [pairObjects, ih, List.flatMap_cons]

theorem fieldObjects_eq (fields : List (String × Value)) :
    fieldObjects fields = fields.flatMap fun field => field.2.objects := by
  induction fields with
  | nil => rfl
  | cons field rest ih => rw [fieldObjects, ih, List.flatMap_cons]

variable {lent : List Handle}

theorem itemObjects_subset {items : List Value} :
    itemObjects items ⊆ lent ↔ ∀ item ∈ items, item.objects ⊆ lent := by
  rw [itemObjects_eq]
  simp only [List.subset_def, List.mem_flatMap, forall_exists_index, and_imp]
  exact forall_comm.trans (forall_congr' fun _ => forall_comm)

theorem pairObjects_subset {pairs : List (Value × Value)} :
    pairObjects pairs ⊆ lent ↔
      ∀ pair ∈ pairs, pair.1.objects ⊆ lent ∧ pair.2.objects ⊆ lent := by
  rw [pairObjects_eq]
  simp only [List.subset_def, List.mem_flatMap, forall_exists_index, and_imp, List.mem_append]
  constructor
  · exact fun part pair member => ⟨fun found => part pair member (.inl found),
      fun found => part pair member (.inr found)⟩
  · exact fun part _ pair member found => found.elim (@(part pair member).1 _)
      (@(part pair member).2 _)

theorem fieldObjects_subset {fields : List (String × Value)} :
    fieldObjects fields ⊆ lent ↔ ∀ field ∈ fields, field.2.objects ⊆ lent := by
  rw [fieldObjects_eq]
  simp only [List.subset_def, List.mem_flatMap, forall_exists_index, and_imp]
  exact forall_comm.trans (forall_congr' fun _ => forall_comm)

/-- What is under a key in a value is a part of it. -/
theorem objects_get? {value key found : Value} (same : value.get? key = some found) :
    found.objects ⊆ value.objects := by
  unfold get? at same
  split at same
  · obtain ⟨pair, first, rfl⟩ := Option.map_eq_some_iff.mp same
    exact (pairObjects_subset.mp (List.Subset.refl _) pair (List.mem_of_find?_eq_some first)).2
  · exact fieldObjects_subset.mp (List.Subset.refl _) _ (mem_of_lookup same)
  · cases same

/-! Documents. -/

theorem objects_ofNumber (x : Double) : (ofNumber x).objects = [] := by
  unfold ofNumber
  split <;> rfl

mutual

/-- A value of a document has no objects in it. -/
theorem objects_ofJson (json : Json) : (ofJson json).objects = [] := by
  cases json with
  | null | bool b | string s => rfl
  | integer n =>
    rw [ofJson_integer]
    split
    · rfl
    · exact objects_ofNumber _
  | float x => exact objects_ofNumber x
  | array items => exact itemObjects_ofItems items
  | object members => exact fieldObjects_ofMembers members

theorem itemObjects_ofItems (items : List Json) : itemObjects (ofItems items) = [] := by
  cases items with
  | nil => rfl
  | cons item rest => rw [ofItems, itemObjects, objects_ofJson, itemObjects_ofItems]; rfl

theorem fieldObjects_ofMembers (members : List (String × Json)) :
    fieldObjects (ofMembers members) = [] := by
  cases members with
  | nil => rfl
  | cons member rest =>
    rw [ofMembers, fieldObjects, objects_ofJson, fieldObjects_ofMembers]
    rfl

end

end ForeignBridge.Value
