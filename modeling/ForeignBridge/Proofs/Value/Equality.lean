import ForeignBridge.Proofs.Foreign.Keys
import ForeignBridge.Proofs.Number.Arithmetic

/-! # Equality of values

Equality of values is a partial equivalence: it is symmetric and transitive, and a value is equal to
itself unless there is a double in it that is not a number. So two equal keys find the same value.
Containers are equal part by part, and each law for a container is the law for its parts.
-/

namespace ForeignBridge

namespace Value

mutual

/-- The doubles in a value, one for each place they stand at, among them those in keys. -/
def doubles : Value → List Double
  | float x => [x]
  | list items => itemDoubles items
  | map pairs => pairDoubles pairs
  | record fields => fieldDoubles fields
  | null | bool _ | int _ | text _ | object _ | function _ => []

/-- The doubles in some items. -/
def itemDoubles : List Value → List Double
  | [] => []
  | item :: rest => item.doubles ++ itemDoubles rest

/-- The doubles in some pairs. -/
def pairDoubles : List (Value × Value) → List Double
  | [] => []
  | (key, value) :: rest => key.doubles ++ value.doubles ++ pairDoubles rest

/-- The doubles in some fields. -/
def fieldDoubles : List (String × Value) → List Double
  | [] => []
  | (_, value) :: rest => value.doubles ++ fieldDoubles rest

end

section Doubles

variable {holds : Double → Prop}

theorem forall_mem_itemDoubles {items : List Value} : (∀ x ∈ itemDoubles items, holds x) ↔
    ∀ item ∈ items, ∀ x ∈ item.doubles, holds x := by
  induction items with
  | nil => simp [itemDoubles]
  | cons item rest ih => rw [itemDoubles, List.forall_mem_append, ih, List.forall_mem_cons]

theorem forall_mem_pairDoubles {pairs : List (Value × Value)} :
    (∀ x ∈ pairDoubles pairs, holds x) ↔
      ∀ pair ∈ pairs, (∀ x ∈ pair.1.doubles, holds x) ∧ ∀ x ∈ pair.2.doubles, holds x := by
  induction pairs with
  | nil => simp [pairDoubles]
  | cons pair rest ih =>
    rw [pairDoubles, List.forall_mem_append, List.forall_mem_append, ih, List.forall_mem_cons]

theorem forall_mem_fieldDoubles {fields : List (String × Value)} :
    (∀ x ∈ fieldDoubles fields, holds x) ↔
      ∀ field ∈ fields, ∀ x ∈ field.2.doubles, holds x := by
  induction fields with
  | nil => simp [fieldDoubles]
  | cons field rest ih => rw [fieldDoubles, List.forall_mem_append, ih, List.forall_mem_cons]

end Doubles

/-! What a value is equal to, kind by kind: containers are equal part by part. -/

theorem equalItems_iff {items others : List Value} : equalItems items others = true ↔
    List.Forall₂ (fun item other => item.equal other = true) items others := by
  induction items generalizing others with
  | nil => cases others <;> simp [equalItems]
  | cons item rest ih => cases others <;> simp [equalItems, ih]

theorem equalPairs_iff {pairs others : List (Value × Value)} : equalPairs pairs others = true ↔
    List.Forall₂ (fun pair other => pair.1.equal other.1 = true ∧ pair.2.equal other.2 = true)
      pairs others := by
  induction pairs generalizing others with
  | nil => cases others <;> simp [equalPairs]
  | cons pair rest ih =>
    obtain ⟨key, value⟩ := pair
    cases others with
    | nil => simp [equalPairs]
    | cons other others =>
      obtain ⟨otherKey, otherValue⟩ := other
      simp [equalPairs, ih]

theorem equalFields_iff {fields others : List (String × Value)} : equalFields fields others = true ↔
    List.Forall₂ (fun field other => field.1 = other.1 ∧ field.2.equal other.2 = true)
      fields others := by
  induction fields generalizing others with
  | nil => cases others <;> simp [equalFields]
  | cons field rest ih =>
    obtain ⟨name, value⟩ := field
    cases others with
    | nil => simp [equalFields]
    | cons other others =>
      obtain ⟨otherName, otherValue⟩ := other
      simp [equalFields, ih]

section Kinds

variable {other : Value}

theorem equal_null_iff : null.equal other = true ↔ null = other := by
  cases other <;> simp [equal]

theorem equal_bool_iff {b : Bool} : (bool b).equal other = true ↔ bool b = other := by
  cases other <;> simp [equal]

theorem equal_int_iff {n : Int64} : (int n).equal other = true ↔ int n = other := by
  cases other <;> simp [equal]

theorem equal_text_iff {s : String} : (text s).equal other = true ↔ text s = other := by
  cases other <;> simp [equal]

theorem equal_object_iff {handle : Handle} :
    (object handle).equal other = true ↔ object handle = other := by
  cases other <;> simp [equal]

theorem equal_function_iff {identity : ℕ} :
    (function identity).equal other = true ↔ function identity = other := by
  cases other <;> simp [equal]

theorem equal_float_iff {x : Double} :
    (float x).equal other = true ↔ ∃ y, other = float y ∧ x.equal y = true := by
  cases other <;> simp [equal]

theorem equal_list_iff {items : List Value} : (list items).equal other = true ↔
    ∃ others, other = list others ∧
      List.Forall₂ (fun item other => item.equal other = true) items others := by
  cases other <;> simp [equal, equalItems_iff]

theorem equal_map_iff {pairs : List (Value × Value)} : (map pairs).equal other = true ↔
    ∃ others, other = map others ∧
      List.Forall₂ (fun pair other => pair.1.equal other.1 = true ∧ pair.2.equal other.2 = true)
        pairs others := by
  cases other <;> simp [equal, equalPairs_iff]

theorem equal_record_iff {fields : List (String × Value)} : (record fields).equal other = true ↔
    ∃ others, other = record others ∧
      List.Forall₂ (fun field other => field.1 = other.1 ∧ field.2.equal other.2 = true)
        fields others := by
  cases other <;> simp [equal, equalFields_iff]

end Kinds

/-! The laws, first of the parts of a container. -/

section Parts

variable {Part : Type} {parts others thirds : List Part} {related : Part → Part → Prop}

/-- Parts are related the other way round if each of them may be turned. -/
private theorem forall₂_symm (all : List.Forall₂ related parts others)
    (each : ∀ part ∈ parts, ∀ other, related part other → related other part) :
    List.Forall₂ related others parts := by
  induction all with
  | nil => exact .nil
  | cons one _ ih =>
    obtain ⟨here, there⟩ := List.forall_mem_cons.mp each
    exact .cons (here _ one) (ih there)

/-- Parts are related through others if each of them may be. -/
private theorem forall₂_trans (first : List.Forall₂ related parts others)
    (second : List.Forall₂ related others thirds) (each : ∀ part ∈ parts, ∀ other third,
      related part other → related other third → related part third) :
    List.Forall₂ related parts thirds := by
  induction first generalizing thirds with
  | nil => exact second
  | cons one _ ih =>
    cases second with
    | cons two rest =>
      obtain ⟨here, there⟩ := List.forall_mem_cons.mp each
      exact .cons (here _ _ one two) (ih rest there)

end Parts

/-- Equality is symmetric. -/
theorem equal_symm {a b : Value} (same : a.equal b = true) : b.equal a = true := by
  induction a using induction generalizing b with
  | null => exact equal_null_iff.mp same ▸ same
  | bool value => exact equal_bool_iff.mp same ▸ same
  | int n => exact equal_int_iff.mp same ▸ same
  | text s => exact equal_text_iff.mp same ▸ same
  | object handle => exact equal_object_iff.mp same ▸ same
  | function identity => exact equal_function_iff.mp same ▸ same
  | float x =>
    obtain ⟨y, rfl, numbers⟩ := equal_float_iff.mp same
    exact equal_float_iff.mpr ⟨x, rfl, Double.equal_symm numbers⟩
  | list items each =>
    obtain ⟨others, rfl, all⟩ := equal_list_iff.mp same
    exact equal_list_iff.mpr ⟨_, rfl, forall₂_symm all fun item member other => each item member⟩
  | map pairs each =>
    obtain ⟨others, rfl, all⟩ := equal_map_iff.mp same
    refine equal_map_iff.mpr ⟨_, rfl, forall₂_symm all fun pair member other one => ?_⟩
    exact ⟨(each pair member).1 one.1, (each pair member).2 one.2⟩
  | record fields each =>
    obtain ⟨others, rfl, all⟩ := equal_record_iff.mp same
    refine equal_record_iff.mpr ⟨_, rfl, forall₂_symm all fun field member other one => ?_⟩
    exact ⟨one.1.symm, each field member one.2⟩

/-- Equality is transitive. -/
theorem equal_trans {a b c : Value} (first : a.equal b = true) (second : b.equal c = true) :
    a.equal c = true := by
  induction a using induction generalizing b c with
  | null => exact equal_null_iff.mp first ▸ second
  | bool value => exact equal_bool_iff.mp first ▸ second
  | int n => exact equal_int_iff.mp first ▸ second
  | text s => exact equal_text_iff.mp first ▸ second
  | object handle => exact equal_object_iff.mp first ▸ second
  | function identity => exact equal_function_iff.mp first ▸ second
  | float x =>
    obtain ⟨y, rfl, one⟩ := equal_float_iff.mp first
    obtain ⟨z, rfl, two⟩ := equal_float_iff.mp second
    exact equal_float_iff.mpr ⟨z, rfl, Double.equal_trans one two⟩
  | list items each =>
    obtain ⟨others, rfl, left⟩ := equal_list_iff.mp first
    obtain ⟨thirds, rfl, right⟩ := equal_list_iff.mp second
    refine equal_list_iff.mpr ⟨_, rfl, forall₂_trans left right ?_⟩
    exact fun item member other third => each item member
  | map pairs each =>
    obtain ⟨others, rfl, left⟩ := equal_map_iff.mp first
    obtain ⟨thirds, rfl, right⟩ := equal_map_iff.mp second
    refine equal_map_iff.mpr ⟨_, rfl, forall₂_trans left right ?_⟩
    exact fun pair member other third one two =>
      ⟨(each pair member).1 one.1 two.1, (each pair member).2 one.2 two.2⟩
  | record fields each =>
    obtain ⟨others, rfl, left⟩ := equal_record_iff.mp first
    obtain ⟨thirds, rfl, right⟩ := equal_record_iff.mp second
    refine equal_record_iff.mpr ⟨_, rfl, forall₂_trans left right ?_⟩
    exact fun field member other third one two =>
      ⟨one.1.trans two.1, each field member one.2 two.2⟩

/-- A value is equal to itself if every double in it is a number. -/
theorem equal_self_iff {value : Value} :
    value.equal value = true ↔ ∀ x ∈ value.doubles, x.isNaN = false := by
  induction value using induction with
  | null => simp [equal, doubles]
  | bool b => simp [equal, doubles]
  | int n => simp [equal, doubles]
  | text s => simp [equal, doubles]
  | object handle => simp [equal, doubles]
  | function identity => simp [equal, doubles]
  | float x => simp [equal, doubles, Double.equal_self_iff]
  | list items each =>
    rw [equal, equalItems_iff, List.forall₂_same, doubles, forall_mem_itemDoubles]
    exact forall₂_congr each
  | map pairs each =>
    rw [equal, equalPairs_iff, List.forall₂_same, doubles, forall_mem_pairDoubles]
    exact forall₂_congr fun pair member => and_congr (each pair member).1 (each pair member).2
  | record fields each =>
    rw [equal, equalFields_iff, List.forall₂_same, doubles, forall_mem_fieldDoubles]
    refine forall₂_congr fun field member => ?_
    rw [each field member, eq_self, true_and]

/-- A value is equal to one of two equal values just when it is equal to the other. -/
theorem equal_congr_right {key left right : Value} (same : left.equal right = true) :
    key.equal left = key.equal right :=
  Bool.eq_iff_iff.mpr ⟨fun one => equal_trans one same,
    fun other => equal_trans other (equal_symm same)⟩

/-- Equal keys find one value. -/
theorem get?_congr {whole left right : Value} (same : left.equal right = true) :
    whole.get? left = whole.get? right := by
  cases whole with
  | map pairs => simp only [get?, equal_congr_right same]
  | record fields =>
    -- Only a text names a field, and a text is equal to itself only.
    cases left with
    | text s => rw [equal_text_iff.mp same]
    | _ =>
      cases right with
      | text s => rw [equal_text_iff.mp (equal_symm same)]
      | _ => rfl
  | _ => rfl

/-- Equality is symmetric and transitive, a value is equal to itself just when every double in it is a
number, and two equal keys find the same value in whatever value. -/
theorem equal_partialEquivalence :
    (∀ a b : Value, a.equal b = true → b.equal a = true) ∧
    (∀ a b c : Value, a.equal b = true → b.equal c = true → a.equal c = true) ∧
    (∀ a : Value, a.equal a = true ↔ ∀ x ∈ a.doubles, x.isNaN = false) ∧
    ∀ whole left right : Value, left.equal right = true → whole.get? left = whole.get? right :=
  ⟨fun _ _ => equal_symm, fun _ _ _ => equal_trans, fun _ => equal_self_iff,
    fun _ _ _ => get?_congr⟩

/-- Keys in which the two zeros stand for each other are equal and find one value, and no map with a NaN
for a key is equal to itself. -/
theorem equal_zeros :
    let negative := list [.text "at", float (.zero true)]
    let positive := list [.text "at", float (.zero false)]
    positive.equal negative = true ∧ negative.equal negative = true ∧
      (map [(float .nan, null)]).equal (map [(float .nan, null)]) = false ∧
      (map [(list [], null), (negative, bool true)]).get? positive = some (bool true) := by
  obtain ⟨symm, trans, self, get⟩ := equal_partialEquivalence
  have same : (list [.text "at", float (.zero true)]).equal (list [.text "at", float (.zero false)]) =
      true := by decide +kernel
  have own := trans _ _ _ same (symm _ _ same)
  refine ⟨symm _ _ same, own, ?_, ?_⟩
  · refine Bool.eq_false_iff.mpr fun equal => ?_
    exact absurd ((self _).mp equal .nan List.mem_cons_self) (by decide)
  · have other : (list []).equal (list [text "at", float (.zero true)]) = false := by
      decide +kernel
    rw [← get _ _ _ same]
    simp only [get?, List.find?_cons, other, own, Option.map_some]

end Value

end ForeignBridge
