import ForeignBridge.Fields
import Mathlib.Data.List.Induction
import Mathlib.Data.List.Nodup
import Mathlib.Data.List.Perm.Basic

/-! # Entries and fields

An entry that is looked up is the only one with its key, if no key is there twice. Fields are kept in
the order of their names, each name once; a field takes the place of the one with the same name, and of
no other.
-/

namespace ForeignBridge

variable {κ α : Type} [BEq κ] [LawfulBEq κ] {entries : List (κ × α)} {key : κ} {value : α}

/-- An entry that is looked up is one of the entries. -/
theorem mem_of_lookup (found : entries.lookup key = some value) : (key, value) ∈ entries := by
  obtain ⟨before, after, same, _⟩ := List.lookup_eq_some_iff.mp found
  rw [same]
  exact List.mem_append_right _ (List.mem_cons_self ..)

/-- An entry that is looked up stands between the others. -/
theorem split_of_lookup (unique : (entries.map (·.1)).Nodup)
    (found : entries.lookup key = some value) :
    ∃ before after, entries = before ++ (key, value) :: after ∧
      entries.filter (·.1 != key) = before ++ after := by
  obtain ⟨before, after, same, absent⟩ := List.lookup_eq_some_iff.mp found
  refine ⟨before, after, same, ?_⟩
  rw [same, List.map_append, List.map_cons, List.nodup_middle, List.nodup_cons,
    ← List.map_append] at unique
  have others : ∀ entry ∈ before ++ after, (entry.1 != key) = true := by
    intro entry member
    rw [bne_iff_ne]
    rintro rfl
    exact unique.1 (List.mem_map.mpr ⟨entry, member, rfl⟩)
  rw [same, List.filter_append, List.filter_cons, if_neg (by simp), ← List.filter_append,
    List.filter_eq_self.mpr others]

namespace Fields

/-- Fields in the order of their names, each name once. -/
def Ascending (fields : List (String × α)) : Prop := fields.Pairwise (·.1 < ·.1)

private theorem lt_of_not_lt {a b : String} (notLess : ¬ a < b) (apart : a ≠ b) : b < a := by
  by_contra less
  exact apart (String.le_antisymm (String.not_lt.mp less) (String.not_lt.mp notLess))

theorem mem_insert {name : String} {value : α} {fields : List (String × α)} {field : String × α}
    (member : field ∈ insert name value fields) : field = (name, value) ∨ field ∈ fields := by
  induction fields with
  | nil => exact .inl (List.mem_singleton.mp member)
  | cons first rest ih =>
    obtain ⟨other, old⟩ := first
    rw [insert] at member
    split at member
    · exact List.mem_cons.mp member
    · split at member
      · exact (List.mem_cons.mp member).imp_right (List.mem_cons_of_mem _)
      · obtain rfl | member := List.mem_cons.mp member
        · exact .inr (List.mem_cons_self ..)
        · exact (ih member).imp_right (List.mem_cons_of_mem _)

theorem ascending_insert (name : String) (value : α) {fields : List (String × α)}
    (ascending : Ascending fields) : Ascending (insert name value fields) := by
  induction fields with
  | nil => exact List.pairwise_singleton ..
  | cons first rest ih =>
    obtain ⟨other, old⟩ := first
    obtain ⟨above, later⟩ := List.pairwise_cons.mp ascending
    rw [insert]
    split
    · rename_i less
      refine List.pairwise_cons.mpr ⟨fun field member => ?_, ascending⟩
      obtain rfl | member := List.mem_cons.mp member
      · exact less
      · exact String.lt_trans less (above field member)
    · rename_i notLess
      split
      · rename_i same
        subst same
        exact List.pairwise_cons.mpr ⟨above, later⟩
      · rename_i apart
        refine List.pairwise_cons.mpr ⟨fun field member => ?_, ih later⟩
        obtain rfl | member := mem_insert member
        · exact lt_of_not_lt notLess apart
        · exact above field member

/-- However pairs come, the fields that they make are in order. -/
theorem ascending_ofList (pairs : List (String × α)) : Ascending (ofList pairs) := by
  have fold (start : List (String × α)) (ascending : Ascending start) :
      Ascending (pairs.foldl (fun fields pair => insert pair.1 pair.2 fields) start) := by
    induction pairs generalizing start with
    | nil => exact ascending
    | cons pair rest ih => exact ih _ (ascending_insert pair.1 pair.2 ascending)
  exact fold [] .nil

theorem mem_ofList {pairs : List (String × α)} {field : String × α}
    (member : field ∈ ofList pairs) : field ∈ pairs := by
  have fold (start : List (String × α)) :
      field ∈ pairs.foldl (fun fields pair => insert pair.1 pair.2 fields) start →
        field ∈ start ∨ field ∈ pairs := by
    clear member
    induction pairs generalizing start with
    | nil => exact .inl
    | cons pair rest ih =>
      intro member
      obtain early | late := ih _ member
      · exact (mem_insert early).symm.imp_right fun same => List.mem_cons.mpr (.inl same)
      · exact .inr (List.mem_cons_of_mem _ late)
  exact (fold [] member).resolve_left List.not_mem_nil

/-- A field goes in at the same place, whatever the values are. -/
theorem insert_map {β : Type} (change : α → β) (name : String) (value : α)
    (fields : List (String × α)) :
    insert name (change value) (fields.map fun field => (field.1, change field.2)) =
      (insert name value fields).map fun field => (field.1, change field.2) := by
  induction fields with
  | nil => rfl
  | cons first rest ih =>
    simp only [List.map_cons, insert, ih]
    split
    · rfl
    · split <;> rfl

/-- A field whose name comes after all others goes to the end. -/
theorem insert_of_last {name : String} {value : α} {fields : List (String × α)}
    (last : ∀ field ∈ fields, field.1 < name) :
    insert name value fields = fields ++ [(name, value)] := by
  induction fields with
  | nil => rfl
  | cons first rest ih =>
    obtain ⟨below, last⟩ := List.forall_mem_cons.mp last
    have apart : name ≠ first.1 := by
      rintro rfl
      exact String.lt_irrefl _ below
    rw [insert, if_neg (String.lt_asymm below), if_neg apart, ih last, List.cons_append]

/-- Fields that are in order stay as they are. -/
theorem ofList_of_ascending {fields : List (String × α)} (ascending : Ascending fields) :
    ofList fields = fields := by
  have fold (done rest : List (String × α)) (ascending : Ascending (done ++ rest)) :
      rest.foldl (fun fields pair => insert pair.1 pair.2 fields) done = done ++ rest := by
    induction rest generalizing done with
    | nil => rw [List.foldl_nil, List.append_nil]
    | cons field rest ih =>
      have last := (List.pairwise_append.mp ascending).2.2
      rw [List.foldl_cons, insert_of_last fun other member => last other member field (List.mem_cons_self ..),
        ih _ (by rwa [List.append_assoc, List.singleton_append]), List.append_assoc,
        List.singleton_append]
  exact fold [] fields ascending

/-- A value takes the place of the one of the same name, if there is one. -/
theorem insert_perm {name : String} {value : α} {fields : List (String × α)}
    (ascending : Ascending fields) :
    ((fields.lookup name).toList ++ (insert name value fields).map (·.2)).Perm
      ([value] ++ fields.map (·.2)) := by
  induction fields with
  | nil => exact .refl _
  | cons first rest ih =>
    obtain ⟨other, old⟩ := first
    obtain ⟨above, later⟩ := List.pairwise_cons.mp ascending
    rw [insert]
    split
    · rename_i less
      have absent : List.lookup name ((other, old) :: rest) = none := by
        refine List.lookup_eq_none_iff.mpr fun field member => bne_iff_ne.mpr ?_
        rintro rfl
        obtain rfl | member := List.mem_cons.mp member
        · exact String.lt_irrefl _ less
        · exact String.lt_irrefl _ (String.lt_trans less (above field member))
      rw [absent]
      exact .refl _
    · split
      · rename_i same
        subst same
        rw [List.lookup_cons_self]
        exact .swap ..
      · rename_i apart
        rw [List.lookup_cons, beq_false_of_ne apart]
        exact List.perm_middle.trans (((ih later).cons _).trans (.swap ..))

/-- A value that is looked up is the only one of its name. -/
theorem filter_perm {name : String} {value : α} {fields : List (String × α)}
    (ascending : Ascending fields) (found : fields.lookup name = some value) :
    (fields.map (·.2)).Perm ([value] ++ (fields.filter (·.1 != name)).map (·.2)) := by
  have unique : (fields.map (·.1)).Nodup := by
    refine List.pairwise_map.mpr (ascending.imp fun {a b} less same => ?_)
    rw [same] at less
    exact String.lt_irrefl _ less
  obtain ⟨before, after, same, others⟩ := split_of_lookup unique found
  rw [others, same, List.map_append, List.map_append, List.map_cons]
  exact List.perm_middle

/-- What is among fields with one more: that one, and the others of another name. -/
theorem mem_insert_iff {name : String} {value : α} {fields : List (String × α)}
    (ascending : Ascending fields) {field : String × α} :
    field ∈ insert name value fields ↔ field = (name, value) ∨ field ∈ fields ∧ field.1 ≠ name := by
  induction fields with
  | nil => simp [insert]
  | cons first rest ih =>
    obtain ⟨other, old⟩ := first
    obtain ⟨above, later⟩ := List.pairwise_cons.mp ascending
    have ne_of_lt {field : String × α} (less : other < field.1) (apart : ¬ other < name) :
        field.1 ≠ name := fun same => apart (same ▸ less)
    rw [insert]
    split
    · rename_i less
      rw [List.mem_cons]
      refine or_congr_right (iff_self_and.mpr fun member same => ?_)
      obtain rfl | member := List.mem_cons.mp member
      · exact String.lt_irrefl _ (same ▸ less)
      · exact String.lt_irrefl _ (String.lt_trans less (same ▸ above field member))
    · split
      · rename_i notLess same
        subst same
        rw [List.mem_cons, List.mem_cons, or_and_right]
        refine or_congr_right ⟨fun member => .inr ⟨member, ?_⟩, ?_⟩
        · exact ne_of_lt (above field member) notLess
        · rintro (⟨rfl, apart⟩ | ⟨member, -⟩)
          · exact (apart rfl).elim
          · exact member
      · rename_i apart
        rw [List.mem_cons, ih later, List.mem_cons, or_and_right, or_left_comm]
        refine or_congr_right (or_congr_left (iff_self_and.mpr ?_))
        rintro rfl
        exact fun same => apart same.symm

theorem ofList_append_singleton (pairs : List (String × α)) (last : String × α) :
    ofList (pairs ++ [last]) = insert last.1 last.2 (ofList pairs) := by
  rw [ofList, List.foldl_append]
  rfl

/-- Of the pairs of one name the last one is a field. -/
theorem mem_ofList_iff {pairs : List (String × α)} {field : String × α} : field ∈ ofList pairs ↔
    ∃ before after, pairs = before ++ field :: after ∧ ∀ other ∈ after, other.1 ≠ field.1 := by
  induction pairs using List.reverseRecOn with
  | nil => simp [ofList]
  | append_singleton pairs last ih =>
    rw [ofList_append_singleton, mem_insert_iff (ascending_ofList pairs), ih]
    constructor
    · rintro (rfl | ⟨⟨before, after, rfl, absent⟩, apart⟩)
      · exact ⟨pairs, [], rfl, fun _ member => (List.not_mem_nil member).elim⟩
      · refine ⟨before, after ++ [last], by rw [List.append_assoc, List.cons_append], fun other member => ?_⟩
        obtain member | rfl := List.mem_append.mp member |>.imp_right List.mem_singleton.mp
        · exact absent other member
        · exact apart.symm
    · rintro ⟨before, after, same, absent⟩
      induction after using List.reverseRecOn with
      | nil => exact .inl (List.append_inj_right' same rfl |> List.singleton_inj.mp).symm
      | append_singleton after final _ =>
        rw [← List.cons_append, ← List.append_assoc] at same
        obtain ⟨rfl, final⟩ := List.append_inj' same rfl
        obtain rfl := List.singleton_inj.mp final
        refine .inr ⟨⟨before, after, rfl, fun other member => ?_⟩, (absent last ?_).symm⟩
        · exact absent other (List.mem_append_left _ member)
        · exact List.mem_append_right _ (List.mem_singleton.mpr rfl)

/-- There is a field for each name. -/
theorem exists_mem_ofList {pairs : List (String × α)} {name : String} {value : α}
    (member : (name, value) ∈ pairs) : ∃ last, (name, last) ∈ ofList pairs := by
  induction pairs using List.reverseRecOn with
  | nil => exact (List.not_mem_nil member).elim
  | append_singleton pairs last ih =>
    have within (field : String × α) : field ∈ ofList (pairs ++ [last]) ↔
        field = last ∨ field ∈ ofList pairs ∧ field.1 ≠ last.1 := by
      rw [ofList_append_singleton]
      exact mem_insert_iff (ascending_ofList pairs)
    by_cases same : name = last.1
    · exact ⟨last.2, (within _).mpr (.inl (Prod.ext same rfl))⟩
    · obtain early | final := List.mem_append.mp member
      · obtain ⟨other, there⟩ := ih early
        exact ⟨other, (within _).mpr (.inr ⟨there, same⟩)⟩
      · exact (same (congrArg Prod.fst (List.mem_singleton.mp final))).elim

/-- Fields in order are known by what is among them. -/
theorem Ascending.ext {fields others : List (String × α)} (ascending : Ascending fields)
    (order : Ascending others) (same : ∀ field, field ∈ fields ↔ field ∈ others) : fields = others := by
  have nodup {fields : List (String × α)} (ascending : Ascending fields) : fields.Nodup := by
    refine List.Pairwise.imp ?_ ascending
    rintro a _ less rfl
    exact String.lt_irrefl a.1 less
  refine ((List.perm_ext_iff_of_nodup (nodup ascending) (nodup order)).mpr same).eq_of_pairwise
    (fun a b _ _ less more => (String.lt_asymm less more).elim) ascending order

/-- Pairs no two of which have one name. -/
def Apart (pairs : List (String × α)) : Prop := pairs.Pairwise (·.1 ≠ ·.1)

theorem Apart.mem_ofList_iff {pairs : List (String × α)} (apart : Apart pairs) {field : String × α} :
    field ∈ ofList pairs ↔ field ∈ pairs := by
  refine ⟨mem_ofList, fun member => Fields.mem_ofList_iff.mpr ?_⟩
  obtain ⟨before, after, rfl⟩ := List.mem_iff_append.mp member
  refine ⟨before, after, rfl, fun other member => ?_⟩
  exact ((List.pairwise_cons.mp (List.pairwise_append.mp apart).2.1).1 other member).symm

/-- Pairs of different names make the same fields in any order. -/
theorem Apart.ofList_eq {pairs others : List (String × α)} (apart : Apart pairs)
    (perm : others.Perm pairs) : ofList others = ofList pairs := by
  have also : Apart others := perm.symm.pairwise apart fun ne => ne.symm
  refine (ascending_ofList others).ext (ascending_ofList pairs) fun field => ?_
  rw [apart.mem_ofList_iff, also.mem_ofList_iff, perm.mem_iff]

/-- Pairs of different names are all kept. -/
theorem Apart.perm_ofList {pairs : List (String × α)} (apart : Apart pairs) :
    (ofList pairs).Perm pairs := by
  have nodup {pairs : List (String × α)} (apart : Apart pairs) : pairs.Nodup :=
    apart.imp fun ne same => ne (congrArg Prod.fst same)
  have order : Apart (ofList pairs) := by
    refine List.Pairwise.imp ?_ (ascending_ofList pairs)
    exact fun {a b} less same => String.lt_irrefl b.1 (same ▸ less)
  exact (List.perm_ext_iff_of_nodup (nodup order) (nodup apart)).mpr fun _ => apart.mem_ofList_iff

end Fields

end ForeignBridge
