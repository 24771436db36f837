import ForeignBridge.Proofs.Foreign.Fixed

/-! # Classes and their routines

What a built-in class has under a name is one of its own routines in the catalogue. What is not in the
catalogue under the name of the class is no attribute of it.
-/

namespace ForeignBridge.Foreign

/-- A routine of an owner is one of its lines. -/
theorem Catalog.mem_owned {owner : Owner} {lines : List Line} {routine : Routine} :
    routine ∈ owned owner lines ↔
      routine.owner = owner ∧ (routine.name, routine.flavour, routine.arity) ∈ lines := by
  rw [owned, List.mem_map]
  constructor
  · rintro ⟨⟨name, flavour, arity⟩, member, rfl⟩
    exact ⟨rfl, member⟩
  · rintro ⟨rfl, member⟩
    exact ⟨_, member, rfl⟩

/-- The routines of a class are those of its lines. -/
theorem Routine.mem_all_iff {core : Core} {routine : Routine} (own : routine.owner = .core core) :
    routine ∈ all ↔ (routine.name, routine.flavour, routine.arity) ∈ Catalog.ofCore core := by
  have others : routine ∉ (#[⟨.module "traceback", "lines", .alone, .between 1 2⟩,
      ⟨.module "posix", "fspath", .alone, .named ⟨["path"], 0, 1, 0⟩⟩] : Array Routine) := by
    intro member
    simp only [List.mem_toArray, List.mem_cons, List.not_mem_nil, or_false] at member
    rcases member with rfl | rfl <;> cases own
  have elsewhere (name : String) (lines : List Catalog.Line) :
      routine ∉ Catalog.owned (.module name) lines := fun member => by
    rw [Catalog.mem_owned, own] at member
    cases member.1
  simp only [all, Array.mem_append, List.mem_toArray, elsewhere, others, or_false, List.mem_flatMap,
    Array.mem_toList_iff, Catalog.mem_owned, own, Owner.core.injEq]
  constructor
  · rintro ⟨_, _, rfl, member⟩
    exact member
  · exact fun member => ⟨core, Array.mem_of_getElem? (Core.all_ctorIdx core), rfl, member⟩

namespace Fixed

/-- A routine of a class with its object. -/
private def ownRoutine? (core : Core) (entry : Routine × ℕ) : Option (String × Handle) :=
  if entry.1.owner = .core core then some (entry.1.name, routine entry.2) else .none

/-- Routines filed one after another stand before what was there, the last of them first. -/
private theorem foldl_filed {core : Core} (entries : List (Routine × ℕ))
    (table : Array (List (String × Handle))) (bound : core.ctorIdx < table.size) :
    (entries.foldl (fun table (found, index) =>
      match found.owner with
      | .core core => table.modify core.ctorIdx ((found.name, routine index) :: ·)
      | .module _ => table) table)[core.ctorIdx]?.getD [] =
    (entries.filterMap (ownRoutine? core)).reverse ++ table[core.ctorIdx]?.getD [] := by
  induction entries generalizing table with
  | nil => rfl
  | cons entry rest ih =>
    obtain ⟨found, index⟩ := entry
    rw [List.foldl_cons, List.filterMap_cons]
    cases place : found.owner with
    | module name =>
      simp only [place]
      rw [ih table bound, ownRoutine?, if_neg (by rw [place]; exact Owner.noConfusion)]
    | core other =>
      simp only [place]
      rw [ih _ (by rwa [Array.size_modify]), Array.getElem?_modify, Array.getElem?_eq_getElem bound]
      by_cases same : other = core
      · rw [same, if_pos rfl, ownRoutine?, if_pos (place.trans (by rw [same]))]
        simp
      · rw [if_neg fun index => same (Core.ctorIdx_inj index), ownRoutine?,
          if_neg fun own => same (Owner.core.inj (place.symm.trans own))]

/-- The table of routines has those of each class in the order of the catalogue. -/
private theorem routineTable_eq (core : Core) : routineTable[core.ctorIdx]?.getD [] =
    Routine.all.toList.zipIdx.filterMap (ownRoutine? core) := by
  have bound : core.ctorIdx < (Array.replicate classes ([] : List (String × Handle))).size := by
    rw [Array.size_replicate]
    exact core.ctorIdx_lt
  refine (foldl_filed Routine.all.toList.zipIdx.reverse _ bound).trans ?_
  rw [List.filterMap_reverse, List.reverse_reverse, Array.getElem?_replicate]
  split <;> simp

end Fixed

/-- A routine never changes. -/
theorem isFixed_routine (flavour : Flavour) (routine : Routine) :
    (Cell.ofCore (Fixed.routineClass flavour) (.routine routine)).isFixed = true := by
  cases flavour <;> simp [Fixed.routineClass, Cell.isFixed, Cell.ofCore, Cell.of]

namespace Core

variable {core : Core} {name : String}

/-- What a class has under a name is a routine of its own with that name. -/
theorem routine_of_attribute? {handle : Handle} (plain : name ≠ "__hash__")
    (found : core.attribute? name = some handle) :
    ∃ routine, routine.owner = .core core ∧ routine.name = name ∧
      (name, routine.flavour, routine.arity) ∈ Catalog.ofCore core ∧
      Fixed.heap.get? handle =
        some (.ofCore (Fixed.routineClass routine.flavour) (.routine routine)) := by
  rw [attribute?, if_neg fun both => plain both.1, Fixed.routineTable_eq,
    List.lookup_eq_some_iff] at found
  obtain ⟨earlier, later, split, _⟩ := found
  have member : (name, handle) ∈ Routine.all.toList.zipIdx.filterMap (Fixed.ownRoutine? core) := by
    rw [split]
    exact List.mem_append_right _ (List.mem_cons_self ..)
  obtain ⟨⟨routine, index⟩, there, same⟩ := List.mem_filterMap.mp member
  unfold Fixed.ownRoutine? at same
  split at same
  · rename_i own
    cases same
    have there := (List.mem_zipIdx_iff_getElem?.mp there)
    rw [Array.getElem?_toList] at there
    exact ⟨routine, own, rfl, (Routine.mem_all_iff own).mp (Array.mem_of_getElem? there),
      Fixed.get?_routine there⟩
  · cases same

/-- A class has nothing under a name that is not in its lines. -/
theorem attribute?_eq_none (plain : name ≠ "__hash__")
    (absent : ∀ line ∈ Catalog.ofCore core, line.1 ≠ name) : core.attribute? name = none := by
  cases found : core.attribute? name with
  | none => rfl
  | some handle =>
    obtain ⟨routine, _, _, member, _⟩ := routine_of_attribute? plain found
    exact (absent _ member rfl).elim

/-- A class has a routine under the name of the only line with that name. -/
theorem attribute?_of_line {flavour : Flavour} {arity : Arity} (plain : name ≠ "__hash__")
    (member : (name, flavour, arity) ∈ Catalog.ofCore core)
    (only : ∀ line ∈ Catalog.ofCore core, line.1 = name → line.2 = (flavour, arity)) :
    ∃ handle, core.attribute? name = some handle ∧ Fixed.heap.get? handle =
      some (.ofCore (Fixed.routineClass flavour) (.routine ⟨.core core, name, flavour, arity⟩)) := by
  cases found : core.attribute? name with
  | some handle =>
    obtain ⟨⟨_, _, _, _⟩, rfl, rfl, there, cell⟩ := routine_of_attribute? plain found
    obtain ⟨rfl, rfl⟩ := Prod.mk.inj (only _ there rfl)
    exact ⟨handle, rfl, cell⟩
  | none =>
    rw [attribute?, if_neg fun both => plain both.1, Fixed.routineTable_eq,
      List.lookup_eq_none_iff] at found
    have routine := (@Routine.mem_all_iff core ⟨.core core, name, flavour, arity⟩ rfl).mpr member
    obtain ⟨index, there⟩ := Array.getElem?_of_mem routine
    have entry : (name, Fixed.routine index) ∈
        Routine.all.toList.zipIdx.filterMap (Fixed.ownRoutine? core) := by
      refine List.mem_filterMap.mpr ⟨(⟨.core core, name, flavour, arity⟩, index), ?_, if_pos rfl⟩
      rw [List.mem_zipIdx_iff_getElem?, Array.getElem?_toList]
      exact there
    exact (by simpa using found _ entry : False).elim

end Core

end ForeignBridge.Foreign
