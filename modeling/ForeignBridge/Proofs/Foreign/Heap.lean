import ForeignBridge.Proofs.Foreign.Fixed

/-! # What is freed

An object is freed only once nothing refers to it: the table of counts that the heap frees by is, at
each step, what the cells that are left and the references from outside come to. So what is referred
to from outside stays, as does everything below the base.
-/

namespace ForeignBridge.Foreign.Heap

/-- How many references to an object there are in some cells. -/
def total (handle : Handle) (cells : List (Option Cell)) : ℕ := (cells.map (weight handle)).sum

theorem total_cons (handle : Handle) (cell : Option Cell) (rest : List (Option Cell)) :
    total handle (cell :: rest) = weight handle cell + total handle rest := rfl

theorem references_eq_total (heap : Heap) (handle : Handle) :
    heap.references handle = total handle heap.cells.toList := by
  have fold (cells : List (Option Cell)) (start : ℕ) :
      cells.foldl (fun count cell => count + weight handle cell) start =
        start + total handle cells := by
    induction cells generalizing start with
    | nil => rfl
    | cons cell rest ih => rw [List.foldl_cons, ih, total_cons, Nat.add_assoc]
  rw [references, ← Array.foldl_toList, fold, Nat.zero_add]

/-- A cell that goes takes its references along. -/
theorem total_set_none {handle : Handle} {cells : List (Option Cell)} {index : ℕ} {cell : Cell}
    (found : cells[index]? = some (some cell)) :
    total handle cells = total handle (cells.set index none) + cell.references.count handle := by
  induction cells generalizing index with
  | nil => cases found
  | cons first rest ih =>
    cases index with
    | zero =>
      obtain rfl : first = some cell := Option.some.inj found
      rw [List.set_cons_zero, total_cons, total_cons, weight, weight]
      omega
    | succ index =>
      rw [List.set_cons_succ, total_cons, total_cons, ih found]
      omega

/-! The table of counts. -/

/-- The count at an index of a table. -/
def level (counts : Array ℕ) (index : ℕ) : ℕ := counts[index]?.getD 0

theorem size_bump (counts : Array ℕ) (handle : Handle) : (bump counts handle).size = counts.size := by
  unfold bump
  split
  · rfl
  · exact Array.size_modify

theorem level_bump {counts : Array ℕ} {index : ℕ} (bound : index < counts.size) (handle : Handle) :
    level (bump counts handle) index =
      level counts index + if handle = ⟨index + 1⟩ then 1 else 0 := by
  unfold bump level
  split
  · rename_i null
    rw [if_neg (by rintro rfl; cases null), Nat.add_zero]
  · rename_i present
    have positive : handle.address ≠ 0 := by simpa [Handle.isNull] using present
    have same : handle.address - 1 = index ↔ handle = ⟨index + 1⟩ := by
      cases handle
      simp only [Handle.mk.injEq] at *
      omega
    rw [Array.getElem?_modify, if_congr same rfl rfl]
    split
    · simp [Array.getElem?_eq_getElem bound]
    · rw [Nat.add_zero]

theorem foldl_bump (counts : Array ℕ) (handles : List Handle) :
    (handles.foldl bump counts).size = counts.size ∧ ∀ index < counts.size,
      level (handles.foldl bump counts) index = level counts index + handles.count ⟨index + 1⟩ := by
  induction handles generalizing counts with
  | nil => exact ⟨rfl, fun _ _ => rfl⟩
  | cons handle rest ih =>
    obtain ⟨size, levels⟩ := ih (bump counts handle)
    refine ⟨size.trans (size_bump counts handle), fun index bound => ?_⟩
    rw [List.foldl_cons, levels index (by rwa [size_bump]), level_bump bound, List.count_cons]
    simp only [beq_iff_eq]
    omega

/-- A table that is right about some cells and the references from outside. -/
structure Counted (cells : List (Option Cell)) (outside : List Handle) (counts : Array ℕ) : Prop where
  size : counts.size = cells.length
  level : ∀ index < cells.length,
    level counts index = total ⟨index + 1⟩ cells + outside.count ⟨index + 1⟩

private theorem foldl_bumpCell (cells : List (Option Cell)) (counts : Array ℕ) :
    (cells.foldl bumpCell counts).size = counts.size ∧ ∀ index < counts.size,
      level (cells.foldl bumpCell counts) index = level counts index + total ⟨index + 1⟩ cells := by
  induction cells generalizing counts with
  | nil => exact ⟨rfl, fun _ _ => rfl⟩
  | cons cell rest ih =>
    have first : (bumpCell counts cell).size = counts.size ∧ ∀ index < counts.size,
        level (bumpCell counts cell) index = level counts index + weight ⟨index + 1⟩ cell := by
      cases cell with
      | none => exact ⟨rfl, fun _ _ => rfl⟩
      | some cell => exact foldl_bump counts cell.references
    obtain ⟨size, levels⟩ := ih (bumpCell counts cell)
    refine ⟨size.trans first.1, fun index bound => ?_⟩
    rw [List.foldl_cons, levels index (by rwa [first.1]), first.2 index bound, total_cons,
      Nat.add_assoc]

theorem counted_counts (heap : Heap) (outside : List Handle) :
    Counted heap.cells.toList outside (heap.counts outside) := by
  obtain ⟨size, levels⟩ := foldl_bumpCell heap.cells.toList (Array.replicate heap.cells.size 0)
  rw [Array.size_replicate, Array.foldl_toList] at size
  rw [Array.size_replicate, Array.foldl_toList] at levels
  obtain ⟨bumped, sum⟩ :=
    foldl_bump (heap.cells.foldl bumpCell (Array.replicate heap.cells.size 0)) outside
  rw [size] at bumped sum
  refine ⟨bumped.trans Array.length_toList.symm, fun index bound => ?_⟩
  rw [Array.length_toList] at bound
  have zero : level (Array.replicate heap.cells.size 0) index = 0 := by simp [level, bound]
  rw [counts, sum index bound, levels index bound, zero, Nat.zero_add]

/-! Freeing. -/

/-- What waits to be freed: objects above the base with no reference left. -/
def Idle (base : ℕ) (counts : Array ℕ) (pending : List ℕ) : Prop :=
  ∀ index ∈ pending, index < counts.size → base ≤ index ∧ level counts index = 0

/-- One reference less counts at one place. -/
theorem level_drop {counts : Array ℕ} {slot : ℕ} {refs : List Handle} {rest : ℕ → ℕ}
    (levels : ∀ index < counts.size,
      level counts index = rest index + (⟨slot + 1⟩ :: refs : List Handle).count ⟨index + 1⟩)
    (index : ℕ) (bound : index < counts.size) :
    level (counts.setIfInBounds slot (level counts slot - 1)) index =
      rest index + refs.count ⟨index + 1⟩ := by
  have count := levels index bound
  by_cases same : slot = index
  · subst same
    rw [List.count_cons_self] at count
    rw [level, Array.getElem?_setIfInBounds_self_of_lt bound, Option.getD_some]
    omega
  · rw [List.count_cons_of_ne (by simpa using same)] at count
    rw [← count, level, Array.getElem?_setIfInBounds_ne same, level]

/-- A handle of an object has the index of the object in it. -/
theorem exists_slot {handle : Handle} (object : handle.isNull = false) :
    ∃ slot, handle = ⟨slot + 1⟩ := by
  have positive : handle.address ≠ 0 := by simpa [Handle.isNull] using object
  refine ⟨handle.address - 1, ?_⟩
  cases handle
  simp only [Handle.mk.injEq] at *
  omega

/-- Taking a cell's references back leaves the counts of the other cells. -/
theorem dropReferences_spec {base : ℕ} {counts : Array ℕ} {pending : List ℕ} (refs : List Handle)
    (rest : ℕ → ℕ)
    (levels : ∀ index < counts.size, level counts index = rest index + refs.count ⟨index + 1⟩)
    (idle : Idle base counts pending) :
    (dropReferences base counts pending refs).1.size = counts.size ∧
      (∀ index < counts.size,
        level (dropReferences base counts pending refs).1 index = rest index) ∧
      Idle base (dropReferences base counts pending refs).1
        (dropReferences base counts pending refs).2 := by
  induction refs generalizing counts pending with
  | nil => exact ⟨rfl, levels, idle⟩
  | cons handle refs ih =>
    rw [dropReferences]
    by_cases null : handle.isNull = true
    · rw [if_pos null]
      refine ih (fun index bound => ?_) idle
      rw [levels index bound, List.count_cons_of_ne (by rintro rfl; cases null)]
    · rw [if_neg null]
      obtain ⟨slot, rfl⟩ := exists_slot (by simpa using null)
      simp only [Nat.add_sub_cancel]
      have next := level_drop levels
      have still : Idle base (counts.setIfInBounds slot (level counts slot - 1)) pending := by
        intro index member bound
        rw [Array.size_setIfInBounds] at bound
        obtain ⟨above, zero⟩ := idle index member bound
        refine ⟨above, ?_⟩
        have := levels index bound
        rw [next index bound]
        rw [List.count_cons] at this
        omega
      have size : (counts.setIfInBounds slot (level counts slot - 1)).size = counts.size :=
        Array.size_setIfInBounds
      rw [← size] at next ⊢
      split
      · rename_i last
        refine ih next fun index member bound => ?_
        obtain rfl | member := List.mem_cons.mp member
        · refine ⟨last.2.1, ?_⟩
          rw [level, Array.getElem?_setIfInBounds_self_of_lt (size ▸ bound), Option.getD_some]
          exact last.1
        · exact still index member bound
      · exact ih next still

/-- What the counts are without a cell, and what they are more because of it. -/
theorem level_split {first : ℕ} {outside : List Handle} {cells : Array (Option Cell)}
    {counts : Array ℕ} {cell : Cell} (counted : Counted cells.toList outside counts)
    (found : cells[first]?.join = some cell) (slot : ℕ) (below : slot < counts.size) :
    level counts slot = total ⟨slot + 1⟩ (cells.setIfInBounds first none).toList +
      outside.count ⟨slot + 1⟩ + cell.references.count ⟨slot + 1⟩ := by
  have present := Option.join_eq_some_iff.mp found
  have gone : total ⟨slot + 1⟩ cells.toList =
      total ⟨slot + 1⟩ (cells.setIfInBounds first none).toList +
        cell.references.count ⟨slot + 1⟩ := by
    rw [Array.toList_setIfInBounds]
    exact total_set_none (by rwa [Array.getElem?_toList])
  rw [counted.level slot (counted.size ▸ below), gone]
  omega

/-- What is freed first is above the base and nothing refers to it; the table is right without it. -/
theorem Counted.free {base first : ℕ} {outside : List Handle} {cells : Array (Option Cell)}
    {counts : Array ℕ} {pending : List ℕ} {cell : Cell} (counted : Counted cells.toList outside counts)
    (idle : Idle base counts (first :: pending)) (found : cells[first]?.join = some cell) :
    base ≤ first ∧ total ⟨first + 1⟩ cells.toList + outside.count ⟨first + 1⟩ = 0 ∧
      Counted (cells.setIfInBounds first none).toList outside
        (dropReferences base counts pending cell.references).1 ∧
      Idle base (dropReferences base counts pending cell.references).1
        (dropReferences base counts pending cell.references).2 := by
  obtain ⟨bound, _⟩ := Array.getElem?_eq_some_iff.mp (Option.join_eq_some_iff.mp found)
  have length : cells.toList.length = cells.size := Array.length_toList
  have size := counted.size.trans length
  obtain ⟨above, zero⟩ := idle first (List.mem_cons_self ..) (by omega)
  obtain ⟨dropped, levels, still⟩ := dropReferences_spec cell.references
    (fun slot => total ⟨slot + 1⟩ (cells.setIfInBounds first none).toList +
      outside.count ⟨slot + 1⟩) (level_split counted found)
    (fun index member => idle index (List.mem_cons_of_mem _ member))
  refine ⟨above, (counted.level first (by omega)).symm.trans zero, ?_, still⟩
  refine ⟨by simp [dropped, size], fun slot below => levels slot ?_⟩
  simp only [Array.toList_setIfInBounds, List.length_set, Array.length_toList] at below
  omega

/-- Each cell is left, or it was above the base and nothing outside referred to its object. -/
theorem free_spec {base : ℕ} {outside : List Handle} (fuel : ℕ) {cells : Array (Option Cell)}
    {counts : Array ℕ} {pending : List ℕ} (counted : Counted cells.toList outside counts)
    (idle : Idle base counts pending) (index : ℕ) :
    (free fuel cells base counts pending)[index]?.join = cells[index]?.join ∨
      (free fuel cells base counts pending)[index]?.join = none ∧ base ≤ index ∧
        (⟨index + 1⟩ : Handle) ∉ outside := by
  induction fuel generalizing cells counts pending with
  | zero => exact .inl rfl
  | succ fuel ih =>
    cases pending with
    | nil => exact .inl rfl
    | cons first pending =>
      have others : Idle base counts pending := fun index member =>
        idle index (List.mem_cons_of_mem _ member)
      rw [free]
      cases found : cells[first]?.join with
      | none => exact ih counted others
      | some cell =>
        obtain ⟨bound, _⟩ := Array.getElem?_eq_some_iff.mp (Option.join_eq_some_iff.mp found)
        obtain ⟨above, zero, after, still⟩ := counted.free idle found
        have unreferenced : (⟨first + 1⟩ : Handle) ∉ outside :=
          List.count_eq_zero.mp (Nat.eq_zero_of_add_eq_zero_left zero)
        have kept := ih after still
        by_cases same : first = index
        · subst same
          rw [Array.getElem?_setIfInBounds_self_of_lt bound] at kept
          refine .inr ⟨?_, above, unreferenced⟩
          rcases kept with kept | kept
          · exact kept
          · exact kept.1
        · rwa [Array.getElem?_setIfInBounds_ne same] at kept

theorem size_free (base fuel : ℕ) (cells : Array (Option Cell)) (counts : Array ℕ)
    (pending : List ℕ) : (free fuel cells base counts pending).size = cells.size := by
  induction fuel generalizing cells counts pending with
  | zero => rfl
  | succ fuel ih =>
    cases pending with
    | nil => rfl
    | cons first pending =>
      rw [free]
      split
      · exact ih ..
      · exact (ih ..).trans Array.size_setIfInBounds

theorem size_reclaim (heap : Heap) (outside : List Handle) :
    (heap.reclaim outside).cells.size = heap.cells.size := size_free ..

/-- The indices of the objects above the base that nothing refers to. -/
def idle (heap : Heap) (outside : List Handle) : List ℕ :=
  (List.range' heap.base (heap.cells.size - heap.base)).filter fun index =>
    (heap.counts outside)[index]?.getD 0 == 0

theorem reclaim_eq (heap : Heap) (outside : List Handle) : heap.reclaim outside = { heap with
    cells := free (2 * heap.cells.size + 1) heap.cells heap.base (heap.counts outside)
      (heap.idle outside) } := rfl

theorem idle_idle (heap : Heap) (outside : List Handle) :
    Idle heap.base (heap.counts outside) (heap.idle outside) := by
  intro index member _
  simp only [idle, List.mem_filter, List.mem_range'_1, beq_iff_eq] at member
  exact ⟨member.1.1, member.2⟩

/-- An object stays as it is if it is there for good or referred to from outside, and nothing comes
to be. -/
theorem get?_reclaim (heap : Heap) (outside : List Handle) (handle : Handle) :
    (heap.reclaim outside).get? handle = heap.get? handle ∨
      (heap.reclaim outside).get? handle = none ∧ heap.base < handle.address ∧
        handle ∉ outside := by
  cases null : handle.isNull with
  | true => exact .inl (by simp only [get?, null, ↓reduceIte])
  | false =>
    obtain ⟨slot, rfl⟩ := exists_slot null
    rw [get?_of_address null, get?_of_address null, reclaim_eq]
    obtain kept | ⟨gone, above, unreferenced⟩ := free_spec (2 * heap.cells.size + 1)
      (counted_counts heap outside) (idle_idle heap outside) slot
    · exact .inl kept
    · exact .inr ⟨gone, Nat.lt_succ_of_le above, unreferenced⟩

/-- What is left was there as it is. -/
theorem get?_of_get?_reclaim {heap : Heap} {outside : List Handle} {handle : Handle} {cell : Cell}
    (found : (heap.reclaim outside).get? handle = some cell) : heap.get? handle = some cell := by
  rcases get?_reclaim heap outside handle with same | ⟨none, _⟩
  · rw [← same, found]
  · rw [none] at found
    cases found

end ForeignBridge.Foreign.Heap
