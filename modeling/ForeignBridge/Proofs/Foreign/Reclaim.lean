import ForeignBridge.Proofs.Foreign.Grafts

/-! # What is left when nothing is idle

Freeing goes on until every object above the base has a reference from another one or from outside. The
work comes to an end: an object waits to be freed at most once for each count that becomes zero.
-/

namespace ForeignBridge.Foreign

namespace Heap

variable {base fuel : ℕ} {outside : List Handle} {cells : Array (Option Cell)} {counts : Array ℕ}
  {pending : List ℕ} {heap : Heap}

/-! That freeing comes to an end. -/

/-- How many counts in a table are not zero. -/
def charge (counts : Array ℕ) : ℕ := counts.toList.countP (0 < ·)

/-- A count that becomes zero is one less that is not. -/
theorem charge_drop {slot : ℕ} (bound : slot < counts.size) (positive : 0 < level counts slot) :
    charge (counts.setIfInBounds slot (level counts slot - 1)) +
      (if level counts slot - 1 = 0 then 1 else 0) = charge counts := by
  have length : slot < counts.toList.length := by rwa [Array.length_toList]
  have there : level counts slot = counts.toList[slot] := by
    simp [level, Array.getElem?_eq_getElem bound]
  rw [there] at positive ⊢
  rw [charge, charge, Array.toList_setIfInBounds, List.countP_set length]
  have some : 0 < counts.toList.countP (0 < ·) :=
    List.countP_pos_iff.mpr ⟨_, List.getElem_mem length, decide_eq_true positive⟩
  generalize counts.toList[slot] = count at positive ⊢
  obtain rfl | more : count = 1 ∨ 0 < count - 1 := by omega
  · simp only [Nat.lt_irrefl, Nat.sub_self, decide_true, Nat.zero_lt_one, decide_false, ↓reduceIte,
      Bool.false_eq_true]
    omega
  · simp only [positive, more, decide_true, ↓reduceIte, Nat.ne_of_gt more]
    omega

/-- Taking references back makes no more work than there are counts. -/
theorem charge_dropReferences (refs : List Handle) (rest : ℕ → ℕ)
    (levels : ∀ index < counts.size, level counts index = rest index + refs.count ⟨index + 1⟩) :
    charge (dropReferences base counts pending refs).1 +
      (dropReferences base counts pending refs).2.length ≤ charge counts + pending.length := by
  induction refs generalizing counts pending with
  | nil => exact Nat.le_refl _
  | cons handle refs ih =>
    rw [dropReferences]
    by_cases null : handle.isNull = true
    · rw [if_pos null]
      refine ih fun index bound => ?_
      rw [levels index bound, List.count_cons_of_ne (by rintro rfl; cases null)]
    · rw [if_neg null]
      obtain ⟨slot, rfl⟩ := exists_slot (by simpa using null)
      simp only [Nat.add_sub_cancel]
      have next := level_drop levels
      have size : (counts.setIfInBounds slot (level counts slot - 1)).size = counts.size :=
        Array.size_setIfInBounds
      -- a count that is in the table is one of those that are not zero
      have less (bound : slot < counts.size) := charge_drop bound (by
        rw [levels slot bound, List.count_cons_self]
        omega)
      rw [← size] at next
      split
      · rename_i last
        have gone := less (size ▸ last.2.2)
        rw [if_pos (show level counts slot - 1 = 0 from last.1)] at gone
        refine (ih next).trans ?_
        rw [List.length_cons, ← gone, level]
        omega
      · refine (ih next).trans (Nat.add_le_add_right ?_ _)
        obtain bound | beyond := Nat.lt_or_ge slot counts.size
        · exact Nat.le.intro (less bound)
        · exact Nat.le_of_eq (congrArg charge (Array.setIfInBounds_eq_of_size_le beyond))

/-- What waits goes on waiting, and what loses its last reference waits from then on. -/
theorem mem_dropReferences (refs : List Handle) {index : ℕ} (above : base ≤ index)
    (either : index ∈ pending ∨
      0 < level counts index ∧ level (dropReferences base counts pending refs).1 index = 0) :
    index ∈ (dropReferences base counts pending refs).2 := by
  induction refs generalizing counts pending with
  | nil =>
    rcases either with waiting | ⟨positive, zero⟩
    · exact waiting
    · exact absurd zero (Nat.ne_of_gt positive)
  | cons handle refs ih =>
    rw [dropReferences] at either ⊢
    by_cases null : handle.isNull = true
    · rw [if_pos null] at either ⊢
      exact ih either
    · rw [if_neg null] at either ⊢
      obtain ⟨slot, rfl⟩ := exists_slot (by simpa using null)
      simp only [Nat.add_sub_cancel] at either ⊢
      -- the count of the slot is the only one that changes here
      have apart (other : index ≠ slot) (value : ℕ) :
          level (counts.setIfInBounds slot value) index = level counts index := by
        rw [level, Array.getElem?_setIfInBounds_ne (Ne.symm other), level]
      split at either
      · rename_i last
        rw [if_pos last]
        by_cases same : index = slot
        · exact ih (.inl (same ▸ List.mem_cons_self ..))
        · refine ih (either.imp (List.mem_cons_of_mem _) fun both => ⟨?_, both.2⟩)
          rw [apart same]
          exact both.1
      · rename_i more
        rw [if_neg more]
        refine ih (either.imp_right fun both => ⟨?_, both.2⟩)
        by_cases same : index = slot
        · subst same
          have bound : index < counts.size := by
            by_contra beyond
            have none : level counts index = 0 := by simp [level, Nat.not_lt.mp beyond]
            exact absurd none (Nat.ne_of_gt both.1)
          rw [level, Array.getElem?_setIfInBounds_self_of_lt bound, Option.getD_some]
          exact Nat.pos_of_ne_zero fun zero =>
            more ⟨zero, above, bound.trans_eq Array.size_setIfInBounds.symm⟩
        · rw [apart same]
          exact both.1

/-- That every object above the base to which nothing refers waits to be freed. -/
def Waiting (base : ℕ) (cells : Array (Option Cell)) (counts : Array ℕ) (pending : List ℕ) : Prop :=
  ∀ index cell, cells[index]?.join = some cell → base ≤ index → level counts index = 0 →
    index ∈ pending

/-- When nothing waits, what is left has references. -/
theorem Waiting.referenced {index : ℕ} {cell : Cell} (waiting : Waiting base cells counts [])
    (counted : Counted cells.toList outside counts) (found : cells[index]?.join = some cell)
    (above : base ≤ index) : 0 < total ⟨index + 1⟩ cells.toList + outside.count ⟨index + 1⟩ := by
  obtain ⟨bound, _⟩ := Array.getElem?_eq_some_iff.mp (Option.join_eq_some_iff.mp found)
  rw [← counted.level index (by rwa [Array.length_toList])]
  exact Nat.pos_of_ne_zero fun zero => List.not_mem_nil (waiting index cell found above zero)

/-- Where nothing is left that waits, nothing is freed. -/
theorem Waiting.absent {first : ℕ} (waiting : Waiting base cells counts (first :: pending))
    (absent : cells[first]?.join = none) : Waiting base cells counts pending := by
  intro index cell found above zero
  obtain rfl | later := List.mem_cons.mp (waiting index cell found above zero)
  · rw [absent] at found
    cases found
  · exact later

/-- What loses its last reference with a cell that is freed waits from then on. -/
theorem Waiting.free {first : ℕ} {content : Cell}
    (waiting : Waiting base cells counts (first :: pending)) :
    Waiting base (cells.setIfInBounds first none) (dropReferences base counts pending content.references).1
      (dropReferences base counts pending content.references).2 := by
  intro index cell found above zero
  have apart : first ≠ index := by
    rintro rfl
    rw [Array.getElem?_setIfInBounds_self] at found
    split at found <;> cases found
  rw [Array.getElem?_setIfInBounds_ne apart] at found
  refine mem_dropReferences _ above ?_
  by_cases idle : level counts index = 0
  · exact .inl ((List.mem_cons.mp (waiting index cell found above idle)).resolve_left apart.symm)
  · exact .inr ⟨Nat.pos_of_ne_zero idle, zero⟩

/-- When freeing is over, every object above the base that is left has a reference. -/
theorem free_rested (counted : Counted cells.toList outside counts) (idle : Idle base counts pending)
    (waiting : Waiting base cells counts pending)
    (enough : charge counts + pending.length ≤ fuel) {index : ℕ} {cell : Cell}
    (found : (free fuel cells base counts pending)[index]?.join = some cell) (above : base ≤ index) :
    0 < total ⟨index + 1⟩ (free fuel cells base counts pending).toList +
      outside.count ⟨index + 1⟩ := by
  induction fuel generalizing cells counts pending with
  | zero =>
    obtain rfl : pending = [] := List.length_eq_zero_iff.mp (by omega)
    exact waiting.referenced counted found above
  | succ fuel ih =>
    cases pending with
    | nil => exact waiting.referenced counted found above
    | cons first pending =>
      rw [List.length_cons] at enough
      rw [free] at found ⊢
      cases there : cells[first]?.join with
      | none =>
        rw [there] at found
        exact ih counted (fun index member => idle index (List.mem_cons_of_mem _ member))
          (waiting.absent there) (by omega) found
      | some content =>
        rw [there] at found
        obtain ⟨_, _, after, still⟩ := counted.free idle there
        have less := @charge_dropReferences base counts pending content.references _
          (level_split counted there)
        exact ih after still waiting.free (by omega) found

/-! Heaps at rest. -/

/-- That every object above the base has a reference, from another object or from outside. -/
def Rested (heap : Heap) (outside : List Handle) : Prop :=
  ∀ handle cell, heap.get? handle = some cell → heap.base < handle.address →
    0 < heap.references handle + outside.count handle

/-- What has been settled is at rest. -/
theorem rested_reclaim (heap : Heap) (outside : List Handle) :
    (heap.reclaim outside).Rested outside := by
  intro handle cell found above
  obtain ⟨slot, rfl⟩ := exists_slot (not_isNull_of_get? found)
  rw [get?_of_address rfl] at found
  rw [references_eq_total]
  have size : (heap.counts outside).size = heap.cells.size :=
    (counted_counts heap outside).size.trans Array.length_toList
  have waiting : Waiting heap.base heap.cells (heap.counts outside) (heap.idle outside) := by
    intro index cell found above zero
    obtain ⟨bound, _⟩ := Array.getElem?_eq_some_iff.mp (Option.join_eq_some_iff.mp found)
    rw [idle, List.mem_filter, List.mem_range'_1, beq_iff_eq]
    exact ⟨⟨above, by omega⟩, zero⟩
  have enough : charge (heap.counts outside) + (heap.idle outside).length ≤ 2 * heap.cells.size + 1 := by
    have some : charge (heap.counts outside) ≤ heap.cells.size := by
      rw [← size, ← Array.length_toList]
      exact List.countP_le_length
    have others : (heap.idle outside).length ≤ heap.cells.size - heap.base := by
      have least := List.length_filter_le (fun index => (heap.counts outside)[index]?.getD 0 == 0)
        (List.range' heap.base (heap.cells.size - heap.base))
      rwa [List.length_range'] at least
    omega
  exact free_rested (counted_counts heap outside) (idle_idle heap outside) waiting enough found
    (Nat.le_of_lt_succ above)

/-- What is left refers to addresses that have been given out. -/
theorem Closed.reclaim (closed : heap.Closed) (outside : List Handle) :
    (heap.reclaim outside).Closed := by
  intro handle cell found part member
  rw [size_reclaim]
  exact closed handle cell (get?_of_get?_reclaim found) part member

/-- The heap once so many more addresses have been given out and nothing stands at them any more. -/
def pad (heap : Heap) (given : ℕ) : Heap :=
  { heap with cells := heap.cells ++ Array.replicate given none }

@[simp] theorem get?_pad (heap : Heap) (given : ℕ) (handle : Handle) :
    (heap.pad given).get? handle = heap.get? handle := by
  cases null : handle.isNull with
  | true => simp only [get?, null, ↓reduceIte]
  | false =>
    rw [get?_of_address null, get?_of_address null, pad, Array.getElem?_append]
    split
    · rfl
    · rename_i beyond
      rw [Array.getElem?_eq_none (Nat.le_of_not_lt beyond), Array.getElem?_replicate]
      split <;> rfl

theorem total_append (handle : Handle) (cells more : List (Option Cell)) :
    total handle (cells ++ more) = total handle cells + total handle more := by
  rw [total, List.map_append, List.sum_append]
  rfl

@[simp] theorem references_pad (heap : Heap) (given : ℕ) (handle : Handle) :
    (heap.pad given).references handle = heap.references handle := by
  have none (count : ℕ) : total handle (List.replicate count none) = 0 := by
    induction count with
    | zero => rfl
    | succ count ih => rw [List.replicate_succ, total_cons, ih, weight]
  rw [references_eq_total, references_eq_total, pad, Array.toList_append, Array.toList_replicate,
    total_append, none, Nat.add_zero]

/-- There is an object that refers to what has references. -/
theorem exists_of_references {handle : Handle} (positive : 0 < heap.references handle) :
    ∃ other cell, heap.get? other = some cell ∧ handle ∈ cell.references := by
  rw [references_eq_total, total] at positive
  obtain ⟨count, member, more⟩ := List.exists_mem_ne_zero_of_sum_ne_zero (Nat.ne_of_gt positive)
  obtain ⟨content, inside, rfl⟩ := List.mem_map.mp member
  cases content with
  | none => exact (more rfl).elim
  | some cell =>
    obtain ⟨index, bound, there⟩ := List.mem_iff_getElem.mp inside
    refine ⟨⟨index + 1⟩, cell, ?_, List.count_pos_iff.mp (Nat.pos_of_ne_zero more)⟩
    rw [get?_of_address rfl]
    change heap.cells[index]?.join = _
    rw [Array.length_toList] at bound
    rw [Array.getElem?_eq_getElem bound, ← Array.getElem_toList, there]
    rfl

end Heap

namespace Machine

variable {machine : Machine} {outside : List Handle}

/-- The machine once so many more addresses have been given out and nothing stands at them any more. -/
def pad (machine : Machine) (given : ℕ) : Machine := { machine with heap := machine.heap.pad given }

/-- That nothing is left to settle: every object above the base has a reference, and what stands for a
text or has been finalized is there. -/
structure Rested (machine : Machine) (outside : List Handle) : Prop where
  heap : machine.heap.Rested outside
  interned : ∀ entry ∈ machine.interned, machine.heap.has entry.2 = true
  finalized : ∀ handle ∈ machine.finalized, machine.heap.has handle = true

/-- What has been reclaimed is at rest. -/
theorem rested_reclaim (machine : Machine) (outside : List Handle) :
    (machine.reclaim outside).Rested outside where
  heap := Heap.rested_reclaim machine.heap outside
  interned _ member := (List.mem_filter.mp member).2
  finalized _ member := (List.mem_filter.mp member).2

/-- When all objects are there for good there is nothing to settle. -/
theorem Rested.raise (rested : machine.Rested outside) (others : List Handle) :
    Rested { machine with heap := { machine.heap with base := machine.heap.cells.size } } others where
  heap _ _ found above := absurd (Heap.address_le_of_get? found).2 (not_le.mpr above)
  interned := rested.interned
  finalized := rested.finalized

/-- What has been settled is at rest, whatever finalizers have been called. -/
theorem rested_settle (machine : Machine) (outside : List Handle) :
    (machine.settle outside).Rested outside := by
  have within (fuel : ℕ) (machine : Machine) : (settleWithin outside fuel machine).Rested outside := by
    induction fuel generalizing machine with
    | zero => exact rested_reclaim machine outside
    | succ fuel ih =>
      rw [settleWithin]
      split
      · exact ih _
      · exact rested_reclaim machine outside
  unfold settle
  split
  · exact within _ machine
  · exact rested_reclaim machine outside

/-- An object whose finalizer is still to be called stands above the base. -/
theorem mem_unfinalized {handle : Handle} (member : handle ∈ machine.unfinalized) :
    machine.heap.base < handle.address ∧ (machine.finalizer? handle).isSome = true ∧
      ∃ cell, machine.heap.get? handle = some cell := by
  obtain ⟨⟨content, index⟩, inside, step⟩ := List.mem_filterMap.mp member
  simp only [Option.ite_none_right_eq_some, Option.some.injEq] at step
  obtain ⟨⟨present, finalizer⟩, rfl⟩ := step
  obtain ⟨place, bound, there⟩ := List.mem_iff_getElem.mp inside
  rw [List.getElem_drop, List.getElem_zipIdx, Nat.zero_add, Prod.mk.injEq] at there
  obtain ⟨same, rfl⟩ := there
  obtain ⟨cell, rfl⟩ := Option.isSome_iff_exists.mp present
  rw [List.length_drop, List.length_zipIdx] at bound
  refine ⟨?_, finalizer, cell, ?_⟩
  · change machine.heap.base < machine.heap.base + place + 1
    omega
  · rw [Heap.get?_of_address rfl]
    change machine.heap.cells[machine.heap.base + place]?.join = _
    rw [Array.length_toList] at bound
    rw [Array.getElem?_eq_getElem (by omega), ← Array.getElem_toList, same]
    rfl

/-- An object without a finalizer in its class is not waited for. -/
theorem finalizer?_of_unguarded (sound : machine.heap.Sound) {handle : Handle} {cell : Cell}
    (found : machine.heap.get? handle = some cell) (unguarded : cell.IsUnguarded) :
    machine.finalizer? handle = none := by
  obtain ⟨core, type, none⟩ := unguarded
  rw [finalizer?, Run.on_typeAttribute sound found type, none]
  split <;> rfl

end Machine

/-! The machine on which nothing has run. -/

namespace Fixed

/-- Of the fixed objects only the modules refer to others, each to the dictionary of its names. -/
theorem references_eq_nil {cell : Cell} (member : cell ∈ cells) : cell.references = [] ∨
    ∃ names ∈ [builtinNames, mainNames, systemNames, finderNames], cell = moduleCell names := by
  have bare (core : Core) (body : Body) (empty : body.references = []) :
      (Cell.ofCore core body).references = [] := (Cell.references_ofCore core body).trans empty
  simp only [cells, Array.mem_append, Array.mem_map, List.mem_toArray, List.mem_cons,
    List.not_mem_nil, or_false] at member
  rcases member with (((((((⟨core, -, rfl⟩ | single) | ⟨i, -, rfl⟩) | rfl) | ⟨code, -, rfl⟩) |
    ⟨byte, -, rfl⟩) | standing) | ⟨routine, -, rfl⟩)
  · exact .inl (bare _ _ rfl)
  · rcases single with rfl | rfl | rfl | rfl | rfl | rfl | rfl <;> exact .inl (bare _ _ rfl)
  · exact .inl (bare _ _ rfl)
  · exact .inl (bare _ _ rfl)
  · exact .inl (bare _ _ rfl)
  · exact .inl (bare _ _ rfl)
  · rcases standing with rfl | rfl | rfl | rfl | rfl | rfl | rfl | rfl | rfl | rfl
    exacts [.inr ⟨builtinNames, by simp, rfl⟩, .inr ⟨mainNames, by simp, rfl⟩,
      .inr ⟨systemNames, by simp, rfl⟩, .inl (bare _ _ rfl), .inl (bare _ _ rfl),
      .inl (bare _ _ rfl), .inl (bare _ _ rfl), .inl (bare _ _ rfl),
      .inr ⟨finderNames, by simp, rfl⟩, .inl (bare _ _ rfl)]
  · exact .inl (bare _ _ rfl)

/-- The fixed objects refer to one another only. -/
theorem closed_heap : heap.Closed := by
  intro handle cell found part member
  have inside : cell ∈ cells := by
    rw [Heap.get?_of_address (Heap.not_isNull_of_get? found), heap, Array.getElem?_map] at found
    obtain ⟨other, there, same⟩ := Option.map_eq_some_iff.mp (Option.join_eq_some_iff.mp found)
    exact Option.some.inj same ▸ Array.mem_of_getElem? there
  have size : heap.cells.size = cells.size := Array.size_map
  rw [size]
  obtain empty | ⟨names, among, rfl⟩ := references_eq_nil inside
  · rw [empty] at member
    cases member
  · have references : (moduleCell names).references = [names] := by
      simp [moduleCell, Cell.references, Body.references]
    rw [references, List.mem_singleton] at member
    subst member
    simp only [List.mem_cons, List.not_mem_nil, or_false] at among
    rcases among with rfl | rfl | rfl | rfl
    exacts [address_le get?_builtinNames, address_le get?_mainNames, address_le get?_systemNames,
      address_le get?_finderNames]

end Fixed

namespace Machine

/-- On the machine on which nothing has run there is nothing to settle. -/
theorem rested_bare (outside : List Handle) : bare.Rested outside where
  heap handle cell found above := by
    have := (Heap.address_le_of_get? found).2
    have size : bare.heap.cells.size = bare.heap.base := Array.size_map
    omega
  interned := nofun
  finalized := nofun

/-- At the start all objects are there for good. -/
theorem rested_start (outside : List Handle) : start.Rested outside :=
  (rested_reclaim (Run.start.on bare).2 []).raise outside

theorem grounded_bare : bare.Grounded bare.heap.cells.size where
  mark := Nat.le_refl _
  closed := Fixed.closed_heap
  handling := nofun

end Machine

end ForeignBridge.Foreign
