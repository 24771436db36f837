import ForeignBridge.Proofs.Foreign.Reclaim
import Mathlib.Data.Finset.Max

/-! # What goes when references are given back

An object goes when nothing outside refers to it and everything that refers to it goes. Freeing follows
counts from one object to the next, and still frees just these objects. So what is left depends on which
references from outside are left in the end, and not on the order in which the others were given back. A
new structure that nothing refers to goes as a whole, and what it stood on stays.
-/

namespace ForeignBridge.Foreign

namespace Heap

variable {heap : Heap} {outside early later : List Handle} {handle : Handle} {cell : Cell}

/-- That an object goes: it is above the base, nothing outside refers to it, and each object that refers
to it goes. Of objects in a cycle none goes, since they keep one another. -/
inductive Abandoned (heap : Heap) (outside : List Handle) : Handle → Prop
  | of_referrers {handle : Handle} (present : heap.has handle = true)
      (above : heap.base < handle.address) (foreign : handle ∉ outside)
      (each : ∀ other cell, heap.get? other = some cell → handle ∈ cell.references →
        Abandoned heap outside other) : Abandoned heap outside handle

namespace Abandoned

theorem present (gone : heap.Abandoned outside handle) : heap.has handle = true := by
  cases gone
  assumption

/-- The fewer references there are from outside, the more goes. -/
theorem mono (gone : heap.Abandoned early handle) (part : later ⊆ early) :
    heap.Abandoned later handle := by
  induction gone with
  | of_referrers present above foreign _ ih =>
    exact .of_referrers present above (fun member => foreign (part member)) ih

/-- Of a heap at rest nothing goes. -/
theorem false (gone : heap.Abandoned outside handle) (rested : heap.Rested outside) : False := by
  induction gone with
  | of_referrers present above foreign _ ih =>
    obtain ⟨cell, found⟩ := Option.isSome_iff_exists.mp present
    have positive := rested _ cell found above
    rw [List.count_eq_zero.mpr foreign, Nat.add_zero] at positive
    obtain ⟨other, content, there, part⟩ := exists_of_references positive
    exact ih other content there part

end Abandoned

/-- A cell that refers to an object counts among the references to it. -/
theorem total_pos {cells : List (Option Cell)} {index : ℕ} (found : cells[index]? = some (some cell))
    (part : handle ∈ cell.references) : 0 < total handle cells := by
  rw [total_set_none found]
  exact Nat.add_pos_right _ (List.count_pos_iff.mpr part)

theorem references_pos {other : Handle} (found : heap.get? other = some cell)
    (part : handle ∈ cell.references) : 0 < heap.references handle := by
  rw [get?_of_address (not_isNull_of_get? found)] at found
  rw [references_eq_total]
  exact total_pos (by rw [Array.getElem?_toList, Option.join_eq_some_iff.mp found]) part

/-! What freeing frees. -/

/-- The cells of a heap, but for some that go. -/
def LacksAbandoned (heap : Heap) (outside : List Handle) (cells : Array (Option Cell)) : Prop :=
  ∀ index, cells[index]?.join = heap.get? ⟨index + 1⟩ ∨
    cells[index]?.join = none ∧ heap.Abandoned outside ⟨index + 1⟩

/-- What is freed next goes as well: nothing that is left refers to it. -/
theorem LacksAbandoned.next {base first : ℕ} {cells : Array (Option Cell)} {counts : Array ℕ}
    {pending : List ℕ} (lacks : heap.LacksAbandoned outside cells) (base_eq : base = heap.base)
    (counted : Counted cells.toList outside counts) (idle : Idle base counts (first :: pending))
    (found : cells[first]?.join = some cell) : heap.Abandoned outside ⟨first + 1⟩ := by
  obtain ⟨above, zero, -⟩ := counted.free idle found
  have there : heap.get? ⟨first + 1⟩ = some cell := by
    rcases lacks first with same | ⟨none, _⟩
    · rw [← same, found]
    · rw [none] at found
      cases found
  refine .of_referrers (Option.isSome_iff_exists.mpr ⟨cell, there⟩) (base_eq ▸ Nat.lt_succ_of_le above)
    (List.count_eq_zero.mp (Nat.eq_zero_of_add_eq_zero_left zero)) fun other content holds part => ?_
  obtain ⟨slot, rfl⟩ := exists_slot (not_isNull_of_get? holds)
  rcases lacks slot with same | ⟨_, gone⟩
  · -- a cell that is left has its references in the count, which is zero
    have left := Option.join_eq_some_iff.mp (same.trans holds)
    have positive := total_pos (by rwa [Array.getElem?_toList]) part
    omega
  · exact gone

/-- What is freed goes. -/
theorem lacksAbandoned_free {base : ℕ} (fuel : ℕ) {cells : Array (Option Cell)} {counts : Array ℕ}
    {pending : List ℕ} (lacks : heap.LacksAbandoned outside cells) (base_eq : base = heap.base)
    (counted : Counted cells.toList outside counts) (idle : Idle base counts pending) :
    heap.LacksAbandoned outside (free fuel cells base counts pending) := by
  induction fuel generalizing cells counts pending with
  | zero => exact lacks
  | succ fuel ih =>
    cases pending with
    | nil => exact lacks
    | cons first pending =>
      rw [free]
      cases found : cells[first]?.join with
      | none =>
        exact ih lacks counted fun index member => idle index (List.mem_cons_of_mem _ member)
      | some cell =>
        obtain ⟨_, _, after, still⟩ := counted.free idle found
        refine ih (fun index => ?_) after still
        by_cases same : first = index
        · subst same
          have none : (cells.setIfInBounds first none)[first]?.join = .none := by
            rw [Array.getElem?_setIfInBounds_self]
            split <;> rfl
          exact .inr ⟨none, lacks.next base_eq counted idle found⟩
        · rw [Array.getElem?_setIfInBounds_ne same]
          exact lacks index

/-- What goes is freed: the first of it that was left would have a reference. -/
theorem Abandoned.get?_reclaim (gone : heap.Abandoned outside handle) :
    (heap.reclaim outside).get? handle = none := by
  induction gone with
  | @of_referrers handle _ above foreign _ ih =>
    rw [Option.eq_none_iff_forall_ne_some]
    intro cell found
    have positive := rested_reclaim heap outside handle cell found above
    rw [List.count_eq_zero.mpr foreign, Nat.add_zero] at positive
    obtain ⟨other, content, there, part⟩ := exists_of_references positive
    rw [ih other content (get?_of_get?_reclaim there) part] at there
    cases there

/-- Nothing that is left refers to what goes. -/
theorem Abandoned.references_reclaim (gone : heap.Abandoned outside handle) :
    (heap.reclaim outside).references handle = 0 := by
  by_contra positive
  obtain ⟨other, content, there, part⟩ := exists_of_references (Nat.pos_of_ne_zero positive)
  cases gone with
  | of_referrers _ _ _ each =>
    rw [(each other content (get?_of_get?_reclaim there) part).get?_reclaim] at there
    cases there

/-- Freeing frees what goes. -/
theorem get?_reclaim_eq_none_iff (present : heap.has handle = true) :
    (heap.reclaim outside).get? handle = none ↔ heap.Abandoned outside handle := by
  refine ⟨fun none => ?_, Abandoned.get?_reclaim⟩
  obtain ⟨cell, found⟩ := Option.isSome_iff_exists.mp present
  obtain ⟨slot, rfl⟩ := exists_slot (not_isNull_of_get? found)
  have whole : heap.LacksAbandoned outside heap.cells := fun index => .inl rfl
  have lacks := lacksAbandoned_free (2 * heap.cells.size + 1) whole rfl (counted_counts heap outside)
    (idle_idle heap outside)
  rcases lacks slot with same | ⟨_, gone⟩
  · have kept : (heap.reclaim outside).get? ⟨slot + 1⟩ = heap.get? ⟨slot + 1⟩ := same
    rw [none, found] at kept
    cases kept
  · exact gone

/-- What does not go stays as it is. -/
theorem get?_reclaim_of_not_abandoned (stays : ¬ heap.Abandoned outside handle) :
    (heap.reclaim outside).get? handle = heap.get? handle := by
  rcases get?_reclaim heap outside handle with same | ⟨none, _⟩
  · exact same
  · cases there : heap.get? handle with
    | none => exact none
    | some cell =>
      exact (stays ((get?_reclaim_eq_none_iff (Option.isSome_iff_exists.mpr ⟨cell, there⟩)).mp none)).elim

/-! That order does not matter. -/

/-- Heaps with the same objects are the same. -/
theorem ext_get? {left right : Heap} (base : left.base = right.base)
    (size : left.cells.size = right.cells.size)
    (cells : ∀ handle, left.get? handle = right.get? handle) : left = right := by
  obtain ⟨left, low⟩ := left
  obtain ⟨right, other⟩ := right
  obtain rfl : low = other := base
  have same : left = right := by
    refine Array.ext size fun index here there => ?_
    have := cells ⟨index + 1⟩
    rw [get?_of_address rfl, get?_of_address rfl] at this
    change left[index]?.join = right[index]?.join at this
    rwa [Array.getElem?_eq_getElem here, Array.getElem?_eq_getElem there] at this
  rw [same]

/-- Of what is left, those objects go later that would have gone then at once. -/
theorem abandoned_reclaim_iff (part : later ⊆ early)
    (left : (heap.reclaim early).has handle = true) :
    (heap.reclaim early).Abandoned later handle ↔ heap.Abandoned later handle := by
  constructor
  · intro gone
    clear left
    induction gone with
    | @of_referrers handle present above foreign _ ih =>
      obtain ⟨cell, found⟩ := Option.isSome_iff_exists.mp present
      refine .of_referrers (Option.isSome_iff_exists.mpr ⟨cell, get?_of_get?_reclaim found⟩) above foreign
        fun other content holds among => ?_
      -- what refers to it is still there, or has gone before
      by_cases before : heap.Abandoned early other
      · exact before.mono part
      · exact ih other content ((get?_reclaim_of_not_abandoned before).trans holds) among
  · intro gone
    induction gone with
    | of_referrers _ above foreign _ ih =>
      refine .of_referrers left above foreign fun other content holds among => ?_
      exact ih other content (get?_of_get?_reclaim holds) among (Option.isSome_iff_exists.mpr ⟨content, holds⟩)

/-- What is freed in between would be freed in the end. -/
theorem reclaim_reclaim (heap : Heap) (part : later ⊆ early) :
    (heap.reclaim early).reclaim later = heap.reclaim later := by
  refine ext_get? rfl (by rw [size_reclaim, size_reclaim, size_reclaim]) fun handle => ?_
  by_cases gone : heap.Abandoned later handle
  · rw [gone.get?_reclaim]
    by_cases left : (heap.reclaim early).has handle = true
    · exact ((abandoned_reclaim_iff part left).mpr gone).get?_reclaim
    · have stays : ¬ (heap.reclaim early).Abandoned later handle := fun gone => left gone.present
      rw [get?_reclaim_of_not_abandoned stays]
      exact Option.isNone_iff_eq_none.mp (by simpa [has] using left)
  · have stays : ¬ (heap.reclaim early).Abandoned later handle := fun again =>
      gone ((abandoned_reclaim_iff part again.present).mp again)
    rw [get?_reclaim_of_not_abandoned stays, get?_reclaim_of_not_abandoned gone]
    exact get?_reclaim_of_not_abandoned fun before => gone (before.mono part)

/-- At rest there is nothing to free. -/
theorem Rested.reclaim (rested : heap.Rested outside) : heap.reclaim outside = heap :=
  ext_get? rfl (size_reclaim heap outside) fun _ =>
    get?_reclaim_of_not_abandoned fun gone => gone.false rested

/-! New structures that nothing refers to go as a whole, and what they stood on stays. -/

section Grafts

variable {low : ℕ} {before after : Heap} (grafts : before.Grafts low (fun _ => False) after)

include grafts

/-- Of a new structure that nothing refers to nothing is left: the highest object that was left would
have a reference. -/
theorem Grafts.get?_reclaim_new
    (base : before.base ≤ before.cells.size) (mark : low ≤ before.cells.size)
    (closed : before.Closed) (outer : ∀ handle ∈ outside, handle.address ≤ before.cells.size)
    {handle : Handle} (new : before.cells.size < handle.address) :
    (after.reclaim outside).get? handle = none := by
  rw [Option.eq_none_iff_forall_ne_some]
  intro cell found
  obtain ⟨rank, descends⟩ := grafts.ranked
  let left : Finset ℕ := {address ∈ Finset.range (after.cells.size + 1) |
    before.cells.size < address ∧ ((after.reclaim outside).get? ⟨address⟩).isSome = true}
  have inLeft {other : Handle} {cell : Cell} (beyond : before.cells.size < other.address)
      (there : (after.reclaim outside).get? other = some cell) : other.address ∈ left := by
    have small := (address_le_of_get? there).2
    rw [size_reclaim] at small
    rw [Finset.mem_filter, Finset.mem_range]
    exact ⟨Nat.lt_succ_of_le small, beyond, Option.isSome_iff_exists.mpr ⟨cell, there⟩⟩
  obtain ⟨top, member, highest⟩ := Finset.exists_max_image left rank ⟨_, inLeft new found⟩
  obtain ⟨_, beyond, present⟩ := Finset.mem_filter.mp member
  obtain ⟨content, there⟩ := Option.isSome_iff_exists.mp present
  have rested := rested_reclaim after outside ⟨top⟩ content there
    ((grafts.base ▸ base).trans_lt beyond)
  have foreign : (⟨top⟩ : Handle) ∉ outside := fun inside => by
    have := outer ⟨top⟩ inside
    change top ≤ _ at this
    omega
  rw [List.count_eq_zero.mpr foreign, Nat.add_zero] at rested
  obtain ⟨other, cell, holds, part⟩ := exists_of_references rested
  have was : after.get? other = some cell := get?_of_get?_reclaim holds
  by_cases old : other.address ≤ before.cells.size
  · rw [grafts.old old id] at was
    have := closed other cell was ⟨top⟩ part
    change top ≤ _ at this
    omega
  · have above := descends (not_le.mp old) was ⟨top⟩ part (mark.trans_lt beyond)
    exact absurd (highest _ (inLeft (not_le.mp old) holds)) (not_le.mpr above)

/-- What was there does not go with a new structure, if nothing of it was to go before. -/
theorem Grafts.stays (rested : before.Rested outside) (old : handle.address ≤ before.cells.size) :
    ¬ after.Abandoned outside handle := by
  intro gone
  induction gone with
  | @of_referrers handle present above foreign _ ih =>
    obtain ⟨cell, found⟩ := Option.isSome_iff_exists.mp present
    rw [grafts.old old id] at found
    have positive := rested handle cell found (grafts.base ▸ above)
    rw [List.count_eq_zero.mpr foreign, Nat.add_zero] at positive
    obtain ⟨other, content, there, part⟩ := exists_of_references positive
    have before := (address_le_of_get? there).2
    exact ih other content ((grafts.old before id).trans there) part before

/-- A new structure that nothing refers to is freed as a whole, and all that was there stays. -/
theorem Grafts.reclaim (base : before.base ≤ before.cells.size) (mark : low ≤ before.cells.size)
    (closed : before.Closed) (rested : before.Rested outside)
    (outer : ∀ handle ∈ outside, handle.address ≤ before.cells.size) :
    after.reclaim outside = before.pad (after.cells.size - before.cells.size) := by
  have size : (before.pad (after.cells.size - before.cells.size)).cells.size = after.cells.size := by
    rw [pad, Array.size_append, Array.size_replicate]
    exact Nat.add_sub_of_le grafts.size
  refine ext_get? grafts.base ((size_reclaim after outside).trans size.symm) fun handle => ?_
  rw [get?_pad]
  by_cases old : handle.address ≤ before.cells.size
  · exact (get?_reclaim_of_not_abandoned (grafts.stays rested old)).trans (grafts.old old id)
  · rw [grafts.get?_reclaim_new base mark closed outer (not_le.mp old)]
    exact (get?_of_size_lt (not_le.mp old)).symm

end Grafts

/-! What goes because of some references. -/

/-- What goes once references have been given back was held by an object that one of them was to. -/
theorem Abandoned.reached (gone : heap.Abandoned later handle) (rested : heap.Rested early) :
    ∃ root ∈ early, root ∉ later ∧ Relation.ReflTransGen heap.RefersTo root handle := by
  induction gone with
  | @of_referrers handle present above foreign _ ih =>
    obtain ⟨cell, found⟩ := Option.isSome_iff_exists.mp present
    have positive := rested handle cell found above
    by_cases member : handle ∈ early
    · exact ⟨handle, member, foreign, .refl⟩
    · rw [List.count_eq_zero.mpr member, Nat.add_zero] at positive
      obtain ⟨other, content, there, part⟩ := exists_of_references positive
      obtain ⟨root, was, given, path⟩ := ih other content there part
      exact ⟨root, was, given, path.tail ⟨content, there, part⟩⟩

/-! References that go along with what refers. -/

/-- How many references to an object there are in the objects that another heap does not have. -/
def lost (before after : Heap) (handle : Handle) : ℕ :=
  ((List.range before.cells.size).map fun index =>
    if after.has ⟨index + 1⟩ then 0 else weight handle (before.get? ⟨index + 1⟩)).sum

theorem references_eq_sum (heap : Heap) (handle : Handle) : heap.references handle =
    ((List.range heap.cells.size).map fun index => weight handle (heap.get? ⟨index + 1⟩)).sum := by
  rw [references_eq_total, total]
  congr 1
  refine List.ext_getElem (by simp) fun index here there => ?_
  rw [List.length_map, Array.length_toList] at here
  rw [List.getElem_map, List.getElem_map, List.getElem_range, Array.getElem_toList,
    get?_of_address rfl]
  change _ = weight handle heap.cells[index]?.join
  rw [Array.getElem?_eq_getElem here, Option.join_some]

/-- An object loses the references that freed objects had to it, and no others. -/
theorem references_reclaim (heap : Heap) (outside : List Handle) (handle : Handle) :
    heap.references handle =
      (heap.reclaim outside).references handle + heap.lost (heap.reclaim outside) handle := by
  rw [references_eq_sum, references_eq_sum, lost, size_reclaim, ← List.sum_map_add]
  congr 1
  refine List.map_congr_left fun index _ => ?_
  rcases get?_reclaim heap outside ⟨index + 1⟩ with same | ⟨none, _⟩
  · rw [same, has, same]
    cases heap.get? ⟨index + 1⟩ <;> rfl
  · rw [none, has, none]
    exact (Nat.zero_add _).symm

/-! What the rest of a heap looks like to code. -/

/-- A heap that has some objects of another one, each with all that it refers to. -/
structure Leaves (before after : Heap) : Prop where
  low : ∀ {handle}, handle.address ≤ before.base → after.get? handle = before.get? handle
  back : ∀ {handle cell}, after.get? handle = some cell → before.get? handle = some cell
  parts : ∀ {handle cell}, after.get? handle = some cell → ∀ part ∈ cell.references,
    after.get? part = before.get? part

theorem leaves_reclaim (heap : Heap) (outside : List Handle) : heap.Leaves (heap.reclaim outside) where
  low {handle} low := by
    rcases get?_reclaim heap outside handle with same | ⟨_, above, _⟩
    · exact same
    · omega
  back := get?_of_get?_reclaim
  parts {handle cell} found part member := by
    refine get?_reclaim_of_not_abandoned fun gone => ?_
    cases gone with
    | of_referrers _ _ _ each =>
      -- what refers to it would have gone
      rw [(each handle cell (get?_of_get?_reclaim found) member).get?_reclaim] at found
      cases found

end Heap

namespace Heap

/-- What code sees of an object, which may not be there. -/
def shown (heap : Heap) (handle : Handle) : Cell := (heap.get? handle).getD (.ofCore .object .plain)

/-- What an object refers to is as it was if the object is. -/
theorem Leaves.parts_shown {before after : Heap} {handle : Handle} (leaves : before.Leaves after)
    (seen : after.get? handle = before.get? handle) :
    ∀ part ∈ (before.shown handle).references, after.get? part = before.get? part := by
  intro part member
  rw [shown] at member
  cases found : before.get? handle with
  | none =>
    rw [found, Option.getD_none, Cell.references_ofCore] at member
    exact (List.not_mem_nil member).elim
  | some cell =>
    rw [found, Option.getD_some] at member
    exact leaves.parts (seen.trans found) part member

end Heap

namespace Run

variable {α β : Type} {before after : Machine} {handle : Handle}

/-- That a run only looks, and finds the same on two machines. -/
def Agrees (run : Run α) (before after : Machine) : Prop :=
  ∃ result, run.on before = (.ok result, before) ∧ run.on after = (.ok result, after)

namespace Agrees

theorem pure (value : α) : Agrees (pure value) before after := ⟨value, rfl, rfl⟩

theorem bind {first : Run α} {next : α → Run β} (head : Agrees first before after)
    (tail : ∀ value, Agrees (next value) before after) : Agrees (first >>= next) before after := by
  obtain ⟨value, here, there⟩ := head
  obtain ⟨result, this, that⟩ := tail value
  exact ⟨result, (on_bind _ here).trans this, (on_bind _ there).trans that⟩

variable (seen : after.heap.get? handle = before.heap.get? handle)

include seen

theorem cell_bind {next : Cell → Run β}
    (tail : Agrees (next (before.heap.shown handle)) before after) :
    Agrees (cell handle >>= next) before after := by
  obtain ⟨result, here, there⟩ := tail
  have same : (cell handle).on after = (.ok (before.heap.shown handle), after) := by
    rw [Heap.shown, ← seen]
    rfl
  exact ⟨result, (on_bind _ rfl).trans here, (on_bind _ same).trans there⟩

theorem body_bind {next : Body → Run β}
    (tail : Agrees (next (before.heap.shown handle).body) before after) :
    Agrees (body handle >>= next) before after := by
  rw [body, bind_assoc]
  exact .cell_bind seen (by rwa [pure_bind])

end Agrees

/-! Looking an attribute up in the classes of an object follows references only. -/

section Leaves

variable (leaves : before.heap.Leaves after.heap)

theorem findText_agrees (text : CodePoints) (hash : ℤ) {entries : List Entry}
    (keys : ∀ entry ∈ entries, after.heap.get? entry.key = before.heap.get? entry.key) :
    Agrees (findText text hash entries) before after := by
  induction entries with
  | nil => exact .pure none
  | cons entry rest ih =>
    obtain ⟨key, others⟩ := List.forall_mem_cons.mp keys
    have known : Agrees (text? entry.key) before after := by
      refine .body_bind key ?_
      split <;> exact .pure _
    refine known.bind fun found => ?_
    split
    · exact .pure _
    · exact ih others

include leaves

theorem getName?_agrees (name : String) (seen : after.heap.get? handle = before.heap.get? handle) :
    Agrees (getName? handle name) before after := by
  refine Agrees.bind ?_ fun found => .pure _
  rw [entryNamed?, dictionary, bind_assoc]
  refine .body_bind seen ?_
  have parts := leaves.parts_shown seen
  split
  · rename_i content same
    rw [pure_bind]
    refine findText_agrees _ _ fun entry member => parts _ (List.mem_append_right _ ?_)
    rw [same]
    exact List.mem_flatMap.mpr ⟨entry, member, List.mem_cons_self ..⟩
  · rw [pure_bind]
    exact findText_agrees _ _ (List.forall_mem_nil _)

theorem inClass?_agrees (name : String) (seen : after.heap.get? handle = before.heap.get? handle) :
    Agrees (inClass? handle name) before after := by
  refine .body_bind seen ?_
  split
  · exact .pure _
  · refine .cell_bind seen ?_
    split
    · rename_i dict same
      refine getName?_agrees leaves name (leaves.parts_shown seen dict ?_)
      simp [Cell.references, same]
    · exact .pure _

theorem lookup_agrees (name : String) {classes : List Handle}
    (seen : ∀ cls ∈ classes, after.heap.get? cls = before.heap.get? cls) :
    Agrees (lookup name classes) before after := by
  induction classes with
  | nil => exact .pure none
  | cons cls rest ih =>
    obtain ⟨first, others⟩ := List.forall_mem_cons.mp seen
    refine (inClass?_agrees leaves name first).bind fun found => ?_
    cases found with
    | some found => exact .pure _
    | none => exact ih others

variable (sound : before.heap.Sound)

include sound

/-- The built-in classes are there for good. -/
theorem seen_core {index : ℕ} (bound : index < Core.all.size) :
    after.heap.get? ⟨index + 1⟩ = before.heap.get? ⟨index + 1⟩ := by
  have fixed : Core.all.size ≤ Fixed.cells.size := by
    simp only [Fixed.cells, Array.size_append, Array.size_map]
    omega
  have low : index + 1 ≤ before.heap.base := bound.trans_le (fixed.trans sound.base)
  exact leaves.low low

theorem typeAttribute_agrees (name : String)
    (seen : after.heap.get? handle = before.heap.get? handle) :
    Agrees (typeAttribute handle name) before after := by
  rw [typeAttribute, typeOf, bind_assoc]
  refine .cell_bind seen ?_
  rw [pure_bind]
  have type : after.heap.get? (before.heap.shown handle).type =
      before.heap.get? (before.heap.shown handle).type := by
    cases known : Core.ofHandle? (before.heap.shown handle).type with
    | none =>
      refine leaves.parts_shown seen _ ?_
      simp [Cell.references, known]
    | some core =>
      unfold Core.ofHandle? at known
      split at known
      · cases known
      · rename_i object
        obtain ⟨slot, same⟩ := Heap.exists_slot (by simpa using object)
        rw [same] at known ⊢
        exact seen_core leaves sound (Array.getElem?_eq_some_iff.mp known).1
  unfold classEntry? lineage
  rw [bind_assoc]
  refine .body_bind type ?_
  split
  · rename_i core _
    rw [pure_bind]
    refine lookup_agrees leaves name (List.forall_mem_map.mpr fun core _ => ?_)
    exact seen_core leaves sound core.ctorIdx_lt
  · rename_i info same
    rw [pure_bind]
    refine lookup_agrees leaves name fun cls member => leaves.parts_shown type cls ?_
    refine List.mem_append_right _ ?_
    rw [same]
    exact List.mem_cons_of_mem _ (List.mem_cons_of_mem _ member)
  · rw [pure_bind]
    exact .pure none

end Leaves

end Run

namespace Machine

variable {machine : Machine} {outside early later : List Handle} {handle : Handle}

/-- What is freed in between would be freed in the end. -/
theorem reclaim_reclaim (machine : Machine) (part : later ⊆ early) :
    (machine.reclaim early).reclaim later = machine.reclaim later := by
  have heap := machine.heap.reclaim_reclaim part
  have still {handle : Handle} (left : ((machine.heap.reclaim later).get? handle).isSome = true) :
      ((machine.heap.reclaim early).get? handle).isSome = true := by
    obtain ⟨cell, found⟩ := Option.isSome_iff_exists.mp left
    rw [← heap] at found
    exact Option.isSome_iff_exists.mpr ⟨cell, (Heap.leaves_reclaim _ later).back found⟩
  simp only [reclaim, heap, List.filter_filter, Machine.mk.injEq, Registers.mk.injEq, true_and]
  refine ⟨List.filter_congr fun handle _ => ?_, List.filter_congr fun entry _ => ?_⟩
  · exact Bool.and_eq_left_iff_imp.mpr still
  · exact Bool.and_eq_left_iff_imp.mpr still

/-- At rest there is nothing to free. -/
theorem Rested.reclaim (rested : machine.Rested outside) : machine.reclaim outside = machine := by
  have interned : machine.interned.filter (fun entry => (machine.heap.get? entry.2).isSome) =
      machine.interned := List.filter_eq_self.mpr rested.interned
  have finalized : machine.finalized.filter (fun handle => (machine.heap.get? handle).isSome) =
      machine.finalized := List.filter_eq_self.mpr rested.finalized
  simp only [Machine.reclaim, rested.heap.reclaim, interned, finalized]

/-- That what goes has no finalizer that is still to be called. -/
def Unguarded (machine : Machine) (outside : List Handle) : Prop :=
  ∀ handle, machine.heap.Abandoned outside handle → machine.finalizer? handle = none

theorem Unguarded.mono (unguarded : machine.Unguarded later) (part : later ⊆ early) :
    machine.Unguarded early := fun handle gone => unguarded handle (gone.mono part)

/-- What is left of a machine has the finalizers that it had. -/
theorem finalizer?_reclaim (sound : machine.heap.Sound)
    (left : (machine.reclaim outside).heap.has handle = true) :
    (machine.reclaim outside).finalizer? handle = machine.finalizer? handle := by
  obtain ⟨cell, found⟩ := Option.isSome_iff_exists.mp left
  have leaves := Heap.leaves_reclaim machine.heap outside
  have finalized : (machine.reclaim outside).finalized.contains handle =
      machine.finalized.contains handle := by
    rw [Bool.eq_iff_iff, List.contains_iff_mem, List.contains_iff_mem]
    exact List.mem_filter.trans (and_iff_left left)
  have seen : (machine.reclaim outside).heap.get? handle = machine.heap.get? handle :=
    found.trans (leaves.back found).symm
  obtain ⟨entry, here, there⟩ := @Run.typeAttribute_agrees machine (machine.reclaim outside) handle
    leaves sound "__del__" seen
  rw [finalizer?, finalizer?, finalized, here, there]

/-- Freeing what goes anyway leaves nothing with a finalizer to go. -/
theorem Unguarded.reclaim (unguarded : machine.Unguarded later) (sound : machine.heap.Sound)
    (part : later ⊆ early) : (machine.reclaim early).Unguarded later := by
  intro handle gone
  rw [finalizer?_reclaim sound gone.present]
  exact unguarded handle ((Heap.abandoned_reclaim_iff part gone.present).mp gone)

/-- Settling only frees, as long as nothing that goes has a finalizer. -/
theorem Unguarded.settle (unguarded : machine.Unguarded outside) :
    machine.settle outside = machine.reclaim outside := by
  have none : (machine.unfinalized.find? fun handle =>
      ((machine.reclaim (outside ++ machine.unfinalized)).heap.counts outside)[handle.address - 1]?.getD 0
        == 0) = .none := by
    rw [List.find?_eq_none]
    intro handle member idle
    obtain ⟨above, finalizer, cell, found⟩ := mem_unfinalized member
    -- it has no reference from outside or from what is left while everything with a finalizer stays
    have kept : (machine.heap.reclaim (outside ++ machine.unfinalized)).has handle = true :=
      (Heap.Spares.reclaim machine.heap _).has handle (List.mem_append_right _ member)
        (Option.isSome_iff_exists.mpr ⟨cell, found⟩)
    obtain ⟨slot, rfl⟩ := Heap.exists_slot (Heap.not_isNull_of_get? found)
    have count := (Heap.counted_counts (machine.heap.reclaim (outside ++ machine.unfinalized))
      outside).level slot (by
        obtain ⟨content, there⟩ := Option.isSome_iff_exists.mp kept
        rw [Array.length_toList]
        exact (Heap.address_le_of_get? there).2)
    have zero : Heap.level ((machine.heap.reclaim (outside ++ machine.unfinalized)).counts outside)
        slot = 0 := beq_iff_eq.mp idle
    rw [count, ← Heap.references_eq_total] at zero
    have gone : machine.heap.Abandoned outside ⟨slot + 1⟩ := by
      refine (Heap.abandoned_reclaim_iff (List.subset_append_left _ _) kept).mp ?_
      refine .of_referrers kept above (List.count_eq_zero.mp ?_) fun other content there part => ?_
      · omega
      · have := Heap.references_pos there part
        omega
    rw [unguarded _ gone] at finalizer
    cases finalizer
  have within (fuel : ℕ) : settleWithin outside fuel machine = machine.reclaim outside := by
    cases fuel with
    | zero => rfl
    | succ fuel => simp only [settleWithin, none]
  unfold Machine.settle
  split
  · exact within _
  · rfl

section Grafts

variable {low : ℕ} {before after : Machine}
  (grafts : before.Grafts low (fun _ => False) after) (sound : before.heap.Sound)
  (grounded : before.Grounded low) (rested : before.Rested outside)
  (outer : ∀ handle ∈ outside, handle.address ≤ before.heap.cells.size)

include grafts sound grounded rested outer

/-- A new structure that nothing refers to is freed as a whole, and nothing else is changed. -/
theorem Grafts.reclaim :
    after.reclaim outside = before.pad (after.heap.cells.size - before.heap.cells.size) := by
  have heap := grafts.heap.reclaim sound.size grounded.mark grounded.closed rested.heap outer
  obtain ⟨registers, memory, interned⟩ := before
  obtain ⟨others, later, known⟩ := after
  obtain rfl : others = registers := grafts.registers
  obtain rfl : known = interned := grafts.interned
  have done : others.finalized.filter (fun handle =>
      ((memory.pad (later.cells.size - memory.cells.size)).get? handle).isSome) = others.finalized :=
    List.filter_eq_self.mpr fun handle member => by
      rw [Heap.get?_pad]
      exact rested.finalized handle member
  have words : known.filter (fun entry =>
      ((memory.pad (later.cells.size - memory.cells.size)).get? entry.2).isSome) = known :=
    List.filter_eq_self.mpr fun entry member => by
      rw [Heap.get?_pad]
      exact rested.interned entry member
  simp only [Machine.reclaim, pad, heap, done, words]

/-- A new structure has no finalizers, and those of other objects do not wait for it. -/
theorem Grafts.settle :
    after.settle outside = before.pad (after.heap.cells.size - before.heap.cells.size) := by
  have reclaimed := grafts.reclaim sound grounded rested outer
  refine (Unguarded.settle fun handle gone => ?_).trans reclaimed
  obtain ⟨cell, found⟩ := Option.isSome_iff_exists.mp gone.present
  have new : before.heap.cells.size < handle.address :=
    not_le.mp fun old => grafts.heap.stays rested.heap old gone
  exact finalizer?_of_unguarded (grafts.sound sound) found (grafts.heap.new new found).1

end Grafts

end Machine

end ForeignBridge.Foreign
