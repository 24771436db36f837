import Mathlib.Algebra.Order.BigOperators.Group.List
import Mathlib.Logic.Relation
import ForeignBridge.Proofs.Foreign.Attributes

/-! # New structures on old ones

A value becomes a structure of new objects that stands on objects that were there already. No old object
changes, a new one refers to new ones and to those that the structure stands on, and the new objects are
ranked: each refers to new ones of lower rank only, so they do not refer to one another in a circle.
While a container is being filled it is an old one that does change; once it is filled it is a new one.
-/

namespace ForeignBridge.Foreign

/-- A cell of a built-in class whose instances have no finalizer. -/
def Cell.IsUnguarded (cell : Cell) : Prop :=
  ∃ core, cell.type = Core.handle core ∧ core.lineage.findSome? (·.attribute? "__del__") = none

/-- A built-in class has no finalizer if there is none in the catalogue for it and those above it. -/
theorem Cell.isUnguarded_ofCore {core : Core} (body : Body)
    (guardless : ∀ above ∈ core.lineage, ∀ line ∈ Catalog.ofCore above, line.1 ≠ "__del__") :
    (Cell.ofCore core body).IsUnguarded := by
  refine ⟨core, rfl, List.findSome?_eq_none_iff.mpr fun above member => ?_⟩
  exact Core.attribute?_eq_none (by decide) (guardless above member)

/-- An instance of a built-in class without attributes refers to what its class keeps in it. -/
@[simp] theorem Cell.references_ofCore (core : Core) (body : Body) :
    (Cell.ofCore core body).references = body.references := by
  simp [references, ofCore, of]

/-- The address that the next object gets. -/
def Heap.next (heap : Heap) : Handle := ⟨heap.cells.size + 1⟩

/-- The machine with one more object. -/
def Machine.push (machine : Machine) (content : Cell) : Machine :=
  { machine with heap := (machine.heap.add content).2 }

namespace Heap

variable {low : ℕ} {filled few : Handle → Prop} {heap before after first second third : Heap}
  {cell content : Cell} {handle container part : Handle}

theorem get?_of_lt (low : handle.address ≤ heap.cells.size) (content : Cell) :
    (heap.add content).2.get? handle = heap.get? handle := by
  cases null : handle.isNull with
  | true => simp only [get?, null, ↓reduceIte]
  | false =>
    have positive : handle.address ≠ 0 := by simpa [Handle.isNull] using null
    rw [get?_of_address null, get?_of_address null, add, Array.getElem?_push_lt (by omega),
      Array.getElem?_eq_getElem (by omega)]

/-- Where nothing has been put yet there is nothing. -/
theorem get?_of_size_lt (beyond : heap.cells.size < handle.address) : heap.get? handle = none := by
  rw [Option.eq_none_iff_forall_ne_some]
  intro cell found
  have := (address_le_of_get? found).2
  omega

theorem size_add (heap : Heap) (content : Cell) :
    (heap.add content).2.cells.size = heap.cells.size + 1 := Array.size_push ..

/-- What is there once an object has been added was there, or is that object. -/
theorem get?_add_cases (found : (heap.add content).2.get? handle = some cell) :
    heap.get? handle = some cell ∨ handle = heap.next ∧ cell = content := by
  have bound := (address_le_of_get? found).2
  rw [size_add] at bound
  by_cases old : handle.address ≤ heap.cells.size
  · exact .inl ((get?_of_lt old content).symm.trans found)
  · obtain rfl : handle = heap.next := by
      obtain ⟨address⟩ := handle
      simp only [next, Handle.mk.injEq] at *
      omega
    exact .inr ⟨rfl, Option.some.inj (found.symm.trans (get?_add_self heap content))⟩

theorem address_add (heap : Heap) (content : Cell) :
    (heap.add content).1.address = heap.cells.size + 1 := rfl

theorem size_revise (heap : Heap) (handle : Handle) (content : Cell) :
    (heap.revise handle content).cells.size = heap.cells.size := by
  unfold revise
  split
  · rfl
  · exact size_set ..

/-- That a handle is not above a mark, or that it has been given out between two states of a heap. -/
def Near (low : ℕ) (before after : Heap) (handle : Handle) : Prop :=
  handle.address ≤ low ∨
    before.cells.size < handle.address ∧ handle.address ≤ after.cells.size

theorem Near.widen (near : Near low second third handle)
    (start : first.cells.size ≤ second.cells.size) (finish : third.cells.size ≤ after.cells.size) :
    Near low first after handle :=
  near.imp_right fun new => ⟨start.trans_lt new.1, new.2.trans finish⟩

/-- How memory changes while a structure is made that stands on objects up to a mark, and while some
containers are filled. -/
structure Grafts (low : ℕ) (filled : Handle → Prop) (before after : Heap) : Prop where
  base : after.base = before.base
  size : before.cells.size ≤ after.cells.size
  old : ∀ {handle}, handle.address ≤ before.cells.size → ¬ filled handle →
    after.get? handle = before.get? handle
  new : ∀ {handle cell}, before.cells.size < handle.address → after.get? handle = some cell →
    cell.IsUnguarded ∧ ∀ part ∈ cell.references, Near low before after part
  ranked : ∃ rank : ℕ → ℕ, ∀ {handle cell}, before.cells.size < handle.address →
    after.get? handle = some cell → ∀ part ∈ cell.references, low < part.address →
    rank part.address < rank handle.address

/-- That every object refers to addresses only that have been given out. -/
def Closed (heap : Heap) : Prop :=
  ∀ handle cell, heap.get? handle = some cell →
    ∀ part ∈ cell.references, part.address ≤ heap.cells.size

/-- That an object refers to another one. -/
def RefersTo (heap : Heap) (handle part : Handle) : Prop :=
  ∃ cell, heap.get? handle = some cell ∧ part ∈ cell.references

/-- A number above the ranks of all that a cell refers to. -/
private def above (rank : ℕ → ℕ) (cell : Cell) : ℕ :=
  (cell.references.map fun part => rank part.address).sum + 1

private theorem lt_above {rank : ℕ → ℕ} (member : part ∈ cell.references) :
    rank part.address < above rank cell :=
  Nat.lt_succ_of_le (List.le_sum_of_mem (List.mem_map.mpr ⟨part, member, rfl⟩))

namespace Grafts

theorem refl (low : ℕ) (filled : Handle → Prop) (heap : Heap) : heap.Grafts low filled heap where
  base := rfl
  size := Nat.le_refl _
  old _ _ := rfl
  new beyond found := by
    rw [get?_of_size_lt beyond] at found
    cases found
  ranked := ⟨id, fun beyond found => by
    rw [get?_of_size_lt beyond] at found
    cases found⟩

theorem mono (grafts : first.Grafts low few second) (part : ∀ handle, few handle → filled handle) :
    first.Grafts low filled second :=
  ⟨grafts.base, grafts.size, fun old apart => grafts.old old (apart ∘ part _), grafts.new,
    grafts.ranked⟩

/-- Where nothing is filled, nothing changes. -/
theorem all (grafts : first.Grafts low (fun _ => False) second) : first.Grafts low filled second :=
  grafts.mono fun _ => False.elim

theorem trans (early : first.Grafts low filled second) (late : second.Grafts low filled third)
    (there : ∀ handle, filled handle → handle.address ≤ first.cells.size) :
    first.Grafts low filled third := by
  have still {handle : Handle} (beyond : first.cells.size < handle.address)
      (bound : handle.address ≤ second.cells.size) : third.get? handle = second.get? handle :=
    late.old bound fun inside => by
      have := there handle inside
      omega
  obtain ⟨earlier, descends⟩ := early.ranked
  obtain ⟨later, falls⟩ := late.ranked
  refine ⟨late.base.trans early.base, early.size.trans late.size, fun bound apart => ?_,
    fun {handle cell} beyond found => ?_,
    fun address => if address ≤ second.cells.size then earlier address else later address,
    fun {handle cell} beyond found part member high => ?_⟩
  · rw [late.old (bound.trans early.size) apart, early.old bound apart]
  · by_cases bound : handle.address ≤ second.cells.size
    · rw [still beyond bound] at found
      obtain ⟨unguarded, near⟩ := early.new beyond found
      exact ⟨unguarded, fun part member => (near part member).widen (Nat.le_refl _) late.size⟩
    · obtain ⟨unguarded, near⟩ := late.new (not_le.mp bound) found
      exact ⟨unguarded, fun part member => (near part member).widen early.size (Nat.le_refl _)⟩
  -- what is new in the second step refers to nothing that was new in the first
  · by_cases bound : handle.address ≤ second.cells.size
    · rw [still beyond bound] at found
      have inner : part.address ≤ second.cells.size :=
        ((early.new beyond found).2 part member).elim (fun small => by omega) (·.2)
      simp only [bound, inner, ↓reduceIte]
      exact descends beyond found part member high
    · have inner : ¬ part.address ≤ second.cells.size :=
        ((late.new (not_le.mp bound) found).2 part member).elim (fun small => by omega)
          fun new => by omega
      simp only [bound, inner, ↓reduceIte]
      exact falls (not_le.mp bound) found part member high

/-- One more object that refers to old ones up to the mark and to new ones. -/
theorem push (grafts : first.Grafts low filled second) (unguarded : content.IsUnguarded)
    (near : ∀ part ∈ content.references, Near low first second part) :
    first.Grafts low filled (second.add content).2 := by
  obtain ⟨rank, descends⟩ := grafts.ranked
  have size := size_add second content
  have top {handle : Handle} (beyond : ¬ handle.address ≤ second.cells.size) {cell : Cell}
      (found : (second.add content).2.get? handle = some cell) :
      handle = (second.add content).1 ∧ cell = content := by
    have bound := (address_le_of_get? found).2
    have same : handle = (second.add content).1 := by
      cases handle
      simp only [add, Handle.mk.injEq] at *
      omega
    rw [same, get?_add_self, Option.some.injEq] at found
    exact ⟨same, found.symm⟩
  refine ⟨grafts.base, by have := grafts.size; omega, fun bound apart => ?_,
    fun {handle cell} beyond found => ?_,
    fun address => if address ≤ second.cells.size then rank address else above rank content,
    fun {handle cell} beyond found part member high => ?_⟩
  · rw [get?_of_lt (bound.trans grafts.size), grafts.old bound apart]
  · by_cases bound : handle.address ≤ second.cells.size
    · rw [get?_of_lt bound] at found
      obtain ⟨unguarded, near⟩ := grafts.new beyond found
      exact ⟨unguarded, fun part member => (near part member).widen (Nat.le_refl _) (by omega)⟩
    · obtain ⟨_, rfl⟩ := top bound found
      exact ⟨unguarded, fun part member => (near part member).widen (Nat.le_refl _) (by omega)⟩
  · by_cases bound : handle.address ≤ second.cells.size
    · rw [get?_of_lt bound] at found
      have inner : part.address ≤ second.cells.size :=
        ((grafts.new beyond found).2 part member).elim
          (fun small => by omega) (·.2)
      simp only [bound, inner, ↓reduceIte]
      exact descends beyond found part member high
    · obtain ⟨_, rfl⟩ := top bound found
      have inner : part.address ≤ second.cells.size :=
        (near part member).elim (fun small => by omega) (·.2)
      simp only [bound, inner, ↓reduceIte]
      exact lt_above member

/-- Other content for what is being filled makes no difference. -/
theorem revise (heap : Heap) (container : Handle) (content : Cell) :
    heap.Grafts low (· = container) (heap.revise container content) := by
  have grown := grows_revise heap container content
  have size := size_revise heap container content
  have beyond {handle : Handle} {cell : Cell} (new : heap.cells.size < handle.address)
      (found : (heap.revise container content).get? handle = some cell) : False := by
    have := (address_le_of_get? found).2
    omega
  refine ⟨grown.base, grown.size, fun _ apart => get?_revise_of_ne apart,
    fun new found => (beyond new found).elim, id, fun new found => (beyond new found).elim⟩

/-- A container that is new is filled with old ones up to the mark and with ones newer than itself. -/
theorem fill (grafts : (first.add content).2.Grafts low (· = (first.add content).1) second)
    (found : second.get? (first.add content).1 = some cell) (unguarded : cell.IsUnguarded)
    (near : ∀ part ∈ cell.references, Near low (first.add content).2 second part) :
    first.Grafts low filled second := by
  obtain ⟨rank, descends⟩ := grafts.ranked
  have size := size_add first content
  have grown := grafts.size
  have filledAt {handle : Handle} (beyond : first.cells.size < handle.address)
      (bound : ¬ (first.add content).2.cells.size < handle.address) {other : Cell}
      (there : second.get? handle = some other) : handle = (first.add content).1 ∧ other = cell := by
    have same : handle = (first.add content).1 := by
      cases handle
      simp only [Heap.add, Handle.mk.injEq] at *
      omega
    rw [same, found, Option.some.injEq] at there
    exact ⟨same, there.symm⟩
  refine ⟨grafts.base, by omega, fun {handle} bound _ => ?_, fun {handle other} beyond there => ?_,
    fun address => if address ≤ first.cells.size + 1 then above rank cell else rank address,
    fun {handle other} beyond there part member high => ?_⟩
  · have apart : handle ≠ (first.add content).1 := by
      rintro rfl
      rw [address_add] at bound
      omega
    rw [grafts.old (by omega) apart, get?_of_lt bound]
  · by_cases bound : (first.add content).2.cells.size < handle.address
    · obtain ⟨unguarded, near⟩ := grafts.new bound there
      exact ⟨unguarded, fun part member => (near part member).widen (by omega) (Nat.le_refl _)⟩
    · obtain ⟨_, rfl⟩ := filledAt beyond bound there
      exact ⟨unguarded, fun part member => (near part member).widen (by omega) (Nat.le_refl _)⟩
  · have inner (near : Near low (first.add content).2 second part) :
        ¬ part.address ≤ first.cells.size + 1 :=
      near.elim (fun small => by omega) fun new => by omega
    by_cases bound : (first.add content).2.cells.size < handle.address
    · have outer : ¬ handle.address ≤ first.cells.size + 1 := by omega
      simp only [outer, inner ((grafts.new bound there).2 part member), ↓reduceIte]
      exact descends bound there part member high
    · obtain ⟨_, rfl⟩ := filledAt beyond bound there
      have outer : handle.address ≤ first.cells.size + 1 := by omega
      simp only [outer, inner (near part member), ↓reduceIte]
      exact lt_above member

/-- Where each object has the same content memory is as good as the same. -/
theorem congr (grafts : first.Grafts low filled second) (base : third.base = second.base)
    (size : third.cells.size = second.cells.size)
    (same : ∀ handle, third.get? handle = second.get? handle) : first.Grafts low filled third where
  base := base.trans grafts.base
  size := size ▸ grafts.size
  old bound apart := (same _).trans (grafts.old bound apart)
  new beyond found := by
    rw [same] at found
    obtain ⟨unguarded, near⟩ := grafts.new beyond found
    exact ⟨unguarded, fun part member => (near part member).widen (Nat.le_refl _) size.ge⟩
  ranked := by
    obtain ⟨rank, descends⟩ := grafts.ranked
    exact ⟨rank, fun beyond found => descends beyond ((same _).symm.trans found)⟩

theorem grows (grafts : first.Grafts low (fun _ => False) second) : first.Grows second := by
  refine ⟨grafts.base, grafts.size, fun {handle cell} found => ⟨cell, ?_, fun _ => rfl⟩⟩
  rw [grafts.old (address_le_of_get? found).2 id, found]

/-- An object that was there stays as it is. -/
theorem keeps (grafts : first.Grafts low (fun _ => False) second) :
    first.Keeps (fun _ => False) second :=
  ⟨grafts.size, fun found _ => (grafts.old (address_le_of_get? found).2 id).trans found⟩

/-- What refers to addresses that have been given out still does. -/
theorem closed (grafts : first.Grafts low filled second) (closed : first.Closed)
    (bound : low ≤ first.cells.size) (refilled : ∀ handle, filled handle → ∀ cell,
      second.get? handle = some cell → ∀ part ∈ cell.references, part.address ≤ second.cells.size) :
    second.Closed := by
  have size := grafts.size
  intro handle cell found part member
  by_cases inside : filled handle
  · exact refilled handle inside cell found part member
  · by_cases old : handle.address ≤ first.cells.size
    · rw [grafts.old old inside] at found
      exact (closed handle cell found part member).trans size
    · exact ((grafts.new (not_le.mp old) found).2 part member).elim (fun small => by omega) (·.2)

/-- No new object stands on itself: what leads to a new object is new and of higher rank. -/
theorem acyclic (grafts : first.Grafts first.cells.size (fun _ => False) second)
    (closed : first.Closed) (beyond : first.cells.size < handle.address) :
    ¬ Relation.TransGen second.RefersTo handle handle := by
  obtain ⟨rank, descends⟩ := grafts.ranked
  have step {a b : Handle} (refers : second.RefersTo a b) (new : first.cells.size < b.address) :
      first.cells.size < a.address ∧ rank b.address < rank a.address := by
    obtain ⟨cell, found, member⟩ := refers
    have above : first.cells.size < a.address := by
      by_contra old
      rw [grafts.old (not_lt.mp old) id] at found
      exact absurd (closed a cell found b member) (not_le.mpr new)
    exact ⟨above, descends above found b member new⟩
  have falls {a b : Handle} (path : Relation.TransGen second.RefersTo a b)
      (new : first.cells.size < b.address) :
      first.cells.size < a.address ∧ rank b.address < rank a.address := by
    induction path with
    | single refers => exact step refers new
    | tail _ refers ih =>
      obtain ⟨between, less⟩ := step refers new
      exact ⟨(ih between).1, less.trans (ih between).2⟩
  exact fun circle => Nat.lt_irrefl _ (falls circle beyond).2

end Grafts

end Heap

namespace Machine

/-- How a machine changes while a structure is made and some containers are filled: memory apart, it
stays as it is. -/
structure Grafts (low : ℕ) (filled : Handle → Prop) (before after : Machine) : Prop where
  registers : after.toRegisters = before.toRegisters
  interned : after.interned = before.interned
  heap : before.heap.Grafts low filled after.heap

variable {low : ℕ} {filled : Handle → Prop} {machine first second third : Machine} {content : Cell}

namespace Grafts

theorem refl (low : ℕ) (filled : Handle → Prop) (machine : Machine) :
    machine.Grafts low filled machine := ⟨rfl, rfl, .refl low filled machine.heap⟩

theorem trans (early : first.Grafts low filled second) (late : second.Grafts low filled third)
    (there : ∀ handle, filled handle → handle.address ≤ first.heap.cells.size) :
    first.Grafts low filled third :=
  ⟨late.registers.trans early.registers, late.interned.trans early.interned,
    early.heap.trans late.heap there⟩

/-- Where nothing is filled, nothing changes. -/
theorem all (grafts : first.Grafts low (fun _ => False) second) : first.Grafts low filled second :=
  ⟨grafts.registers, grafts.interned, grafts.heap.all⟩

theorem push (grafts : first.Grafts low filled second) (unguarded : content.IsUnguarded)
    (near : ∀ part ∈ content.references, Heap.Near low first.heap second.heap part) :
    first.Grafts low filled (second.push content) :=
  ⟨grafts.registers, grafts.interned, grafts.heap.push unguarded near⟩

theorem sound (grafts : first.Grafts low (fun _ => False) second) (sound : first.heap.Sound) :
    second.heap.Sound := sound.grows grafts.heap.grows

end Grafts

/-- A machine on which new structures can stand on objects up to a mark even when something fails: no
object refers to an address that has not been given out, and an exception that is being handled is not
above the mark. -/
structure Grounded (low : ℕ) (machine : Machine) : Prop where
  mark : low ≤ machine.heap.cells.size
  closed : machine.heap.Closed
  handling : ∀ handled ∈ machine.handling, handled.address ≤ low

theorem Grounded.grafts (grounded : first.Grounded low)
    (grafts : first.Grafts low (fun _ => False) second) : second.Grounded low where
  mark := grounded.mark.trans grafts.heap.size
  closed := grafts.heap.closed grounded.closed grounded.mark nofun
  handling := by
    rw [show second.handling = first.handling from congrArg Registers.handling grafts.registers]
    exact grounded.handling

end Machine

end ForeignBridge.Foreign
