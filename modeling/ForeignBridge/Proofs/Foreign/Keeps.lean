import ForeignBridge.Proofs.Foreign.Settle

/-! # What a run keeps

A run that only makes objects and fills lists and dictionaries keeps the cells of all other objects as
they are. A machine that has more than another one has all that the other one has, apart from what has
been filled.
-/

namespace ForeignBridge.Foreign

/-- A cell of the class of lists or of that of dictionaries. -/
def Cell.IsContainer (cell : Cell) : Prop :=
  cell.type = Core.list.handle ∨ cell.type = Core.dict.handle

theorem Cell.not_isContainer {core : Core} {body : Body} (list : core ≠ .list)
    (dict : core ≠ .dict) : ¬ (Cell.ofCore core body).IsContainer := by
  rintro (same | same)
  · exact list (Core.handle_inj.mp same)
  · exact dict (Core.handle_inj.mp same)

namespace Heap

/-- Where a new object will stand there is none. -/
theorem get?_add_new (heap : Heap) (cell : Cell) : heap.get? (heap.add cell).1 = none := by
  rw [Option.eq_none_iff_forall_ne_some]
  intro content found
  have := (address_le_of_get? found).2
  simp [Heap.add] at this

/-- Other content for an object changes no other one. -/
theorem get?_revise_of_ne {heap : Heap} {handle other : Handle} {cell : Cell}
    (apart : other ≠ handle) : (heap.revise handle cell).get? other = heap.get? other := by
  unfold revise
  split
  · rfl
  · exact get?_set_of_ne apart

/-- How memory changes while some lists and dictionaries are filled. -/
structure Keeps (filled : Handle → Prop) (heap later : Heap) : Prop where
  size : heap.cells.size ≤ later.cells.size
  cells : ∀ {handle cell}, heap.get? handle = some cell →
    (cell.IsContainer → ¬ filled handle) → later.get? handle = some cell

namespace Keeps

variable {few many : Handle → Prop} {first second third : Heap}

theorem refl (filled : Handle → Prop) (heap : Heap) : heap.Keeps filled heap :=
  ⟨Nat.le_refl _, fun found _ => found⟩

theorem trans (early : first.Keeps few second) (late : second.Keeps few third) :
    first.Keeps few third :=
  ⟨early.size.trans late.size, fun found apart => late.cells (early.cells found apart) apart⟩

theorem mono (kept : first.Keeps few second) (part : ∀ handle, few handle → many handle) :
    first.Keeps many second :=
  ⟨kept.size, fun found apart => kept.cells found fun shape => apart shape ∘ part _⟩

/-- Where nothing is filled, nothing changes. -/
theorem all {filled : Handle → Prop} (kept : first.Keeps (fun _ => False) second) :
    first.Keeps filled second := kept.mono fun _ => False.elim

/-- What is filled counts for nothing if it was not there. -/
theorem of_new (kept : first.Keeps few second) (new : ∀ handle, few handle → first.get? handle = none) :
    first.Keeps (fun _ => False) second := by
  refine ⟨kept.size, fun {handle cell} found _ => kept.cells found fun _ filled => ?_⟩
  rw [new handle filled] at found
  cases found

theorem add (heap : Heap) (cell : Cell) : heap.Keeps (fun _ => False) (heap.add cell).2 :=
  ⟨by simp [Heap.add], fun found _ => get?_add_of_get? found⟩

/-- A container that is filled is all that changes. -/
theorem revise {heap : Heap} {container : Handle} {old : Cell}
    (found : heap.get? container = some old) (shape : old.IsContainer) (cell : Cell) :
    heap.Keeps (· = container) (heap.revise container cell) := by
  refine ⟨(grows_revise _ _ _).size, fun {handle content} there apart => ?_⟩
  by_cases same : handle = container
  · subst same
    rw [found, Option.some.injEq] at there
    exact (apart (there ▸ shape) rfl).elim
  · rw [get?_revise_of_ne same, there]

end Keeps

end Heap

namespace Machine

/-- A machine that has all that another one has, apart from what has been filled, and maybe more. What
has come to stand for a text holds that text. -/
structure Extends (filled : Handle → Prop) (before after : Machine) : Prop where
  registers : after.toRegisters = before.toRegisters
  grows : before.heap.Grows after.heap
  keeps : before.heap.Keeps filled after.heap
  interned : ∀ entry ∈ after.interned, entry ∈ before.interned ∨
    after.heap.get? entry.2 = some (.ofCore .str (.text entry.1))

namespace Extends

variable {filled more : Handle → Prop} {first second third : Machine}

theorem refl (filled : Handle → Prop) (machine : Machine) : machine.Extends filled machine :=
  ⟨rfl, .refl _, .refl _ _, fun _ => .inl⟩

theorem trans (early : first.Extends filled second) (late : second.Extends filled third) :
    first.Extends filled third := by
  refine ⟨late.registers.trans early.registers, early.grows.trans late.grows,
    early.keeps.trans late.keeps, fun entry member => ?_⟩
  obtain member | new := late.interned entry member
  · exact (early.interned entry member).imp_right fun there =>
      late.keeps.cells there fun shape => absurd shape (Cell.not_isContainer nofun nofun)
  · exact .inr new

theorem mono (kept : first.Extends filled second) (part : ∀ handle, filled handle → more handle) :
    first.Extends more second :=
  ⟨kept.registers, kept.grows, kept.keeps.mono part, kept.interned⟩

/-- Where nothing is filled, nothing changes. -/
theorem all (kept : first.Extends (fun _ => False) second) : first.Extends filled second :=
  kept.mono fun _ => False.elim

theorem sound (kept : first.Extends filled second) (sound : first.heap.Sound) :
    second.heap.Sound := sound.grows kept.grows

/-- An object that is there stays as it is where nothing is filled. -/
theorem cell {handle : Handle} {cell : Cell} (kept : first.Extends (fun _ => False) second)
    (found : first.heap.get? handle = some cell) : second.heap.get? handle = some cell :=
  kept.keeps.cells found fun _ => id

/-- A new object is one more. -/
theorem new (machine : Machine) (content : Cell) : machine.Extends (fun _ => False)
    { machine with heap := (machine.heap.add content).2 } :=
  ⟨rfl, Heap.grows_add _ _, .add _ _, fun _ => .inl⟩

/-- A container that is filled is all that changes. -/
theorem revise {machine : Machine} {container : Handle} {old : Cell}
    (found : machine.heap.get? container = some old) (shape : old.IsContainer) (cell : Cell) :
    machine.Extends (· = container) { machine with heap := machine.heap.revise container cell } :=
  ⟨rfl, Heap.grows_revise _ _ _, .revise found shape cell, fun _ => .inl⟩

/-- What is filled counts for nothing if it was not there. -/
theorem of_new (kept : first.Extends filled second)
    (new : ∀ handle, filled handle → first.heap.get? handle = none) :
    first.Extends (fun _ => False) second :=
  ⟨kept.registers, kept.grows, kept.keeps.of_new new, kept.interned⟩

/-- An object that is new may be filled. -/
theorem fill_new {machine after : Machine} {content : Cell}
    (kept : Extends (· = (machine.heap.add content).1)
      { machine with heap := (machine.heap.add content).2 } after) :
    machine.Extends (fun _ => False) after :=
  ((new machine content).all.trans kept).of_new fun _ same => same ▸ Heap.get?_add_new _ _

/-- An object that holds a text may stand for it. -/
theorem intern {machine : Machine} {text : CodePoints} {handle : Handle}
    (holds : machine.heap.get? handle = some (.ofCore .str (.text text))) :
    machine.Extends (fun _ => False)
      { machine with interned := (text, handle) :: machine.interned } := by
  refine ⟨rfl, .refl _, .refl _ _, fun entry member => ?_⟩
  obtain rfl | member := List.mem_cons.mp member
  · exact .inr holds
  · exact .inl member

end Extends

end Machine

end ForeignBridge.Foreign
