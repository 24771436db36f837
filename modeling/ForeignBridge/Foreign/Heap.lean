import ForeignBridge.Foreign.Cell

/-! # The heap

The heap holds the cells of all objects by address. Addresses are given out in order and never
again. An object is referred to by other cells and from outside; one that nothing refers to is
freed, and so in turn is everything that only freed objects referred to. Objects in a cycle keep one
another. The objects below a base address are there for good.
-/

namespace ForeignBridge.Foreign

/-- The cells by address: the object at address `n + 1` stands at index `n`. -/
structure Heap where
  cells : Array (Option Cell)
  /-- How many objects are there for good. -/
  base : Nat
deriving Inhabited

namespace Heap

/-- The cell of an object. -/
def get? (heap : Heap) (handle : Handle) : Option Cell :=
  if handle.isNull then none else heap.cells[handle.address - 1]?.join

/-- The heap with another cell for an object that is there. -/
def set (heap : Heap) (handle : Handle) (cell : Cell) : Heap :=
  if handle.isNull then heap
  else { heap with cells := heap.cells.setIfInBounds (handle.address - 1) (some cell) }

/-- Whether a handle is of an object that is there. -/
def has (heap : Heap) (handle : Handle) : Bool := (heap.get? handle).isSome

/-- Whether an object holds a text and has nothing else. -/
def isText (heap : Heap) (handle : Handle) (text : CodePoints) : Bool :=
  (heap.get? handle).any (·.isText text)

/-- The heap with other content for an object, unless that is fixed. -/
def revise (heap : Heap) (handle : Handle) (cell : Cell) : Heap :=
  if (heap.get? handle).any Cell.isFixed then heap else heap.set handle cell

/-- The heap with one more object, and that object. -/
def add (heap : Heap) (cell : Cell) : Handle × Heap :=
  (⟨heap.cells.size + 1⟩, { heap with cells := heap.cells.push (some cell) })

/-- How many references to an object there are in a cell, if it is one. -/
def weight (handle : Handle) : Option Cell → Nat
  | some cell => cell.references.count handle
  | none => 0

/-- How many references to an object there are in other objects. -/
def references (heap : Heap) (handle : Handle) : Nat :=
  heap.cells.foldl (fun count cell => count + weight handle cell) 0

/-- One more reference in a table of counts by address. -/
def bump (counts : Array Nat) (handle : Handle) : Array Nat :=
  if handle.isNull then counts else counts.modify (handle.address - 1) (· + 1)

/-- One more for each reference in a cell, if it is one. -/
def bumpCell (counts : Array Nat) : Option Cell → Array Nat
  | some cell => cell.references.foldl bump counts
  | none => counts

/-- How many references to each object there are, those from outside included. -/
def counts (heap : Heap) (outside : List Handle) : Array Nat :=
  outside.foldl bump (heap.cells.foldl bumpCell (Array.replicate heap.cells.size 0))

/-- Takes back the references of a freed cell; objects that lose their last one are freed next. -/
def dropReferences (base : Nat) (counts : Array Nat) (pending : List Nat) :
    List Handle → Array Nat × List Nat
  | [] => (counts, pending)
  | handle :: rest =>
    if handle.isNull then dropReferences base counts pending rest
    else
      let index := handle.address - 1
      let left := counts[index]?.getD 0 - 1
      let counts := counts.setIfInBounds index left
      if left = 0 ∧ base ≤ index ∧ index < counts.size then
        dropReferences base counts (index :: pending) rest
      else dropReferences base counts pending rest

/-- Frees the objects at some indices and what only they refer to. -/
def free : Nat → Array (Option Cell) → Nat → Array Nat → List Nat → Array (Option Cell)
  | 0, cells, _, _, _ => cells
  | _, cells, _, _, [] => cells
  | fuel + 1, cells, base, counts, index :: pending =>
    match cells[index]?.join with
    | none => free fuel cells base counts pending
    | some cell =>
      let (counts, pending) := dropReferences base counts pending cell.references
      free fuel (cells.setIfInBounds index none) base counts pending

/-- The heap without the objects that nothing refers to, given the references from outside. -/
def reclaim (heap : Heap) (outside : List Handle) : Heap :=
  let counts := heap.counts outside
  let idle := (List.range' heap.base (heap.cells.size - heap.base)).filter fun index =>
    counts[index]?.getD 0 == 0
  { heap with cells := free (2 * heap.cells.size + 1) heap.cells heap.base counts idle }

/-- How memory changes while code runs: nothing is freed, and what is fixed stays as it is. -/
structure Grows (before after : Heap) : Prop where
  base : after.base = before.base
  size : before.cells.size ≤ after.cells.size
  kept : ∀ {handle cell}, before.get? handle = some cell →
    ∃ now, after.get? handle = some now ∧ (cell.isFixed = true → now = cell)

namespace Grows

theorem refl (heap : Heap) : heap.Grows heap :=
  ⟨rfl, Nat.le_refl _, fun found => ⟨_, found, fun _ => rfl⟩⟩

theorem trans {first second third : Heap} (early : first.Grows second)
    (late : second.Grows third) : first.Grows third := by
  refine ⟨late.base.trans early.base, Nat.le_trans early.size late.size, fun found => ?_⟩
  obtain ⟨middle, inMiddle, same⟩ := early.kept found
  obtain ⟨last, inLast, still⟩ := late.kept inMiddle
  refine ⟨last, inLast, fun fixed => ?_⟩
  obtain rfl := same fixed
  exact still fixed

/-- An object that is there stays there. -/
theorem has {before after : Heap} (grown : before.Grows after) {handle : Handle}
    (present : before.has handle = true) : after.has handle = true := by
  obtain ⟨cell, found⟩ := Option.isSome_iff_exists.mp present
  obtain ⟨now, inAfter, _⟩ := grown.kept found
  exact Option.isSome_iff_exists.mpr ⟨now, inAfter⟩

/-- A fixed object stays as it is. -/
theorem fixed {before after : Heap} (grown : before.Grows after) {handle : Handle} {cell : Cell}
    (found : before.get? handle = some cell) (isFixed : cell.isFixed = true) :
    after.get? handle = some cell := by
  obtain ⟨now, inAfter, same⟩ := grown.kept found
  rw [inAfter, same isFixed]

end Grows

@[simp] theorem get?_null (heap : Heap) : heap.get? .null = none := rfl

theorem get?_of_address {heap : Heap} {handle : Handle} (present : handle.isNull = false) :
    heap.get? handle = heap.cells[handle.address - 1]?.join := by
  simp only [get?, present, Bool.false_eq_true, ↓reduceIte]

theorem not_isNull_of_get? {heap : Heap} {handle : Handle} {cell : Cell}
    (found : heap.get? handle = some cell) : handle.isNull = false := by
  cases null : handle.isNull with
  | false => rfl
  | true => simp only [get?, null, ↓reduceIte, reduceCtorEq] at found

/-- An object stands at an address that has been given out. -/
theorem address_le_of_get? {heap : Heap} {handle : Handle} {cell : Cell}
    (found : heap.get? handle = some cell) :
    0 < handle.address ∧ handle.address ≤ heap.cells.size := by
  have present := not_isNull_of_get? found
  rw [get?_of_address present, Option.join_eq_some_iff, Array.getElem?_eq_some_iff] at found
  obtain ⟨bound, _⟩ := found
  have positive : handle.address ≠ 0 := by simpa [Handle.isNull] using present
  omega

end Heap

/-- Two handles with one address are one. -/
theorem address_sub_one_inj {a b : Handle} (left : a.isNull = false) (right : b.isNull = false)
    (same : a.address - 1 = b.address - 1) : a = b := by
  have : a.address ≠ 0 := by simpa [Handle.isNull] using left
  have : b.address ≠ 0 := by simpa [Handle.isNull] using right
  cases a; cases b
  simp only [Handle.mk.injEq] at *
  omega

namespace Heap

/-- Other content for an object changes nothing else. -/
theorem get?_set_of_ne {heap : Heap} {handle other : Handle} {cell : Cell} (ne : other ≠ handle) :
    (heap.set handle cell).get? other = heap.get? other := by
  unfold set
  split
  · rfl
  · rename_i present
    cases null : other.isNull with
    | true => simp only [get?, null, ↓reduceIte]
    | false =>
      have apart : handle.address - 1 ≠ other.address - 1 := fun same =>
        ne (address_sub_one_inj null (by simpa using present) same.symm)
      simp only [get?, null, Bool.false_eq_true, ↓reduceIte, Array.getElem?_setIfInBounds, apart]

/-- An object that is there has the content that it is given. -/
theorem get?_set_self {heap : Heap} {handle : Handle} {cell old : Cell}
    (found : heap.get? handle = some old) : (heap.set handle cell).get? handle = some cell := by
  have present := not_isNull_of_get? found
  have bound := address_le_of_get? found
  simp only [set, get?, present, Bool.false_eq_true, ↓reduceIte, Array.getElem?_setIfInBounds,
    Option.join_eq_some_iff]
  rw [if_pos (by omega)]

theorem get?_revise_self {heap : Heap} {handle : Handle} {cell old : Cell}
    (found : heap.get? handle = some old) (free : old.isFixed = false) :
    (heap.revise handle cell).get? handle = some cell := by
  rw [revise, found, Option.any_some, free, if_neg Bool.false_ne_true]
  exact get?_set_self found

/-- A new object has an address that no other one has had. -/
theorem get?_add_self (heap : Heap) (cell : Cell) :
    (heap.add cell).2.get? (heap.add cell).1 = some cell := by
  simp [add, get?, Handle.isNull]

theorem get?_add_of_get? {heap : Heap} {handle : Handle} {cell content : Cell}
    (found : heap.get? handle = some cell) : (heap.add content).2.get? handle = some cell := by
  have present := not_isNull_of_get? found
  have bound := address_le_of_get? found
  rw [get?_of_address present] at found ⊢
  simp only [add]
  rw [Array.getElem?_push_lt (by omega)]
  rw [Array.getElem?_eq_getElem (by omega)] at found
  exact found

theorem size_set (heap : Heap) (handle : Handle) (cell : Cell) :
    (heap.set handle cell).cells.size = heap.cells.size := by
  unfold set
  split
  · rfl
  · exact Array.size_setIfInBounds

theorem grows_add (heap : Heap) (cell : Cell) : heap.Grows (heap.add cell).2 :=
  ⟨rfl, by simp [add], fun found => ⟨_, get?_add_of_get? found, fun _ => rfl⟩⟩

theorem grows_revise (heap : Heap) (handle : Handle) (cell : Cell) :
    heap.Grows (heap.revise handle cell) := by
  unfold revise
  split
  · exact .refl heap
  · rename_i free
    refine ⟨by unfold set; split <;> rfl, Nat.le_of_eq (size_set heap handle cell).symm, fun {other old} found => ?_⟩
    by_cases same : other = handle
    · subst same
      refine ⟨cell, get?_set_self found, fun isFixed => ?_⟩
      rw [found] at free
      exact (free (by simpa using isFixed)).elim
    · exact ⟨old, (get?_set_of_ne same).trans found, fun _ => rfl⟩

end Heap

end ForeignBridge.Foreign
