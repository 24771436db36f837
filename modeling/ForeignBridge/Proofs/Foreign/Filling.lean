import ForeignBridge.Foreign.Filling
import ForeignBridge.Proofs.Foreign.Grafts

/-! # Containers that are being filled

A list or a dictionary for a value is made empty and filled part by part. While that goes on it is the
only object that was there and changes; what is put into it is newer than itself or stands below the
mark. So at any time it can be taken for a new object that has been made of its parts at once.
-/

namespace ForeignBridge.Foreign

open Heap (Near)

variable {low : ℕ} {first machine last : Machine} {core : Core} {initial body : Body}

/-- A list or a dictionary has no finalizer. -/
theorem Cell.isUnguarded_container (either : core = .list ∨ core = .dict) (body : Body) :
    (Cell.ofCore core body).IsUnguarded := by
  rcases either with rfl | rfl <;> exact isUnguarded_ofCore body (by decide +kernel)

namespace Machine

/-- A container that is new and that has been filled so far with objects up to the mark and with ones
that are newer than itself. -/
structure Filling (low : ℕ) (first : Machine) (core : Core) (initial body : Body) (machine : Machine) :
    Prop where
  grafts : (first.push (.ofCore core initial)).Grafts low (· = first.heap.next) machine
  found : machine.heap.get? first.heap.next = some (.ofCore core body)
  near : ∀ part ∈ body.references, Near low (first.push (.ofCore core initial)).heap machine.heap part

namespace Filling

theorem opened (bare : ∀ part ∈ initial.references, part.address ≤ low) :
    Filling low first core initial initial (first.push (.ofCore core initial)) where
  grafts := .refl _ _ _
  found := Heap.get?_add_self ..
  near part member := .inl (bare part member)

variable (filling : Filling low first core initial body machine)

include filling

/-- At any time the container is as good as one that has been made with its parts. -/
theorem whole (unguarded : (Cell.ofCore core body).IsUnguarded) :
    first.Grafts low (fun _ => False) machine where
  registers := filling.grafts.registers
  interned := filling.grafts.interned
  heap := filling.grafts.heap.fill filling.found unguarded fun part member =>
    filling.near part (by rwa [Cell.references_ofCore] at member)

theorem size_le : first.heap.cells.size + 1 ≤ machine.heap.cells.size :=
  (Heap.size_add first.heap (.ofCore core initial)).symm.trans_le filling.grafts.heap.size

/-- What is new since some time during the filling is newer than the container. -/
theorem widen {part : Handle} (near : Near low machine.heap last.heap part) :
    Near low (first.push (.ofCore core initial)).heap last.heap part :=
  Near.widen near filling.grafts.heap.size (Nat.le_refl _)

/-- New objects make no difference. -/
theorem later (grafts : machine.Grafts low (fun _ => False) last) :
    Filling low first core initial body last where
  grafts := filling.grafts.trans grafts.all fun _ same => by
    rw [same]
    exact (Heap.size_add first.heap (.ofCore core initial)).ge
  found := (grafts.heap.old filling.size_le id).trans filling.found
  near part member := (filling.near part member).widen (Nat.le_refl _) grafts.heap.size

/-- The container may be given other parts. -/
theorem refill {other : Body} (free : (Cell.ofCore core body).isFixed = false)
    (near : ∀ part ∈ other.references,
      Near low (first.push (.ofCore core initial)).heap machine.heap part) :
    Filling low first core initial other { machine with
      heap := machine.heap.revise first.heap.next (.ofCore core other) } where
  grafts := filling.grafts.trans
    ⟨rfl, rfl, Heap.Grafts.revise machine.heap first.heap.next (.ofCore core other)⟩ fun _ same => by
      rw [same]
      exact (Heap.size_add first.heap (.ofCore core initial)).ge
  found := Heap.get?_revise_self filling.found free
  near part member := (near part member).widen (Nat.le_refl _) (Heap.size_revise ..).ge

end Filling

end Machine

namespace Run

variable {list item : Handle} {items : List Handle} {place : ℕ}

/-- To put an object at a place of a list changes nothing but that place. -/
theorem on_setPlace (found : machine.heap.get? list = some (.ofCore .list (.list items)))
    (inside : place < items.length) (item : Handle) :
    (setPlace list place item).on machine = (.ok (), { machine with
      heap := machine.heap.revise list (.ofCore .list (.list (items.set place item))) }) := by
  rw [setPlace, on_bind _ (on_body found)]
  change (fillPlace _ place item >>= _).on _ = _
  rw [fillPlace, if_pos inside, on_bind _ (on_pure _)]
  exact on_setBody found _

end Run

namespace Machine

/-- An object is put at a place of a list that is being filled. -/
theorem Filling.setPlace {items : List Handle} {place : ℕ} {item : Handle}
    (filling : Filling low first .list initial (.list items) machine) (inside : place < items.length)
    (near : Near low (first.push (.ofCore .list initial)).heap machine.heap item) : ∃ last,
      (Run.setPlace first.heap.next place item).on machine = (.ok (), last) ∧
      Filling low first .list initial (.list (items.set place item)) last ∧
      machine.heap.Keeps (· = first.heap.next) last.heap := by
  refine ⟨_, Run.on_setPlace filling.found inside item, filling.refill ?_ fun part member => ?_,
    .revise filling.found (.inl rfl) _⟩
  · simp [Cell.isFixed, Cell.ofCore, Cell.of]
  · obtain old | rfl := List.mem_or_eq_of_mem_set member
    · exact filling.near part old
    · exact near

/-- A value is put under a key without parts of a dictionary that is being filled, as a pair is put into
the map that the dictionary stands for. -/
theorem Filling.dictSet {content : Dictionary} {reads : Handle → Value → Prop}
    {pairs : List (Value × Value)} {handle value : Handle} {key image : Value} {scalar : Scalar}
    (filling : Filling low first .dict (.dict .empty) (.dict content) machine)
    (sound : machine.heap.Sound) (placed : content.Placed)
    (holds : List.Forall₂ (Entry.Holds machine.heap reads) content.entries pairs)
    (near : ∀ {handle value}, reads handle value →
      Near low (first.push (.ofCore .dict (.dict .empty))).heap machine.heap handle)
    (isKey : IsKey machine.heap handle key scalar) (named : reads handle key)
    (read : reads value image)
    (apart : ∀ entry ∈ content.entries, entry.key = handle → key.sameKey key = true)
    (invoke : Invoke) : ∃ after last,
      (Run.dictSet invoke first.heap.next handle value).on machine = (.ok (), last) ∧
      Filling low first .dict (.dict .empty) (.dict after) last ∧
      machine.heap.Keeps (· = first.heap.next) last.heap ∧ after.Placed ∧
      List.Forall₂ (Entry.Holds machine.heap reads) after.entries (key.putPair image pairs) := by
  obtain ⟨after, step, placed, holds⟩ := Run.on_dictSet invoke sound filling.found rfl isKey named
    read holds apart placed
  refine ⟨after, _, step, filling.refill (by simp [Cell.isFixed, Cell.ofCore, Cell.of])
    fun part member => ?_, .revise filling.found (.inr rfl) _, placed, holds⟩
  obtain ⟨entry, inside, either⟩ := List.mem_flatMap.mp member
  obtain ⟨pair, held⟩ := exists_of_forall₂ holds inside
  rcases List.mem_pair.mp either with rfl | rfl
  · exact near held.key
  · exact near held.value

/-- A dictionary that is new and that has been filled so far under keys without parts. -/
structure Keyed (low : ℕ) (first : Machine) (content : Dictionary) (machine : Machine) : Prop where
  filling : Filling low first .dict (.dict .empty) (.dict content) machine
  placed : content.Placed
  holds : ∃ pairs, List.Forall₂ (Entry.Holds machine.heap fun handle _ =>
    Near low (first.push (.ofCore .dict (.dict .empty))).heap machine.heap handle)
      content.entries pairs

namespace Keyed

variable {content : Dictionary}

theorem empty : Keyed low first .empty (first.push (.ofCore .dict (.dict .empty))) where
  filling := .opened nofun
  placed := ⟨.nil, nofun⟩
  holds := ⟨[], .nil⟩

/-- New objects make no difference. -/
theorem later (keyed : Keyed low first content machine)
    (grafts : machine.Grafts low (fun _ => False) last) : Keyed low first content last where
  filling := keyed.filling.later grafts
  placed := keyed.placed
  holds := by
    obtain ⟨pairs, holds⟩ := keyed.holds
    exact ⟨pairs, holds.imp fun _ _ held => held.keeps grafts.heap.keeps fun near =>
      near.widen (Nat.le_refl _) grafts.heap.size⟩

/-- The keys that are in the dictionary have been there. -/
theorem address_le (keyed : Keyed low first content machine) {entry : Entry}
    (member : entry ∈ content.entries) : entry.key.address ≤ machine.heap.cells.size := by
  obtain ⟨pairs, holds⟩ := keyed.holds
  obtain ⟨pair, held⟩ := exists_of_forall₂ holds member
  obtain ⟨_, known, _⟩ := held.found
  obtain ⟨_, found, _⟩ := known.cell
  exact (Heap.address_le_of_get? found).2

/-- A value is put under a key without parts. -/
theorem dictSet (keyed : Keyed low first content machine) (sound : machine.heap.Sound)
    {handle value : Handle} {key : Value} {scalar : Scalar}
    (isKey : IsKey machine.heap handle key scalar)
    (named : Near low (first.push (.ofCore .dict (.dict .empty))).heap machine.heap handle)
    (read : Near low (first.push (.ofCore .dict (.dict .empty))).heap machine.heap value)
    (apart : ∀ entry ∈ content.entries, entry.key = handle → key.sameKey key = true)
    (invoke : Invoke) : ∃ after last,
      (Run.dictSet invoke first.heap.next handle value).on machine = (.ok (), last) ∧
      Keyed low first after last := by
  obtain ⟨pairs, holds⟩ := keyed.holds
  obtain ⟨after, last, step, filling, kept, placed, holds⟩ := @Filling.dictSet low first machine
    content (fun handle _ => Near low (first.push (.ofCore .dict (.dict .empty))).heap machine.heap
      handle) pairs handle value key .null scalar keyed.filling sound keyed.placed holds id isKey named
    read apart invoke
  exact ⟨after, last, step, filling, placed, _, holds.imp fun _ _ held =>
    held.keeps kept fun near => near.widen (Nat.le_refl _) kept.size⟩

end Keyed

end Machine

end ForeignBridge.Foreign
