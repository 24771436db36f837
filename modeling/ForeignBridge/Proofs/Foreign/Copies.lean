import ForeignBridge.Proofs.Foreign.Filling
import Mathlib.Data.List.Flatten
import Mathlib.Data.List.Nodup

/-! # Copies of values

A value has a copy in memory: a list or a dictionary for each container of the value, an object for each
number and each text, the singletons for nothing and for truth values, and an object for itself. What
matters about a copy beside the value is which containers it is made of. What lies behind an object that
stands for itself is no part of the copy.
-/

namespace ForeignBridge

open Foreign

namespace Value

variable {α : Type} {key : Value} {image : α} {rows : List (Value × α)}

/-- Images under keys with one more: the first key that is the same stays, with the new image. -/
def putUnder (key : Value) (image : α) : List (Value × α) → List (Value × α)
  | [] => [(key, image)]
  | (other, old) :: rest =>
    if other.sameKey key then (other, image) :: rest else (other, old) :: putUnder key image rest

/-- A value is put into a map as anything is that the value belongs to. -/
theorem map_putUnder (f : α → Value) (key : Value) (image : α) (rows : List (Value × α)) :
    (key.putUnder image rows).map (Prod.map id f) =
      key.putPair (f image) (rows.map (Prod.map id f)) := by
  induction rows with
  | nil => rfl
  | cons row rest ih =>
    obtain ⟨other, old⟩ := row
    rw [putUnder, List.map_cons, Prod.map_apply, id, putPair]
    split
    · rfl
    · rw [List.map_cons, ih, Prod.map_apply, id]

/-- What is put under a key is all that is new; what has been there may be lost. -/
theorem putUnder_subperm :
    ((key.putUnder image rows).map Prod.snd).Subperm (image :: rows.map Prod.snd) := by
  induction rows with
  | nil => exact .refl _
  | cons row rest ih =>
    obtain ⟨other, old⟩ := row
    rw [putUnder]
    split
    · exact ((List.sublist_cons_self old _).cons_cons image).subperm
    · exact ((List.subperm_cons old).mpr ih).trans (List.Perm.swap image old _).subperm

end Value

namespace Foreign

/-- An object for a value, and the containers that it is made of. -/
structure Copy where
  value : Value
  handle : Handle
  containers : List Handle

namespace Copy

/-- That a copy is there in memory. A list and a dictionary hold the objects of the copies of their parts;
the containers of such a copy are itself and then, in order, those of the copies of its parts. -/
inductive Stored (heap : Heap) : Copy → Prop
  | null : Stored heap ⟨.null, Fixed.none, []⟩
  | bool (b : Bool) : Stored heap ⟨.bool b, Run.truth b, []⟩
  | int {n handle} (found : heap.get? handle = some (.ofCore .int (.int (Int64.toInt n)))) :
      Stored heap ⟨.int n, handle, []⟩
  | float {x handle} (found : heap.get? handle = some (.ofCore .float (.float x))) :
      Stored heap ⟨.float x, handle, []⟩
  | text {s handle} (found : heap.get? handle = some (.ofCore .str (.text (.ofString s)))) :
      Stored heap ⟨.text s, handle, []⟩
  | object (handle : Handle) : Stored heap ⟨.object handle, handle, []⟩
  | list {handle} {copies : List Copy}
      (found : heap.get? handle = some (.ofCore .list (.list (copies.map Copy.handle))))
      (each : ∀ copy ∈ copies, Stored heap copy) :
      Stored heap ⟨.list (copies.map value), handle, handle :: copies.flatMap containers⟩
  | map {handle} {content : Dictionary} {pairs : List (Copy × Copy)}
      (found : heap.get? handle = some (.ofCore .dict (.dict content)))
      (entries : content.entries.map (fun entry => (entry.key, entry.value)) =
        pairs.map fun pair => (pair.1.handle, pair.2.handle))
      (keys : ∀ pair ∈ pairs, Stored heap pair.1) (values : ∀ pair ∈ pairs, Stored heap pair.2) :
      Stored heap ⟨.map (pairs.map fun pair => (pair.1.value, pair.2.value)), handle,
        handle :: pairs.flatMap fun pair => pair.1.containers ++ pair.2.containers⟩

variable {filled : Handle → Prop} {heap later : Heap} {copy : Copy} {copies others : List Copy}
  {mark : ℕ}

/-- A copy stays as it is while other containers are filled. -/
theorem Stored.keeps (stored : copy.Stored heap) (kept : heap.Keeps filled later)
    (apart : ∀ container ∈ copy.containers, ¬ filled container) : copy.Stored later := by
  have plain {handle : Handle} {core : Core} {body : Body}
      (found : heap.get? handle = some (.ofCore core body)) (list : core ≠ .list)
      (dict : core ≠ .dict) : later.get? handle = some (.ofCore core body) :=
    kept.cells found fun shape => absurd shape (Cell.not_isContainer list dict)
  induction stored with
  | null => exact .null
  | bool b => exact .bool b
  | int found => exact .int (plain found nofun nofun)
  | float found => exact .float (plain found nofun nofun)
  | text found => exact .text (plain found nofun nofun)
  | object handle => exact .object handle
  | list found each ih =>
    obtain ⟨here, apart⟩ := List.forall_mem_cons.mp apart
    exact .list (kept.cells found fun _ => here) fun copy member => ih copy member
      fun container inner => apart container (List.mem_flatMap.mpr ⟨copy, member, inner⟩)
  | map found entries keys values keyIh valueIh =>
    obtain ⟨here, apart⟩ := List.forall_mem_cons.mp apart
    have inside (pair : Copy × Copy) (member : pair ∈ _) (container : Handle)
        (inner : container ∈ pair.1.containers ++ pair.2.containers) : ¬ filled container :=
      apart container (List.mem_flatMap.mpr ⟨pair, member, inner⟩)
    exact .map (kept.cells found fun _ => here) entries
      (fun pair member => keyIh pair member fun container inner =>
        inside pair member container (List.mem_append_left _ inner))
      fun pair member => valueIh pair member fun container inner =>
        inside pair member container (List.mem_append_right _ inner)

/-- An object is its own copy. -/
theorem Stored.handle_eq {given handle : Handle} {inner : List Handle}
    (stored : Stored heap ⟨.object given, handle, inner⟩) : handle = given := by
  cases stored
  rfl

/-- Copies that are there in memory and share no container, all of them above a mark. -/
structure Apart (mark : ℕ) (heap : Heap) (copies : List Copy) : Prop where
  stored : ∀ copy ∈ copies, copy.Stored heap
  distinct : (copies.flatMap containers).Nodup
  new : ∀ container ∈ copies.flatMap containers,
    mark < container.address ∧ container.address ≤ heap.cells.size

namespace Apart

theorem nil (mark : ℕ) (heap : Heap) : Apart mark heap [] := ⟨nofun, .nil, nofun⟩

/-- A copy without containers is apart from all others. -/
theorem bare {value : Value} {handle : Handle} (mark : ℕ) (stored : Stored heap ⟨value, handle, []⟩) :
    Apart mark heap [⟨value, handle, []⟩] :=
  ⟨List.forall_mem_singleton.mpr stored, .nil, nofun⟩

theorem subperm (apart : Apart mark heap copies) (part : others.Subperm copies) :
    Apart mark heap others := by
  obtain ⟨same, perm, sub⟩ := part
  have inner : (others.flatMap containers).Perm (same.flatMap containers) :=
    (perm.flatMap_right containers).symm
  have outer := sub.flatMap containers
  exact ⟨fun copy member => apart.stored copy (sub.subset (perm.mem_iff.mpr member)),
    inner.nodup_iff.mpr (apart.distinct.sublist outer),
    fun container member => apart.new container (outer.subset (inner.mem_iff.mp member))⟩

/-- Copies stay as they are while a container is filled that is not above the mark. -/
theorem keeps (apart : Apart mark heap copies) (kept : heap.Keeps filled later)
    (old : ∀ handle, filled handle → handle.address ≤ mark) : Apart mark later copies where
  stored copy member := (apart.stored copy member).keeps kept fun container inner touched => by
    have := (apart.new container (List.mem_flatMap.mpr ⟨copy, member, inner⟩)).1
    have := old container touched
    omega
  distinct := apart.distinct
  new container member :=
    ⟨(apart.new container member).1, (apart.new container member).2.trans kept.size⟩

/-- A copy whose containers are newer than all others is one more. -/
theorem cons (fresh : Apart heap.cells.size later [copy]) (apart : Apart mark heap copies)
    (kept : heap.Keeps (fun _ => False) later) (low : mark ≤ heap.cells.size) :
    Apart mark later (copy :: copies) := by
  have others := apart.keeps kept fun _ => False.elim
  have top (container : Handle) (member : container ∈ copy.containers) :=
    fresh.new container (by rwa [List.flatMap_singleton])
  refine ⟨List.forall_mem_cons.mpr ⟨fresh.stored copy (List.mem_singleton_self copy),
    others.stored⟩, ?_, fun container member => ?_⟩
  · rw [List.flatMap_cons]
    refine List.Nodup.append ?_ apart.distinct fun container new old => ?_
    · simpa only [List.flatMap_singleton] using fresh.distinct
    · have := (top container new).1
      have := (apart.new container old).2
      omega
  · rw [List.flatMap_cons, List.mem_append] at member
    obtain member | member := member
    · exact ⟨low.trans_lt (top container member).1, (top container member).2⟩
    · exact others.new container member

/-- A container that is older than all in it is a copy together with them. -/
theorem enclose {value : Value} {handle : Handle} (apart : Apart handle.address heap copies)
    (stored : Stored heap ⟨value, handle, handle :: copies.flatMap containers⟩)
    (new : mark < handle.address) (bound : handle.address ≤ heap.cells.size) :
    Apart mark heap [⟨value, handle, handle :: copies.flatMap containers⟩] where
  stored := List.forall_mem_singleton.mpr stored
  distinct := by
    rw [List.flatMap_singleton]
    refine List.nodup_cons.mpr ⟨fun inner => ?_, apart.distinct⟩
    exact Nat.lt_irrefl _ (apart.new handle inner).1
  new container member := by
    rw [List.flatMap_singleton] at member
    obtain rfl | member := List.mem_cons.mp member
    · exact ⟨new, bound⟩
    · exact ⟨new.trans (apart.new container member).1, (apart.new container member).2⟩

end Apart

end Copy

namespace Machine

/-- A dictionary that is new and that has been filled so far with copies of values under keys without
parts. -/
structure Copying (low : ℕ) (first : Machine) (rows : List (Value × Copy)) (content : Dictionary)
    (machine : Machine) : Prop where
  filling : Filling low first .dict (.dict .empty) (.dict content) machine
  placed : content.Placed
  holds : List.Forall₂ (Entry.Holds machine.heap fun handle value =>
    Heap.Near low (first.push (.ofCore .dict (.dict .empty))).heap machine.heap handle ∧
      Copy.Stored machine.heap ⟨value, handle, []⟩)
    content.entries (rows.map (Prod.map id fun copy => .object copy.handle))
  apart : Copy.Apart first.heap.next.address machine.heap (rows.map Prod.snd)

namespace Copying

variable {low : ℕ} {first machine last : Machine} {rows : List (Value × Copy)} {content : Dictionary}

theorem empty : Copying low first [] .empty (first.push (.ofCore .dict (.dict .empty))) where
  filling := .opened nofun
  placed := ⟨.nil, nofun⟩
  holds := .nil
  apart := .nil _ _

theorem keyed (copying : Copying low first rows content machine) :
    Keyed low first content machine where
  filling := copying.filling
  placed := copying.placed
  holds := ⟨_, copying.holds.imp fun _ _ held => held.keeps (.refl (fun _ => False) _) And.left⟩

/-- What is new elsewhere makes no difference. -/
theorem later (copying : Copying low first rows content machine)
    (grafts : machine.Grafts low (fun _ => False) last) : Copying low first rows content last where
  filling := copying.filling.later grafts
  placed := copying.placed
  holds := copying.holds.imp fun _ _ held => held.keeps grafts.heap.keeps fun ⟨near, stored⟩ =>
    ⟨near.widen (Nat.le_refl _) grafts.heap.size, stored.keeps grafts.heap.keeps fun _ _ => id⟩
  apart := copying.apart.keeps grafts.heap.keeps fun _ => False.elim

/-- The copy of a value is put under a key without parts. -/
theorem dictSet {copy : Copy} (copying : Copying low first rows content machine)
    (sound : machine.heap.Sound) {handle : Handle} {key : Value} {scalar : Scalar}
    (isKey : IsKey machine.heap handle key scalar)
    (named : Heap.Near low (first.push (.ofCore .dict (.dict .empty))).heap machine.heap handle)
    (stored : Copy.Stored machine.heap ⟨key, handle, []⟩)
    (read : Heap.Near low (first.push (.ofCore .dict (.dict .empty))).heap machine.heap copy.handle)
    (apart : ∀ entry ∈ content.entries, entry.key = handle → key.sameKey key = true)
    (fresh : Copy.Apart first.heap.next.address machine.heap (copy :: rows.map Prod.snd))
    (invoke : Invoke) : ∃ after last,
      (Run.dictSet invoke first.heap.next handle copy.handle).on machine = (.ok (), last) ∧
      Copying low first (key.putUnder copy rows) after last := by
  obtain ⟨after, last, step, filling, kept, placed, holds⟩ := copying.filling.dictSet sound
    copying.placed copying.holds And.left isKey ⟨named, stored⟩ ⟨read, .object copy.handle⟩ apart invoke
  refine ⟨after, last, step, filling, placed, ?_, ?_⟩
  · rw [Value.map_putUnder]
    exact holds.imp fun _ _ held => held.keeps kept fun ⟨near, stored⟩ =>
      ⟨near.widen (Nat.le_refl _) kept.size, stored.keeps kept nofun⟩
  · exact (fresh.subperm Value.putUnder_subperm).keeps kept fun _ same => same ▸ Nat.le_refl _

/-- The entries of the dictionary are copies of keys and of values. -/
theorem exists_pairs {heap : Heap} {entries : List Entry}
    (holds : List.Forall₂ (fun entry row => Copy.Stored heap ⟨row.1, entry.key, []⟩ ∧
      entry.value = row.2.handle) entries rows) (stored : ∀ row ∈ rows, row.2.Stored heap) :
    ∃ pairs : List (Copy × Copy),
      entries.map (fun entry => (entry.key, entry.value)) =
        pairs.map (fun pair => (pair.1.handle, pair.2.handle)) ∧
      (∀ pair ∈ pairs, pair.1.Stored heap ∧ pair.2.Stored heap) ∧
      pairs.map (fun pair => (pair.1.value, pair.2.value)) =
        rows.map (Prod.map id Copy.value) ∧
      (pairs.flatMap fun pair => pair.1.containers ++ pair.2.containers) =
        (rows.map Prod.snd).flatMap Copy.containers := by
  induction holds with
  | nil => exact ⟨[], rfl, nofun, rfl, rfl⟩
  | @cons entry row _ _ first _ ih =>
    obtain ⟨here, stored⟩ := List.forall_mem_cons.mp stored
    obtain ⟨pairs, handles, each, values, inner⟩ := ih stored
    refine ⟨(⟨row.1, entry.key, []⟩, row.2) :: pairs, ?_,
      List.forall_mem_cons.mpr ⟨⟨first.1, here⟩, each⟩, ?_, ?_⟩
    · rw [List.map_cons, List.map_cons, handles, first.2]
    · rw [List.map_cons, List.map_cons, values]
      rfl
    · rw [List.flatMap_cons, inner, List.map_cons, List.flatMap_cons, List.nil_append]

/-- A dictionary that has been filled is a copy of the map of what has been put into it. -/
theorem copy (copying : Copying low first rows content machine) : ∃ containers,
    Copy.Apart first.heap.cells.size machine.heap
      [⟨.map (rows.map (Prod.map id Copy.value)), first.heap.next, containers⟩] := by
  have holds : List.Forall₂ (fun entry row => Copy.Stored machine.heap ⟨row.1, entry.key, []⟩ ∧
      entry.value = row.2.handle) content.entries rows :=
    (List.forall₂_map_right_iff.mp copying.holds).imp fun _ _ held =>
      ⟨held.key.2, held.value.2.handle_eq⟩
  obtain ⟨pairs, entries, each, values, inner⟩ := exists_pairs holds fun row member =>
    copying.apart.stored row.2 (List.mem_map_of_mem member)
  refine ⟨_, copying.apart.enclose ?_ (Nat.lt_succ_self _) copying.filling.size_le⟩
  rw [← inner, ← values]
  exact .map copying.filling.found entries (fun pair member => (each pair member).1)
    fun pair member => (each pair member).2

end Copying

end Machine

end Foreign

end ForeignBridge
