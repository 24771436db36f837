import ForeignBridge.Proofs.Foreign.Filling
import ForeignBridge.Proofs.Foreign.Release
import ForeignBridge.Proofs.Ids.Calls
import ForeignBridge.Proofs.Ownership.Reachable

/-! # Giving the registry back

The objects of a registry may be given several integers and may hold one another. Whether its references
are given back when it is closed, in some order of its own, or integer by integer, and whatever is freed on
the way, the same is left: what else is referred to.
-/

namespace ForeignBridge

open Foreign (Machine Heap)

namespace World

variable {world : World} {owed handles : List Handle} {registry : Registry} {handle : Handle}

/-- The world once a reference has been given back and what goes because of that has been freed. -/
def release (world : World) (handle : Handle) : World := (world.giveBack handle).settle

/-- The world once its registry is gone, with nothing given back yet. -/
def detached (world : World) : World := { world with registry := none, lastError := none }

/-- The world once its registry is gone and references have been given back one after another, each with
what goes because of it. -/
def closedInOrder (world : World) (order : List Handle) : World := order.foldl release world.detached

/-- The world after a call, once what nothing refers to any more has been freed. A step of a workspace
that makes a call leaves the world so. -/
def called (world : World) (call : CAbi.Call) : World := (Act.on (CAbi.perform call) world).2.settle

/-! What giving references back does to those that are left. -/

/-- What is held is what is left of it, if each reference had been held. -/
theorem foldl_giveBack_eq (owned : ∀ handle, handle.isNull = false →
      handles.count handle ≤ world.held.count handle) :
    handles.foldl giveBack world = world.withHeld (world.held.diff (handles.filter (!·.isNull))) := by
  induction handles generalizing world with
  | nil => rfl
  | cons handle rest ih =>
    cases null : handle.isNull with
    | true =>
      have first : world.giveBack handle = world := by rw [giveBack, if_pos null]
      rw [List.foldl_cons, first, List.filter_cons_of_neg (by simp [null])]
      exact ih fun other object => (List.count_le_count_cons ..).trans (owned other object)
    | false =>
      have member : handle ∈ world.held := by
        have := owned handle null
        rw [List.count_cons_self] at this
        exact List.count_pos_iff.mp (by omega)
      have first : world.giveBack handle = world.withHeld (world.held.erase handle) := by
        rw [giveBack, if_neg (by simp [null]), if_pos member]
        rfl
      rw [List.foldl_cons, first, List.filter_cons_of_pos (by simp [null]), List.diff_cons]
      refine (ih fun other object => ?_).trans rfl
      have := owned other object
      rw [List.count_cons] at this
      change _ ≤ (world.held.erase handle).count other
      rw [List.count_erase]
      omega

/-- To give references back does nothing to the machine. -/
theorem foldl_giveBack_machine (world : World) (handles : List Handle) :
    (handles.foldl giveBack world).machine = world.machine := by
  obtain ⟨held, overdrawn, same⟩ := foldl_giveBack handles world
  rw [same]

theorem giveBack_machine (world : World) (handle : Handle) :
    (world.giveBack handle).machine = world.machine := foldl_giveBack_machine world [handle]

theorem giveBack_withMachine (world : World) (machine : Machine) (handle : Handle) :
    (world.withMachine machine).giveBack handle = (world.giveBack handle).withMachine machine := by
  unfold giveBack
  split
  · rfl
  · change (if handle ∈ world.held then _ else _) = _
    split <;> rfl

theorem foldl_giveBack_withMachine (world : World) (machine : Machine) (handles : List Handle) :
    handles.foldl giveBack (world.withMachine machine) =
      (handles.foldl giveBack world).withMachine machine := by
  induction handles generalizing world with
  | nil => rfl
  | cons handle rest ih => rw [List.foldl_cons, giveBack_withMachine, ih, List.foldl_cons]

/-- References that are given back keep nothing any more. -/
theorem outside_foldl_giveBack (world : World) (handles : List Handle) :
    (handles.foldl giveBack world).outside ⊆ world.outside := by
  induction handles generalizing world with
  | nil => exact List.Subset.refl _
  | cons handle rest ih =>
    refine List.Subset.trans (ih (world.giveBack handle)) ?_
    unfold giveBack
    split
    · exact List.Subset.refl _
    · split
      · exact fun other member =>
          List.mem_append.mpr ((List.mem_append.mp member).imp_right List.mem_of_mem_erase)
      · exact List.Subset.refl _

/-- The registry and the last error do not matter to what is freed. -/
theorem foldl_release_noted (world : World) (handles : List Handle) (registry : Option Registry)
    (lastError : Option String) :
    handles.foldl release { world with registry, lastError } =
      { handles.foldl release world with registry, lastError } := by
  induction handles generalizing world with
  | nil => rfl
  | cons handle rest ih =>
    have first : release { world with registry, lastError } handle =
        { world.release handle with registry, lastError } := by
      unfold release giveBack
      split
      · rfl
      · dsimp only
        split <;> rfl
    rw [List.foldl_cons, first, ih, List.foldl_cons]

/-! References that are given back one after another. -/

/-- The world without what nothing refers to. No finalizer is called. -/
def reclaimed (world : World) : World := world.withMachine (world.machine.reclaim world.outside)

/-- That what goes in a world has no finalizer that is still to be called. -/
def LetsGo (world : World) : Prop := world.machine.Unguarded world.outside

theorem LetsGo.settle (lets : world.LetsGo) : world.settle = world.reclaimed :=
  congrArg world.withMachine (Machine.Unguarded.settle lets)

/-- What is freed after each of some references is freed after the last one, and no more. -/
theorem foldl_release (sound : world.machine.heap.Sound)
    (rested : world.machine.Rested world.outside) (lets : (handles.foldl giveBack world).LetsGo) :
    handles.foldl release world = (handles.foldl giveBack world).reclaimed := by
  induction handles generalizing world with
  | nil => exact (congrArg world.withMachine rested.reclaim).symm
  | cons handle rest ih =>
    rw [List.foldl_cons] at lets
    rw [List.foldl_cons, List.foldl_cons]
    -- what refers to objects from outside after the first reference, and after all of them
    have part := outside_foldl_giveBack (world.giveBack handle) rest
    generalize given : world.giveBack handle = between at *
    have machine : between.machine = world.machine := given ▸ giveBack_machine world handle
    have unguarded : between.machine.Unguarded (rest.foldl giveBack between).outside := by
      rw [← foldl_giveBack_machine between rest]
      exact lets
    have first : world.release handle = between.reclaimed := by
      rw [release, given, LetsGo.settle (unguarded.mono part)]
    have later : rest.foldl giveBack between.reclaimed = (rest.foldl giveBack between).withMachine
        (between.machine.reclaim between.outside) := foldl_giveBack_withMachine ..
    have sound : between.machine.heap.Sound := machine ▸ sound
    rw [first, ih (sound.spares (Machine.spares_reclaim _ _)) (Machine.rested_reclaim _ _) ?_, later]
    · have reclaimed := between.machine.reclaim_reclaim part
      rw [World.reclaimed, World.reclaimed, foldl_giveBack_machine]
      exact congrArg (rest.foldl giveBack between).withMachine reclaimed
    · rw [later]
      exact unguarded.reclaim sound part

/-- At rest there is nothing to settle. -/
theorem settle_of_rested (rested : world.machine.Rested world.outside) : world.settle = world := by
  have lets : world.LetsGo := fun _ gone => (gone.false rested.heap).elim
  exact lets.settle.trans (congrArg world.withMachine rested.reclaim)

/-! The references of the registry. -/

theorem Calm.outside_eq (calm : world.Calm owed) : world.outside = world.held := by
  rw [outside, calm.pending]
  rfl

/-- The references of the registry are among those of the host. -/
theorem Calm.count_handles_le (calm : world.Calm owed) (opened : world.registry = some registry)
    (handle : Handle) (object : handle.isNull = false) :
    registry.handles.count handle ≤ world.held.count handle := by
  rw [calm.held handle object, kept_of_registry opened, List.count_append, List.count_append]
  omega

theorem called_finalize (opened : world.registry = some registry) :
    world.called .finalize = (registry.handles.foldl giveBack world.detached).settle := by
  have closed : Bridge.on (Bridge.closeRegistry : Bridge Unit) world.cleared =
      (.ok (), registry.handles.foldl giveBack world.detached) := by
    rw [Bridge.on_lift, Bridge.closeRegistry_on]
    simp only [cleared, opened]
    rfl
  rw [called, CAbi.perform, CAbi.answerNothing, CAbi.answer_on, closed]

/-- Without a registry there is nothing to close. -/
theorem called_finalize_of_closed (closed : world.registry = none) (clear : world.lastError = none) :
    world.called .finalize = world.settle := by
  have same : Bridge.on (Bridge.closeRegistry : Bridge Unit) world.cleared = (.ok (), world) := by
    rw [Bridge.on_lift, Bridge.closeRegistry_on]
    obtain ⟨⟩ := world
    cases closed
    cases clear
    rfl
  rw [called, CAbi.perform, CAbi.answerNothing, CAbi.answer_on, same]

theorem called_drop {id : ℤ} (opened : world.registry = some registry)
    (found : registry.get? id = some handle) : world.called (.drop id) =
      release { world with registry := some (registry.erase id), lastError := none } handle := by
  have dropped : Bridge.on (do Bridge.release (← Bridge.unregister id) : Bridge Unit) world.cleared =
      (.ok (), giveBack { world with registry := some (registry.erase id), lastError := none } handle) := by
    rw [Bridge.on_bind_eq, Bridge.unregister_on]
    simp only [cleared, opened, found]
    rfl
  rw [called, CAbi.perform, CAbi.answerNothing, CAbi.answer_on, dropped]
  rfl

/-- To take all integers back, one after another, gives the references of the registry back in some order. -/
theorem foldl_called_drop (valid : registry.Valid) (opened : world.registry = some registry)
    {order : List ℤ} (same : order.Perm registry.ids) : ∃ (handles : List Handle) (lastError : Option String),
      handles.Perm registry.handles ∧ order.foldl (fun world id => world.called (.drop id)) world =
        { handles.foldl release world with registry := some ⟨[], registry.next⟩, lastError } := by
  induction order generalizing world registry with
  | nil =>
    obtain ⟨entries, next⟩ := registry
    obtain rfl : entries = [] := List.map_eq_nil_iff.mp same.symm.eq_nil
    refine ⟨[], world.lastError, .nil, ?_⟩
    rw [List.foldl_nil, List.foldl_nil, ← opened]
  | cons id rest ih =>
    obtain ⟨handle, found⟩ := Registry.exists_get? (same.subset (List.mem_cons_self ..))
    have others : rest.Perm (registry.erase id).ids :=
      (same.trans (registry.ids_erase valid found)).cons_inv
    rw [List.foldl_cons, called_drop opened found]
    obtain ⟨handles, lastError, order, last⟩ := @ih
      (release { world with registry := some (registry.erase id), lastError := none } handle)
      (registry.erase id) (valid.erase id) (congrArg World.registry (foldl_release_noted world [handle] _ _)) others
    refine ⟨handle :: handles, lastError,
      (order.cons handle).trans (Registry.handles_erase valid found).symm, ?_⟩
    rw [last, ← List.foldl_cons, foldl_release_noted]
    rfl

/-! Closing. -/

/-- That closing a registry gives back what it holds and does nothing else, however it goes about it. -/
structure ClosesExactly (world : World) (registry : Registry) : Prop where
  /-- Whatever the order in which the references are given back, the same is left. -/
  any_order : ∀ order : List Handle, order.Perm registry.handles →
    world.closedInOrder order = world.called .finalize
  /-- The same is left once all integers have been taken back by themselves, in whatever order. -/
  one_by_one : ∀ order : List ℤ, order.Perm registry.ids →
    let dropped := order.foldl (fun world id => world.called (.drop id)) world
    dropped.machine = (world.called .finalize).machine ∧
      dropped.held = (world.called .finalize).held ∧ dropped.registry = some ⟨[], registry.next⟩
  /-- The host loses one reference to an object for each integer of it. -/
  held : ∀ handle, handle.isNull = false → world.held.count handle =
    (world.called .finalize).held.count handle + registry.handles.count handle
  /-- An object loses these, and the references that freed objects had to it. -/
  refCount : ∀ handle, handle.isNull = false → world.refCount handle =
    (world.called .finalize).refCount handle + registry.handles.count handle +
      world.machine.heap.lost (world.called .finalize).machine.heap handle
  /-- At no time is an object freed that something still refers to, and none stays that nothing does. -/
  in_time : ∀ order given : List Handle, order.Perm registry.handles → given <+: order →
    ∀ handle, world.has handle = true →
      ((world.closedInOrder given).has handle = false ↔
        world.machine.heap.Abandoned (world.closedInOrder given).outside handle) ∧
      ((world.closedInOrder given).has handle = false → (world.closedInOrder given).refCount handle = 0)
  /-- To close it again changes nothing. -/
  again : (world.called .finalize).called .finalize = world.called .finalize

section Closing

variable (calm : world.Calm owed) (opened : world.registry = some registry)

include calm opened

/-- Part of the references of a registry, given back. -/
theorem foldl_giveBack_detached {order given : List Handle} (same : order.Perm registry.handles)
    (part : given <+: order) : given.foldl giveBack world.detached =
      world.detached.withHeld (world.held.diff (given.filter (!·.isNull))) := by
  refine foldl_giveBack_eq fun handle object => ?_
  calc given.count handle ≤ order.count handle := part.sublist.count_le handle
    _ = registry.handles.count handle := same.count_eq handle
    _ ≤ world.held.count handle := calm.count_handles_le opened handle object

/-- The order of the references does not matter to those that are left. -/
theorem foldl_giveBack_perm {order : List Handle} (same : order.Perm registry.handles) :
    order.foldl giveBack world.detached = registry.handles.foldl giveBack world.detached := by
  rw [foldl_giveBack_detached calm opened same List.prefix_rfl,
    foldl_giveBack_detached calm opened (.refl _) List.prefix_rfl,
    (same.filter _).diff_left]

variable (rested : world.machine.Rested world.outside)
  (unguarded : ∀ root ∈ registry.handles, ∀ handle,
    Relation.ReflTransGen world.machine.heap.RefersTo root handle →
      world.machine.finalizer? handle = none)

include rested unguarded

/-- What goes with the references of a registry, or with some of them, is held by its objects. -/
theorem letsGo_detached {order given : List Handle} (same : order.Perm registry.handles)
    (part : given <+: order) : (given.foldl giveBack world.detached).LetsGo := by
  intro handle gone
  rw [foldl_giveBack_machine] at gone ⊢
  obtain ⟨root, held, free, path⟩ := Heap.Abandoned.reached gone rested.heap
  rw [foldl_giveBack_detached calm opened same part] at free
  refine unguarded root ?_ handle path
  rw [calm.outside_eq] at held
  by_contra foreign
  refine free (List.mem_append_right _ (List.mem_diff_of_mem held fun member => foreign ?_))
  exact same.subset (part.subset (List.mem_filter.mp member).1)

theorem closedInOrder_eq {order given : List Handle} (same : order.Perm registry.handles)
    (part : given <+: order) : world.closedInOrder given =
      (world.detached.withHeld (world.held.diff (given.filter (!·.isNull)))).reclaimed := by
  rw [← foldl_giveBack_detached calm opened same part]
  exact foldl_release calm.sound rested (letsGo_detached calm opened rested unguarded same part)

/-- Whatever the order in which the references are given back, the same is left. -/
theorem closedInOrder_of_perm {order : List Handle} (same : order.Perm registry.handles) :
    world.closedInOrder order = world.called .finalize := by
  have lets := letsGo_detached calm opened rested unguarded (.refl _) List.prefix_rfl
  rw [called_finalize opened, lets.settle, ← foldl_giveBack_perm calm opened same]
  exact foldl_release calm.sound rested
    (letsGo_detached calm opened rested unguarded same List.prefix_rfl)

theorem called_finalize_eq : world.called .finalize =
    (world.detached.withHeld (world.held.diff (registry.handles.filter (!·.isNull)))).reclaimed := by
  rw [← closedInOrder_of_perm calm opened rested unguarded (.refl _),
    closedInOrder_eq calm opened rested unguarded (.refl _) List.prefix_rfl]

/-- The same is left once all integers have been taken back by themselves. -/
theorem dropped_eq {order : List ℤ} (same : order.Perm registry.ids) :
    ∃ lastError, order.foldl (fun world id => world.called (.drop id)) world =
      { world.called .finalize with registry := some ⟨[], registry.next⟩, lastError } := by
  obtain ⟨handles, lastError, perm, last⟩ :=
    foldl_called_drop (calm.registry registry opened) opened same
  have closed : world.called .finalize =
      { handles.foldl release world with registry := none, lastError := none } := by
    rw [← closedInOrder_of_perm calm opened rested unguarded perm]
    exact foldl_release_noted world handles none none
  exact ⟨lastError, by rw [last, closed]⟩

/-- The host loses one reference to an object for each integer of it. -/
theorem held_called_finalize (object : handle.isNull = false) : world.held.count handle =
    (world.called .finalize).held.count handle + registry.handles.count handle := by
  have owned := calm.count_handles_le opened handle object
  have left : (world.called .finalize).held =
      world.held.diff (registry.handles.filter (!·.isNull)) := by
    rw [called_finalize_eq calm opened rested unguarded]
    rfl
  rw [left, List.count_diff, List.count_filter (by rw [object]; rfl)]
  omega

/-- An object loses the references of its integers and those that freed objects had to it. -/
theorem refCount_called_finalize (object : handle.isNull = false) : world.refCount handle =
    (world.called .finalize).refCount handle + registry.handles.count handle +
      world.machine.heap.lost (world.called .finalize).machine.heap handle := by
  have held := held_called_finalize calm opened rested unguarded object
  have eq := called_finalize_eq calm opened rested unguarded
  generalize world.called .finalize = closed at *
  have outside : closed.outside = closed.held := by
    rw [World.outside, eq]
    change world.pending.toList.flatMap _ ++ _ = _
    rw [calm.pending]
    rfl
  have overdrawn : closed.overdrawn = [] := by
    rw [eq]
    exact calm.overdrawn
  have heap : closed.machine.heap = world.machine.heap.reclaim closed.outside := by
    rw [eq]
    rfl
  have references := world.machine.heap.references_reclaim closed.outside handle
  rw [← heap] at references
  rw [World.refCount, World.refCount, if_neg (by simp [object]), if_neg (by simp [object]),
    calm.outside_eq, outside, overdrawn, calm.overdrawn, held, references]
  simp only [List.count_nil]
  omega

/-- At no time is an object freed that something still refers to. -/
theorem freed_closedInOrder {order given : List Handle} (same : order.Perm registry.handles)
    (part : given <+: order) (present : world.has handle = true) :
    ((world.closedInOrder given).has handle = false ↔
        world.machine.heap.Abandoned (world.closedInOrder given).outside handle) ∧
      ((world.closedInOrder given).has handle = false →
        (world.closedInOrder given).refCount handle = 0) := by
  have eq := closedInOrder_eq calm opened rested unguarded same part
  have heap : (world.closedInOrder given).machine.heap =
      world.machine.heap.reclaim (world.closedInOrder given).outside := by
    rw [eq]
    rfl
  have freed : (world.closedInOrder given).has handle = false ↔
      world.machine.heap.Abandoned (world.closedInOrder given).outside handle := by
    rw [← Heap.get?_reclaim_eq_none_iff present, ← heap]
    exact Option.isSome_eq_false_iff.trans Option.isNone_iff_eq_none
  refine ⟨freed, fun absent => ?_⟩
  have gone := freed.mp absent
  have free : handle ∉ (world.closedInOrder given).outside := by
    cases gone
    assumption
  rw [refCount, heap, gone.references_reclaim, List.count_eq_zero.mpr free]
  simp

/-- Closing a registry gives back one reference for each of its integers, whatever the order, and frees
what nothing else refers to, unless a finalizer of one of its objects or of what they hold comes in. The
world may be any in which the host holds what it should and nothing is left to free. -/
theorem closesExactly : world.ClosesExactly registry where
  any_order _ same := closedInOrder_of_perm calm opened rested unguarded same
  one_by_one order same := by
    obtain ⟨lastError, last⟩ := dropped_eq calm opened rested unguarded same
    intro dropped
    rw [show dropped = _ from last]
    exact ⟨rfl, rfl, rfl⟩
  held _ := held_called_finalize calm opened rested unguarded
  refCount _ := refCount_called_finalize calm opened rested unguarded
  in_time _ _ same part _ := freed_closedInOrder calm opened rested unguarded same part
  again := by
    have eq := called_finalize_eq calm opened rested unguarded
    rw [called_finalize_of_closed (congrArg World.registry eq) (congrArg World.lastError eq)]
    refine settle_of_rested ?_
    rw [eq]
    exact Machine.rested_reclaim _ _

end Closing

/-! A list that is in two lists, one of which is in the other one and each of which has an integer. The
outer one has two integers, and the host holds the innermost one besides. -/

namespace Nested

variable {machine : Machine} {cell : Foreign.Cell} {index : ℕ}

/-- The lists, the innermost one first. -/
def list (machine : Machine) (index : ℕ) : Handle := ⟨machine.heap.cells.size + index + 1⟩

/-- What is in a list. -/
def items (machine : Machine) : ℕ → List Handle
  | 0 => []
  | 1 => [list machine 0]
  | _ => [list machine 1, list machine 0]

/-- A machine with the first of the lists besides what is there. -/
def withLists (machine : Machine) : ℕ → Machine
  | 0 => machine
  | count + 1 => (withLists machine count).push (.ofCore .list (.list (items machine count)))

def table (machine : Machine) : Registry :=
  ⟨[(3, list machine 1), (2, list machine 2), (1, list machine 2)], 4⟩

def start (machine : Machine) : World :=
  { ofMachine (withLists machine 3) ⟨none, none⟩ with
    held := [list machine 1, list machine 2, list machine 0, list machine 2]
    registry := some (table machine) }

theorem list_inj {a b : ℕ} : list machine a = list machine b ↔ a = b := by
  simp only [list, Handle.mk.injEq]
  omega

/-- What is in a list is farther in. -/
theorem mem_items {part : Handle} (member : part ∈ items machine index) :
    ∃ below, below < index ∧ part = list machine below := by
  match index with
  | 0 => cases member
  | 1 => exact ⟨0, by decide, List.mem_singleton.mp member⟩
  | index + 2 =>
    rcases List.mem_pair.mp member with rfl | rfl
    · exact ⟨1, by omega, rfl⟩
    · exact ⟨0, by omega, rfl⟩

theorem next_withLists (machine : Machine) (count : ℕ) :
    (withLists machine count).heap.next = list machine count := by
  have size : (withLists machine count).heap.cells.size = machine.heap.cells.size + count := by
    induction count with
    | zero => rfl
    | succ count ih => rw [withLists, Machine.push, Heap.size_add, ih, Nat.add_assoc]
  rw [Heap.next, size, list]

theorem grows_withLists (machine : Machine) (count : ℕ) :
    machine.heap.Grows (withLists machine count).heap := by
  induction count with
  | zero => exact .refl _
  | succ count ih => exact ih.trans (Heap.grows_add ..)

theorem get?_withLists {count : ℕ} (small : index < count) :
    (withLists machine count).heap.get? (list machine index) =
      some (.ofCore .list (.list (items machine index))) := by
  induction count with
  | zero => omega
  | succ count ih =>
    obtain rfl | inner : index = count ∨ index < count := by omega
    · rw [← next_withLists]
      exact Heap.get?_add_self ..
    · exact Heap.get?_add_of_get? (ih inner)

/-- Besides the lists there is what was there before. -/
theorem found_withLists {count : ℕ} (found : (withLists machine count).heap.get? handle = some cell) :
    machine.heap.get? handle = some cell ∨ ∃ index, index < count ∧ handle = list machine index ∧
      cell = .ofCore .list (.list (items machine index)) := by
  induction count with
  | zero => exact .inl found
  | succ count ih =>
    rcases Heap.get?_add_cases found with found | ⟨same, rfl⟩
    · refine (ih found).imp_right fun ⟨index, small, rest⟩ => ⟨index, by omega, rest⟩
    · exact .inr ⟨count, by omega, same.trans (next_withLists ..), rfl⟩

variable (sound : machine.heap.Sound) (rested : machine.Rested [])
  (full : machine.heap.cells.size = machine.heap.base)

include sound in
theorem calm_start : (start machine).Calm [list machine 0] := by
  refine ⟨⟨sound.grows (grows_withLists machine 3), ?_, ?_, fun handle _ => ?_, rfl⟩, rfl⟩
  · rintro _ ⟨rfl⟩
    exact ⟨by simp [table], by simp [table, Registry.ids], by simp [table, Registry.ids]⟩
  · intro handle member _
    simp only [start, kept, table, Registry.handles, ofMachine, Option.map_some, Option.getD_some,
      Option.map_none, Option.getD_none, List.append_nil, List.map_cons, List.map_nil, List.mem_cons,
      List.not_mem_nil, or_false] at member
    rcases member with rfl | rfl | rfl <;>
      exact Option.isSome_iff_exists.mpr ⟨_, get?_withLists (by decide)⟩
  · simp only [start, kept, table, Registry.handles, ofMachine, Option.map_some, Option.getD_some,
      Option.map_none, Option.getD_none, List.append_nil, List.map_cons, List.map_nil, List.cons_append,
      List.nil_append, List.count_cons, List.count_nil]
    omega

include rested full in
theorem rested_start : (start machine).machine.Rested (start machine).outside where
  heap handle cell found above := by
    rcases found_withLists found with found | ⟨index, small, rfl, -⟩
    · have low := (Heap.address_le_of_get? found).2
      exact absurd above (not_lt.mpr (low.trans full.le))
    · refine Nat.add_pos_right _ (List.count_pos_iff.mpr ?_)
      obtain rfl | rfl | rfl : index = 0 ∨ index = 1 ∨ index = 2 := by omega
      all_goals simp [start, outside, ofMachine]
  interned entry member := (grows_withLists machine 3).has (rested.interned entry member)
  finalized handle member := (grows_withLists machine 3).has (rested.finalized handle member)

include sound in
/-- The lists hold lists, none of which has a finalizer. -/
theorem finalizer?_of_refersTo : ∀ root ∈ (table machine).handles, ∀ handle,
    Relation.ReflTransGen (start machine).machine.heap.RefersTo root handle →
      (start machine).machine.finalizer? handle = none := by
  intro root member handle path
  have some : ∃ index, index < 3 ∧ handle = list machine index := by
    induction path with
    | refl =>
      simp only [table, Registry.handles, List.map_cons, List.map_nil, List.mem_cons,
        List.not_mem_nil, or_false] at member
      rcases member with rfl | rfl | rfl <;> exact ⟨_, by decide, rfl⟩
    | tail _ refers ih =>
      obtain ⟨index, small, rfl⟩ := ih
      obtain ⟨cell, found, part⟩ := refers
      obtain rfl := Option.some.inj (found.symm.trans (get?_withLists small))
      rw [Foreign.Cell.references_ofCore] at part
      obtain ⟨below, inner, rfl⟩ := mem_items part
      exact ⟨below, by omega, rfl⟩
  obtain ⟨index, small, rfl⟩ := some
  exact Machine.finalizer?_of_unguarded (sound.grows (grows_withLists machine 3)) (get?_withLists small)
    (Foreign.Cell.isUnguarded_container (.inl rfl) _)

/-- A list goes that nothing outside refers to, if the lists around it go. -/
theorem abandoned_list (closed : machine.heap.Closed) (full : machine.heap.cells.size = machine.heap.base)
    {outside : List Handle} (small : index < 3) (foreign : list machine index ∉ outside)
    (around : ∀ above, index < above → above < 3 →
      (start machine).machine.heap.Abandoned outside (list machine above)) :
    (start machine).machine.heap.Abandoned outside (list machine index) := by
  have above : (start machine).machine.heap.base < (list machine index).address := by
    change machine.heap.base < machine.heap.cells.size + index + 1
    omega
  refine .of_referrers (Option.isSome_iff_exists.mpr ⟨_, get?_withLists small⟩) above foreign
    fun other cell found part => ?_
  rcases found_withLists found with found | ⟨above, least, rfl, rfl⟩
  · have low : (list machine index).address ≤ machine.heap.cells.size := closed other cell found _ part
    simp only [list] at low
    omega
  · rw [Foreign.Cell.references_ofCore] at part
    obtain ⟨below, inner, same⟩ := mem_items part
    rw [list_inj.mp same] at around
    exact around above inner least

theorem count_held_start (small : index < 3) : (start machine).held.count (list machine index) =
    (table machine).handles.count (list machine index) + if index = 0 then 1 else 0 := by
  obtain rfl | rfl | rfl : index = 0 ∨ index = 1 ∨ index = 2 := by omega
  all_goals simp [start, table, Registry.handles, list_inj]

/-- The two outer lists go with the registry, and the innermost one stays. -/
theorem has_list_of_closesExactly (sound : machine.heap.Sound) (closed : machine.heap.Closed)
    (full : machine.heap.cells.size = machine.heap.base)
    (closes : (start machine).ClosesExactly (table machine)) :
    ((start machine).called .finalize).has (list machine 2) = false ∧
      ((start machine).called .finalize).has (list machine 1) = false ∧
      ((start machine).called .finalize).has (list machine 0) = true := by
  have balances : Act.Balances World.Grows [] [] (CAbi.perform .finalize) fun _ => [] :=
    CAbi.perform_balances .finalize
  have silent : ((start machine).called .finalize).pending = none :=
    (balances _ _ (calm_start sound) (List.forall_mem_nil _)).2.1.pending
  have outside : ((start machine).called .finalize).outside =
      ((start machine).called .finalize).held := by
    rw [World.outside, silent]
    rfl
  have freed (index : ℕ) (small : index < 3) := (closes.in_time _ _ (.refl _) List.prefix_rfl
    (list machine index) (Option.isSome_iff_exists.mpr ⟨_, get?_withLists small⟩)).1
  rw [closes.any_order _ (.refl _), outside] at freed
  have held (index : ℕ) (small : index < 3) := closes.held (list machine index) rfl
  have foreign (index : ℕ) (small : index < 3) (around : index ≠ 0) :
      list machine index ∉ ((start machine).called .finalize).held := by
    have left := held index small
    rw [count_held_start small, if_neg around] at left
    exact List.count_eq_zero.mp (by omega)
  have outer := abandoned_list closed full (by decide) (foreign 2 (by decide) (by decide)) (by omega)
  have inner := abandoned_list closed full (by decide) (foreign 1 (by decide) (by decide)) (by
    intro above more less
    obtain rfl : above = 2 := by omega
    exact outer)
  refine ⟨(freed 2 (by decide)).mpr outer, (freed 1 (by decide)).mpr inner, ?_⟩
  rw [← Bool.not_eq_false, freed 0 (by decide)]
  intro gone
  cases gone with
  | of_referrers _ _ free _ =>
    have left := held 0 (by decide)
    rw [count_held_start (by decide), if_pos rfl] at left
    exact free (List.count_pos_iff.mp (by omega))

end Nested

theorem closesExactly_nested :
    let world := Nested.start Machine.bare
    world.ClosesExactly (Nested.table Machine.bare) ∧
      (world.called .finalize).has (Nested.list Machine.bare 2) = false ∧
      (world.called .finalize).has (Nested.list Machine.bare 1) = false ∧
      (world.called .finalize).has (Nested.list Machine.bare 0) = true := by
  intro world
  have closes : world.ClosesExactly (Nested.table Machine.bare) :=
    closesExactly (Nested.calm_start Machine.sound_bare) rfl
      (Nested.rested_start (Machine.rested_bare []) Array.size_map)
      (Nested.finalizer?_of_refersTo Machine.sound_bare)
  exact ⟨closes, Nested.has_list_of_closesExactly Machine.sound_bare Machine.grounded_bare.closed
    Array.size_map closes⟩

end World

namespace Workspace

variable {workspace : Workspace}

/-- In whatever workspace steps lead to there is nothing left to free. -/
theorem rested_of_reachable (reachable : Reachable workspace) :
    workspace.world.machine.Rested workspace.world.outside := by
  cases reachable with
  | fresh environment => exact Machine.rested_start _
  | started => exact Machine.rested_settle _ _
  | take reachable step => exact Machine.rested_settle _ _

end Workspace

end ForeignBridge
