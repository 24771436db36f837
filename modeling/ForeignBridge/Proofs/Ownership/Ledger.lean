import ForeignBridge.Proofs.Bridge.Act
import ForeignBridge.Proofs.Foreign.Settle
import ForeignBridge.Proofs.Registry

/-! # What the host holds

The references of the host are those that the registry and the session keep and those that are owed
to somebody: to a caller, to a name of a workspace, to an act that is not done yet. `Holds` says that
there are just these, and each step of an act is followed by what it does to them.
-/

namespace ForeignBridge.World

open Foreign (Machine Thrown Heap)

/-- The references that a world keeps by itself. -/
def kept (world : World) : List Handle :=
  (world.registry.map Registry.handles).getD [] ++ (world.session.map Session.handles).getD []

/-- That objects are there, as far as handles are of objects at all. -/
def Alive (world : World) (handles : List Handle) : Prop :=
  ∀ handle ∈ handles, handle.isNull = false → world.has handle = true

/-- A world whose host holds the references that are kept and those that are owed, and no others. -/
structure Holds (world : World) (owed : List Handle) : Prop where
  sound : world.machine.heap.Sound
  registry : ∀ registry ∈ world.registry, registry.Valid
  kept : world.Alive world.kept
  held : ∀ handle, handle.isNull = false →
    world.held.count handle = (owed ++ world.kept).count handle
  overdrawn : world.overdrawn = []

/-- A world in which nothing is pending and the host holds what it should. -/
structure Calm (world : World) (owed : List Handle) : Prop extends world.Holds owed where
  pending : world.pending = none

/-- How worlds change when only the interpreter runs: objects stay where they are. -/
structure Steady (before after : World) : Prop where
  grows : before.machine.heap.Grows after.machine.heap
  session : after.session = before.session
  registry : after.registry = before.registry
  lastError : after.lastError = before.lastError
  environment : after.environment = before.environment

/-- What an attempt leaves behind: something may be pending, and the host holds what it held. -/
def Stirred (before after : World) : Prop :=
  ∃ machine pending, before.machine.heap.Grows machine.heap ∧
    after = { before with machine, pending }

variable {world before after first second third : World} {handle : Handle}
  {handles owed others : List Handle}

theorem kept_of_registry {registry : Registry} (opened : world.registry = some registry) :
    world.kept = registry.handles ++ (world.session.map Session.handles).getD [] := by
  rw [kept, opened]
  rfl

/-! Objects that are there. -/

theorem Alive.mono (alive : world.Alive handles) (part : others ⊆ handles) : world.Alive others :=
  fun handle member => alive handle (part member)

theorem Alive.append (alive : world.Alive handles) (others : world.Alive owed) :
    world.Alive (handles ++ owed) := by
  intro handle member
  exact (List.mem_append.mp member).elim (alive handle) (others handle)

theorem Alive.grows (alive : before.Alive handles)
    (grown : before.machine.heap.Grows after.machine.heap) : after.Alive handles :=
  fun handle member object => grown.has (alive handle member object)

theorem alive_singleton (present : world.has handle = true) : world.Alive [handle] := by
  intro other member _
  rwa [List.mem_singleton.mp member]

/-! What is owed. -/

theorem Holds.perm (holds : world.Holds owed) (same : owed.Perm others) : world.Holds others where
  sound := holds.sound
  registry := holds.registry
  kept := holds.kept
  held handle object := by
    rw [holds.held handle object, List.count_append, List.count_append, same.count_eq]
  overdrawn := holds.overdrawn

theorem Calm.perm (calm : world.Calm owed) (same : owed.Perm others) : world.Calm others :=
  ⟨calm.toHolds.perm same, calm.pending⟩

/-- References may go over from those who are owed them to what is kept, and back. -/
theorem Holds.keep (holds : world.Holds owed) {session : Option Session}
    {registry : Option Registry} (valid : ∀ table ∈ registry, table.Valid)
    (alive : world.Alive (World.kept { world with session, registry }))
    (same : (owed ++ world.kept).Perm (others ++ World.kept { world with session, registry })) :
    World.Holds { world with session, registry } others where
  sound := holds.sound
  registry := valid
  kept := alive
  held handle object := (holds.held handle object).trans (same.count_eq handle)
  overdrawn := holds.overdrawn

/-- A handle of no object counts for nothing. -/
theorem count_cons_of_isNull {other : Handle} (null : handle.isNull = true)
    (object : other.isNull = false) : (handle :: owed).count other = owed.count other := by
  refine List.count_cons_of_ne ?_
  rintro rfl
  rw [null] at object
  cases object

/-- A reference that is taken is owed. -/
theorem Holds.own (holds : world.Holds owed) (handle : Handle) :
    (Act.on (Bridge.own handle) world).2.Holds (handle :: owed) := by
  rw [Bridge.own_on]
  refine ⟨holds.sound, holds.registry, holds.kept, fun other object => ?_, holds.overdrawn⟩
  have before := holds.held other object
  change (if handle.isNull then world.held else handle :: world.held).count other =
    (handle :: (owed ++ world.kept)).count other
  split
  · rename_i null
    rw [before, count_cons_of_isNull null object]
  · rw [List.count_cons, List.count_cons, before]

/-- A reference that is owed can be given back. -/
theorem Holds.giveBack (holds : world.Holds (handle :: owed)) : (world.giveBack handle).Holds owed := by
  unfold World.giveBack
  have held := holds.held
  simp only [List.cons_append] at held
  split
  · rename_i null
    refine ⟨holds.sound, holds.registry, holds.kept, fun other object => ?_, holds.overdrawn⟩
    rw [held other object, count_cons_of_isNull null object]
  · rename_i object
    have owned : handle ∈ world.held := by
      have := held handle (Bool.not_eq_true _ ▸ object)
      rw [List.count_cons_self] at this
      exact List.count_pos_iff.mp (by omega)
    rw [if_pos owned]
    refine ⟨holds.sound, holds.registry, holds.kept, fun other object => ?_, holds.overdrawn⟩
    change (world.held.erase handle).count other = (owed ++ world.kept).count other
    have before := held other object
    rw [List.count_cons] at before
    rw [List.count_erase, before]
    split <;> omega

theorem Holds.giveBackAll (holds : world.Holds (handles ++ owed)) :
    (handles.foldl World.giveBack world).Holds owed := by
  induction handles generalizing world with
  | nil => exact holds
  | cons handle rest ih => exact ih holds.giveBack

/-- What is pending does not depend on the references of the host. -/
theorem foldl_giveBack_pending (handles : List Handle) (world : World) :
    (handles.foldl World.giveBack world).pending = world.pending := by
  obtain ⟨held, overdrawn, same⟩ := foldl_giveBack handles world
  rw [same]

theorem Calm.giveBackAll (calm : world.Calm (handles ++ owed)) :
    (handles.foldl World.giveBack world).Calm owed :=
  ⟨calm.toHolds.giveBackAll, (foldl_giveBack_pending handles world).trans calm.pending⟩

/-! Steady worlds. -/

theorem Steady.refl (world : World) : world.Steady world := ⟨.refl _, rfl, rfl, rfl, rfl⟩

theorem Steady.trans (early : first.Steady second) (late : second.Steady third) :
    first.Steady third where
  grows := early.grows.trans late.grows
  session := late.session.trans early.session
  registry := late.registry.trans early.registry
  lastError := late.lastError.trans early.lastError
  environment := late.environment.trans early.environment

theorem steady_giveBackAll (handles : List Handle) (world : World) :
    world.Steady (handles.foldl World.giveBack world) := by
  obtain ⟨held, overdrawn, same⟩ := foldl_giveBack handles world
  rw [same]
  exact ⟨.refl _, rfl, rfl, rfl, rfl⟩

theorem steady_own (handle : Handle) (world : World) :
    world.Steady (Act.on (Bridge.own handle) world).2 := by
  rw [Bridge.own_on]
  exact ⟨.refl _, rfl, rfl, rfl, rfl⟩

/-! Worlds that have been stirred. -/

theorem Stirred.refl (world : World) : world.Stirred world :=
  ⟨world.machine, world.pending, .refl _, rfl⟩

theorem Stirred.trans (early : first.Stirred second) (late : second.Stirred third) :
    first.Stirred third := by
  obtain ⟨machine, pending, grown, rfl⟩ := early
  obtain ⟨machine, pending, more, rfl⟩ := late
  exact ⟨machine, pending, grown.trans more, rfl⟩

theorem Stirred.steady (stirred : before.Stirred after) : before.Steady after := by
  obtain ⟨machine, pending, grown, rfl⟩ := stirred
  exact ⟨grown, rfl, rfl, rfl, rfl⟩

theorem Stirred.holds (stirred : before.Stirred after) (holds : before.Holds owed) :
    after.Holds owed := by
  obtain ⟨machine, pending, grown, rfl⟩ := stirred
  exact ⟨holds.sound.grows grown, holds.registry, holds.kept.grows grown, holds.held,
    holds.overdrawn⟩

end ForeignBridge.World
