import ForeignBridge.Proofs.Ownership.Workspace

/-! # Reachable workspaces

A step that has ended, whatever came of it, leaves no reference behind but those to what is kept. What
is freed after it is nothing that the host refers to, since a reference to each thing that is kept is
among those that the host holds. So the counts are right in whatever workspace steps lead to.
-/

namespace ForeignBridge

namespace World

open Foreign (Machine Heap)

variable {world : World} {owed : List Handle}

/-- What is owed or kept is among what keeps objects from being freed. -/
theorem Calm.mem_outside (calm : world.Calm owed) {handle : Handle} (object : handle.isNull = false)
    (member : handle ∈ owed ++ world.kept) : handle ∈ world.outside := by
  have counted := List.count_pos_iff.mpr member
  rw [← calm.held handle object] at counted
  exact List.mem_append_right _ (List.count_pos_iff.mp counted)

/-- Nothing is freed that is owed or kept. -/
theorem Calm.settle (calm : world.Calm owed) (alive : world.Alive owed) :
    world.settle.Calm owed ∧ world.settle.Alive owed := by
  have spared := Machine.spares_settle world.machine world.outside
  have lasts : world.settle.Alive (owed ++ world.kept) := fun handle member object =>
    spared.has handle (calm.mem_outside object member)
      (alive.append calm.kept handle member object)
  refine ⟨⟨⟨calm.sound.spares spared, calm.registry, ?_, calm.held, calm.overdrawn⟩, calm.pending⟩, ?_⟩
  · exact lasts.mono (List.subset_append_right _ _)
  · exact lasts.mono (List.subset_append_left _ _)

/-- At the start nothing is held. -/
theorem calm_ofMachine {machine : Machine} (sound : machine.heap.Sound) (environment : Environment) :
    (ofMachine machine environment).Calm [] :=
  ⟨⟨sound, nofun, nofun, fun _ _ => rfl, rfl⟩, rfl⟩

end World

namespace Workspace

variable {workspace : Workspace} {lent : List Handle}

/-! Steps. -/

/-- An action that has been answered leaves no reference behind. -/
theorem answer_act_balances (action : Action) (slot kept : Option String) (view : View) :
    Balances action.changes workspace lent [] (answer (.act action slot kept view)) fun _ => [] := by
  refine Balances.bind (perform_balances view action) ?_
  cases (on (perform view action).run workspace).1 with
  | ok product =>
    have all := List.subset_append_left product.references lent
    exact Balances.bind ((deliver_balances slot kept view product).lend all) (.pure (.refl []))
  | error error => exact .pure (.refl _)

theorem answer_call_balances (call : CAbi.Call) :
    Balances World.Grows workspace lent [] (answer (.call call)) fun _ => [] :=
  .inWorld_bind (CAbi.perform_balances call) fun _ _ => .get_bind (.pure (.refl _))

/-- A step that has been answered leaves no reference behind. -/
theorem answer_balances (step : Step) :
    Balances World.Grows workspace lent [] (answer step) fun _ => [] := by
  cases step with
  | act action slot kept view => exact (answer_act_balances action slot kept view).grow
  | call call => exact answer_call_balances call

/-- What is kept by name is not freed. -/
theorem Calm.settle (calm : workspace.Calm []) : (on settle workspace).2.Calm [] := by
  obtain ⟨settled, alive⟩ := calm.world.settle calm.alive
  exact ⟨settled, alive, calm.slots, calm.values⟩

/-- A step keeps a workspace in balance, whatever comes of it. -/
theorem Calm.take (calm : workspace.Calm []) (step : Step) :
    (on (take step) workspace).2.Calm [] := by
  have answered : Balances World.Grows workspace [] [] (answer step) fun _ => [] :=
    answer_balances step
  exact (answered [] calm nofun).2.settle

/-! Runs. -/

/-- The workspaces that steps lead to, from one in which nothing has been started or from one with a
session and an empty registry. -/
inductive Reachable : Workspace → Prop where
  | fresh (environment : Environment) : Reachable (fresh environment)
  | started : Reachable started
  | take {workspace : Workspace} (reachable : Reachable workspace) (step : Step) :
    Reachable (on (take step) workspace).2

/-- Nothing is kept by name at first. -/
theorem calm_ofWorld {world : World} (calm : world.Calm []) : (ofWorld world).Calm [] :=
  ⟨calm, nofun, .nil, .nil⟩

theorem calm_fresh (environment : Environment) : (fresh environment).Calm [] :=
  calm_ofWorld (World.calm_ofMachine Foreign.Machine.sound_start environment)

theorem calm_started : started.Calm [] := by
  have opened : Act.Balances World.Grows [] [] (do
      let _ ← Bridge.outcome (Bridge.startWith .standard)
      Bridge.openRegistry) fun _ => [] :=
    Bridge.outcome_bind (Bridge.startWith_balances .standard).grow
      (fun _ => Bridge.openRegistry_balances) fun _ => Bridge.openRegistry_balances
  have bare := World.calm_ofMachine Foreign.Machine.sound_start ⟨none, none⟩
  obtain ⟨_, calm, _⟩ := opened _ [] bare nofun
  exact calm_ofWorld (calm.settle nofun).1

/-- Whatever steps lead to is in balance. -/
theorem calm_of_reachable (reachable : Reachable workspace) : workspace.Calm [] := by
  induction reachable with
  | fresh environment => exact calm_fresh environment
  | started => exact calm_started
  | take _ step ih => exact ih.take step

/-- In every workspace that steps lead to, whether they succeed or fail, there are as many references
to an object as there are inside the interpreter and for what the host keeps. None has been given back
too often, and what the host keeps is there. -/
theorem refCount_of_reachable (reachable : Reachable workspace) :
    workspace.world.overdrawn = [] ∧
      ∀ handle, handle.isNull = false →
        workspace.world.refCount handle =
          workspace.world.machine.heap.references handle + workspace.references.count handle ∧
        workspace.world.held.count handle = workspace.references.count handle ∧
        (handle ∈ workspace.references → workspace.world.has handle = true) := by
  have calm := calm_of_reachable reachable
  refine ⟨calm.world.overdrawn, fun handle object => ?_⟩
  have held : workspace.world.held.count handle = workspace.references.count handle := by
    rw [references_eq]
    exact calm.world.held handle object
  have outside : workspace.world.outside = workspace.world.held := by
    rw [World.outside, calm.world.pending]
    rfl
  refine ⟨?_, held, fun member => ?_⟩
  · rw [World.refCount, if_neg (by rw [object]; decide), outside, held, calm.world.overdrawn]
    rfl
  · rw [references_eq] at member
    exact (calm.alive.append calm.world.kept) handle member object

theorem refCount_of_failed_call :
    let failed := (on (take (.call (.drop 1))) started).2
    failed.world.overdrawn = [] ∧
      ∀ handle, handle.isNull = false →
        failed.world.refCount handle =
          failed.world.machine.heap.references handle + failed.references.count handle ∧
        failed.world.held.count handle = failed.references.count handle ∧
        (handle ∈ failed.references → failed.world.has handle = true) :=
  refCount_of_reachable (.take .started (.call (.drop 1)))

end Workspace

end ForeignBridge
