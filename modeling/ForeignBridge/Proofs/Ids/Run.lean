import ForeignBridge.Proofs.Ids.Calls
import ForeignBridge.Proofs.Ownership.Reachable

/-! # Integers over runs

The log of a registry is kept along a run: a step adds to it the integer that it hands out or takes
back, and a step that fails adds nothing. Whatever the run, the registry is the one that the log
describes, so operations on it and calls of the C interface answer by the log.
-/

namespace ForeignBridge

open CAbi (Made)

/-- What an action comes to, as far as it has to do with integers. -/
def Action.made (workspace : Workspace) : Action → Made
  | .openRegistry => .opened
  | .closeRegistry => .closed
  | .register slot => .object (workspace.slot slot)
  | .unregister id => .dropped id
  | _ => .answer .none

namespace Workspace

variable {workspace : Workspace} {log : Option IdLog} {α β : Type}

/-- The log after a step. -/
def logAfter (workspace : Workspace) (log : Option IdLog) : Step → Option IdLog
  | .call call => call.logAfter log workspace.world
  | .act action _ _ _ => (action.made workspace).log log

/-! What steps do to the registry. -/

/-- What is done in the world comes to what it comes to there. -/
theorem on_tryInWorld (bridge : Bridge α) (become : α → β) (workspace : Workspace) :
    on (do return become (← tryInWorld bridge) : Attempt β).run workspace =
      ((bridge.on workspace.world).1.map become,
        { workspace with world := (bridge.on workspace.world).2 }) := by
  have rest : on (do return become (← tryInWorld bridge) : Attempt β).run workspace =
      on (ExceptT.bindCont (fun value => pure (become value)) (bridge.on workspace.world).1)
        { workspace with world := (bridge.on workspace.world).2 } := rfl
  rw [rest]
  cases (bridge.on workspace.world).1 <;> rfl

/-- What an action does to the registry. Only a few do anything. -/
theorem registry_perform (calm : workspace.Calm []) (view : View) (action : Action) :
    (on (perform view action).run workspace).2.world.registry =
      (action.made workspace).registry workspace.world.registry := by
  have starts (same : action.changes = World.Starting) :
      (on (perform view action).run workspace).2.world.registry = workspace.world.registry := by
    have performed : Tries action.changes workspace [] [] (perform view action) Product.references :=
      perform_balances view action
    have changed := (performed [] calm nofun).1
    rw [same] at changed
    exact changed.registry
  cases action with
  | openRegistry | setLastError | clearLastError => rfl
  | closeRegistry => exact Bridge.closeRegistry_registry workspace.world
  | register slot =>
    change (on (do return Product.answer (.number (← tryInWorld
      (Bridge.register (workspace.slot slot)))) : Attempt Product).run
      { workspace with world := workspace.world.owning [workspace.slot slot] }).2.world.registry = _
    rw [on_tryInWorld, Bridge.register_registry, World.registry_owning]
    rfl
  | unregister id =>
    rw [perform, on_tryInWorld, Bridge.unregister_registry]
    rfl
  | _ => exact starts rfl

/-- To keep or to let go what an action came to does nothing to the registry. -/
theorem registry_act (calm : workspace.Calm []) (action : Action) (slot kept : Option String)
    (view : View) : (on (answer (.act action slot kept view)) workspace).2.world.registry =
      (action.made workspace).registry workspace.world.registry := by
  rw [← registry_perform calm view action]
  have performed : Tries action.changes workspace [] [] (perform view action) Product.references :=
    perform_balances view action
  have after := (performed [] calm nofun).2
  rw [answer, on_bind]
  generalize on (perform view action).run workspace = outcome at *
  obtain ⟨result, between⟩ := outcome
  cases result with
  | error error => rfl
  | ok product =>
    have delivered : Balances World.Steady between product.references product.references
        (deliver slot kept view product) fun _ => [] := deliver_balances slot kept view product
    have alive := (after.alive.mono (List.subset_append_left _ _)).mono (List.subset_append_left _ _)
    exact (delivered [] after alive).1.registry

/-- What a step does to the registry, its log tells. -/
theorem logs_take (calm : workspace.Calm []) (logs : workspace.world.Logs log) (step : Step) :
    (on (take step) workspace).2.world.Logs (workspace.logAfter log step) := by
  have valid := calm.world.registry
  cases step with
  | act action slot kept view =>
    change Option.Rel _ _ (on (answer (.act action slot kept view)) workspace).2.world.registry
    rw [registry_act calm]
    exact (action.made workspace).describes_log logs valid
  | call call =>
    have meets := CAbi.perform_meets calm.world logs call
    change Option.Rel _ _ (Act.on (CAbi.perform call) workspace.world).2.registry
    rw [meets.registry, logAfter, CAbi.Call.logAfter]
    cases call.made log workspace.world.cleared with
    | error error => exact logs
    | ok made => exact made.describes_log logs valid

/-! Runs. -/

/-- The workspaces that steps lead to, with the logs of their registries. -/
inductive Logged : Workspace → Option IdLog → Prop where
  | fresh (environment : Environment) : Logged (fresh environment) none
  | started : Logged started (some .empty)
  | take {workspace : Workspace} {log : Option IdLog} (logged : Logged workspace log) (step : Step) :
    Logged (on (take step) workspace).2 (workspace.logAfter log step)

/-- Every workspace that steps lead to has a log. -/
theorem exists_logged (reachable : Reachable workspace) : ∃ log, Logged workspace log := by
  induction reachable with
  | fresh environment => exact ⟨none, .fresh environment⟩
  | started => exact ⟨some .empty, .started⟩
  | take _ step ih =>
    obtain ⟨log, logged⟩ := ih
    exact ⟨_, logged.take step⟩

theorem Logged.calm (logged : Logged workspace log) : workspace.Calm [] := by
  induction logged with
  | fresh environment => exact calm_fresh environment
  | started => exact calm_started
  | take _ step ih => exact ih.take step

/-- At first the registry is empty. -/
theorem registry_started : started.world.registry = some .empty := by
  let bare := World.ofMachine Foreign.Machine.start ⟨none, none⟩
  have calm : bare.Calm [] := World.calm_ofMachine Foreign.Machine.sound_start _
  obtain ⟨starting, _⟩ := @Bridge.startWith_balances [] .standard bare [] calm nofun
  have opened : started.world.registry =
      some ((Bridge.on (Bridge.startWith .standard) bare).2.registry.getD .empty) := rfl
  rw [opened, starting.registry]
  rfl

theorem Logged.logs (logged : Logged workspace log) : workspace.world.Logs log := by
  induction logged with
  | fresh environment => exact .none
  | started =>
    rw [World.Logs, registry_started]
    exact .some IdLog.describes_empty
  | take logged step ih => exact logs_take logged.calm ih step

/-- That all operations on integers go by the log. -/
structure AnswersBy (workspace : Workspace) (log : Option IdLog) : Prop where
  /-- The log describes the registry, or there is none. -/
  logs : workspace.world.Logs log
  /-- Each integer has a reference of its own to its object, which is there. -/
  owned : ∀ registry ∈ workspace.world.registry, ∀ handle ∈ registry.handles,
    handle.isNull = false → workspace.world.has handle = true ∧
      registry.handles.count handle ≤ workspace.world.held.count handle
  /-- An integer is resolved to its object, with one more reference. -/
  resolve : ∀ id, Bridge.on (Bridge.resolve id) workspace.world = match IdLog.resolve log id with
    | .ok handle => (.ok handle, workspace.world.owning [handle])
    | .error error => (.error error, workspace.world)
  unregister : ∀ id, (Bridge.on (Bridge.unregister id) workspace.world).1 = IdLog.resolve log id
  register : ∀ handle, (Bridge.on (Bridge.register handle) workspace.world).1 = IdLog.register log
  registered : (Bridge.on Bridge.registered workspace.world).1 = IdLog.registered log
  call : ∀ call, (on (take (.call call)) workspace).1 = call.reply log workspace.world
  /-- What fails or has nothing to do with integers leaves the registry as it is. -/
  unchanged : ∀ call : CAbi.Call,
    ((∃ error, call.result log workspace.world.cleared = .error error) ∨
      ∃ answer, call.made log workspace.world.cleared = .ok (.answer answer)) →
    (on (take (.call call)) workspace).2.world.registry = workspace.world.registry

/-- In every run the operations on integers go by what has been handed out and taken back. -/
theorem answersBy_of_logged (logged : Logged workspace log) : workspace.AnswersBy log := by
  have calm := logged.calm
  have logs := logged.logs
  refine ⟨logs, fun registry opened handle member object => ?_, Bridge.resolve_of_logs logs,
    Bridge.unregister_of_logs logs, Bridge.register_of_logs logs, Bridge.registered_of_logs logs,
    fun call => (CAbi.perform_meets calm.world logs call).reply, fun call idle => ?_⟩
  · have kept := World.kept_of_registry opened
    have owned := calm.world.held handle object
    rw [kept] at owned
    simp only [List.count_append] at owned
    exact ⟨calm.world.kept handle (kept ▸ List.mem_append_left _ member) object, by omega⟩
  · have meets := CAbi.perform_meets calm.world logs call
    change (Act.on (CAbi.perform call) workspace.world).2.registry = _
    rw [meets.registry]
    unfold CAbi.Call.result at idle
    generalize call.made log workspace.world.cleared = outcome at idle
    cases outcome with
    | error error => rfl
    | ok made =>
      obtain ⟨error, failed⟩ | ⟨answer, ⟨rfl⟩⟩ := idle
      · exact Made.registry_of_error logs failed
      · rfl

theorem answersBy_started : started.AnswersBy (some .empty) := answersBy_of_logged .started

/-- A name that cannot be read is noticed before an integer that was never handed out, and before it is
noticed that there is no registry. -/
theorem unreadable_name_first :
    let step := Step.call (.getAttribute 7 (some [255]))
    let unreadable := Reply.called (.number 0)
      (some "Invalid argument: invalid UTF-8: invalid utf-8 sequence of 1 bytes from index 0")
    (started.world.registry = some .empty ∧ Registry.empty.get? 7 = none ∧
      (on (take step) started).1 = unreadable ∧
      unreadable ≠ .called (.number 0) (some (spellNuls (BridgeError.invalidHandle 7).display))) ∧
    ((fresh ⟨none, none⟩).world.registry = none ∧
      (on (take step) (fresh ⟨none, none⟩)).1 = unreadable ∧
      unreadable ≠ .called (.number 0) (some (spellNuls BridgeError.notInitialized.display))) := by
  refine ⟨⟨registry_started, rfl, rfl, fun same => ?_⟩, rfl, rfl, fun same => ?_⟩
  · simp only [Reply.called.injEq, Option.some.injEq, true_and] at same
    exact absurd same (by decide)
  · simp only [Reply.called.injEq, Option.some.injEq, true_and] at same
    exact absurd same (by decide)

end Workspace

end ForeignBridge
