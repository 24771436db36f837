import ForeignBridge.CAbi
import ForeignBridge.Proofs.Registry
import ForeignBridge.Proofs.Ids.Log

/-! # Looking integers up

The operations on a registry come to what its log says. Objects that are looked up together are held
together, and if one of them is not there the others are let go again.
-/

namespace ForeignBridge

/-- That a log describes the registry of a world, or that there is neither. -/
def World.Logs (world : World) (log : Option IdLog) : Prop :=
  Option.Rel IdLog.Describes log world.registry

/-- The world in which the host holds some more references. -/
def World.owning (world : World) (handles : List Handle) : World :=
  (Act.on (Bridge.ownAll handles) world).2

/-- The object of an integer, if it has one. -/
def IdLog.objectOf (log : Option IdLog) (id : Int) : Handle :=
  ((log.bind fun log => log.object? id).getD .null)

variable {world : World} {log : Option IdLog} {α β : Type}

theorem IdLog.objectOf_of_resolve {id : Int} {handle : Handle}
    (found : IdLog.resolve log id = .ok handle) : IdLog.objectOf log id = handle := by
  cases log with
  | none => cases found
  | some log =>
    unfold IdLog.resolve at found
    rw [IdLog.objectOf, Option.bind_some]
    cases known : log.object? id with
    | none => simp [known] at found
    | some other =>
      simp only [known, Except.ok.injEq] at found
      exact found

namespace World

theorem owning_append (world : World) (first second : List Handle) :
    world.owning (first ++ second) = (world.owning first).owning second := by
  induction first generalizing world with
  | nil => rfl
  | cons handle rest ih => exact ih (world.owning [handle])

/-- A reference that has been taken can be given back at once. -/
theorem giveBack_owning (world : World) (handle : Handle) :
    (world.owning [handle]).giveBack handle = world := by
  change (Act.on (Bridge.own handle) world).2.giveBack handle = world
  rw [Bridge.own_on]
  cases null : handle.isNull with
  | true => simp [giveBack, withHeld, null]
  | false => simp [giveBack, withHeld, null]

theorem registry_owning (world : World) (handles : List Handle) :
    (world.owning handles).registry = world.registry := by
  induction handles generalizing world with
  | nil => rfl
  | cons handle rest ih =>
    refine (ih (Act.on (Bridge.own handle) world).2).trans ?_
    rw [Bridge.own_on]
    rfl

theorem Logs.owning (logs : world.Logs log) (handles : List Handle) :
    (world.owning handles).Logs log := by
  rw [Logs, registry_owning]
  exact logs

end World

namespace Bridge

/-- An integer has the object that the log has for it. -/
theorem resolve_of_logs (logs : world.Logs log) (id : Int) :
    Bridge.on (resolve id) world = match IdLog.resolve log id with
      | .ok handle => (.ok handle, world.owning [handle])
      | .error error => (.error error, world) := by
  rw [resolve_on]
  unfold World.Logs at logs
  generalize world.registry = registry at logs
  cases logs with
  | none => rfl
  | @some log table described =>
    unfold IdLog.resolve
    simp only [described.object]
    cases log.object? id <;> rfl

/-- The integer that is handed out comes after those in the log. -/
theorem register_of_logs (logs : world.Logs log) (handle : Handle) :
    (Bridge.on (register handle) world).1 = IdLog.register log := by
  rw [register_on]
  unfold World.Logs at logs
  generalize world.registry = registry at logs
  cases logs with
  | none => rfl
  | @some log table described =>
    simp only [IdLog.register, Registry.isFull, described.next, beq_iff_eq]
    split <;> rfl

/-- As many integers are there as have been handed out and not been taken back. -/
theorem registered_of_logs (logs : world.Logs log) :
    (Bridge.on registered world).1 = IdLog.registered log := by
  rw [registered_on]
  unfold World.Logs at logs
  generalize world.registry = registry at logs
  cases logs with
  | none => rfl
  | @some log table described =>
    have size := described.size
    exact congrArg Except.ok (by omega)

/-- An integer is taken back from the object that it was handed out for. -/
theorem unregister_of_logs (logs : world.Logs log) (id : Int) :
    (Bridge.on (unregister id) world).1 = IdLog.resolve log id := by
  rw [unregister_on]
  unfold World.Logs at logs
  generalize world.registry = registry at logs
  cases logs with
  | none => rfl
  | @some log table described =>
    unfold IdLog.resolve
    simp only [described.object]
    cases log.object? id <;> rfl

/-- Integers are looked up in order, and the first that has no object ends it. -/
theorem resolveAll_of_logs (logs : world.Logs log) (ids : List Int) :
    Bridge.on (resolveAll ids) world = match ids.mapM (IdLog.resolve log) with
      | .ok handles => (.ok handles, world.owning handles)
      | .error error => (.error error, world) := by
  induction ids generalizing world with
  | nil => rfl
  | cons id rest ih =>
    rw [resolveAll, on_bind_eq, resolve_of_logs logs, List.mapM_cons]
    cases IdLog.resolve log id with
    | error error => rfl
    | ok handle =>
      simp only
      rw [on_bind_eq, elseRelease_on, ih (logs.owning [handle])]
      cases rest.mapM (IdLog.resolve log) with
      | error error =>
        change (Except.error error, (world.owning [handle]).giveBack handle) = _
        rw [World.giveBack_owning]
        rfl
      | ok handles => rfl

end Bridge

/-! What is done with objects. -/

/-- What comes of something that is done with the objects of integers, once these have been looked up
in order and while the objects are held. -/
def IdLog.withObjects (log : Option IdLog) (world : World) (ids : List Int)
    (look : (Int → Handle) → Bridge α) : Except BridgeError α := do
  let handles ← ids.mapM (IdLog.resolve log)
  (Bridge.on (look (IdLog.objectOf log)) (world.owning handles)).1

theorem IdLog.withObjects_map (log : Option IdLog) (world : World) (ids : List Int)
    (look : (Int → Handle) → Bridge α) (change : α → β) :
    IdLog.withObjects log world ids (fun objectOf => change <$> look objectOf) =
      (IdLog.withObjects log world ids look).map change := by
  unfold IdLog.withObjects
  cases ids.mapM (IdLog.resolve log) with
  | error error => rfl
  | ok handles => exact congrArg Prod.fst (Bridge.on_map change _ _)

/-- The objects that have been looked up are those of the integers. -/
theorem IdLog.map_objectOf {ids : List Int} {handles : List Handle}
    (found : ids.mapM (IdLog.resolve log) = .ok handles) : ids.map (IdLog.objectOf log) = handles := by
  induction ids generalizing handles with
  | nil =>
    cases found
    rfl
  | cons id rest ih =>
    rw [List.mapM_cons] at found
    cases first : IdLog.resolve log id with
    | error error =>
      rw [first] at found
      cases found
    | ok handle =>
      cases others : rest.mapM (IdLog.resolve log) with
      | error error =>
        rw [first, others] at found
        cases found
      | ok last =>
        rw [first, others] at found
        cases found
        rw [List.map_cons, ih others, IdLog.objectOf_of_resolve first]

namespace CAbi

/-- What needs a text fails if that cannot be read. -/
theorem argumentText_bind (bytes : Bytes) (next : String → Bridge α) (world : World) :
    (Bridge.on (argumentText bytes >>= next) world).1 =
      readText bytes >>= fun text => (Bridge.on (next text) world).1 := by
  unfold argumentText
  cases readText bytes <;> rfl

/-- What is done with the object of an integer is done while it is held. -/
theorem withObject_of_logs (logs : world.Logs log) (id : Int) (look : Handle → Bridge α) :
    (Bridge.on (withObject id look) world).1 =
      IdLog.withObjects log world [id] fun objectOf => look (objectOf id) := by
  rw [withObject, Bridge.on_bind_eq, Bridge.resolve_of_logs logs, IdLog.withObjects, List.mapM_cons]
  cases found : IdLog.resolve log id with
  | error error => rfl
  | ok handle =>
    simp only
    rw [Bridge.thenRelease_on, IdLog.objectOf_of_resolve found]
    rfl

/-- An object is held while another one is looked up. -/
theorem withObject_withObject (logs : world.Logs log) (first second : Int)
    (look : Handle → Handle → Bridge α) :
    (Bridge.on (withObject first fun handle => withObject second (look handle)) world).1 =
      IdLog.withObjects log world [first, second] fun objectOf =>
        look (objectOf first) (objectOf second) := by
  rw [withObject_of_logs logs]
  unfold IdLog.withObjects
  simp only [List.mapM_cons, List.mapM_nil]
  cases IdLog.resolve log first with
  | error error => rfl
  | ok handle =>
    change (Bridge.on (withObject second _) (world.owning [handle])).1 = _
    rw [withObject_of_logs (logs.owning [handle]), IdLog.withObjects, List.mapM_cons, List.mapM_nil]
    cases IdLog.resolve log second <;> rfl

theorem readIds_eq {arguments : Ids} {count : ℕ} {ids : List Int}
    (read : readIds arguments count = .ok ids) : ids = (arguments.getD []).take count := by
  unfold readIds at read
  split at read
  · rename_i empty
    cases read
    rw [empty, List.take_zero]
  · cases arguments with
    | none => cases read
    | some all =>
      cases read
      rfl

/-- The objects of an array are held while what is done with them is looked up. -/
theorem argumentObjects_withObject (logs : world.Logs log) (arguments : Ids) (count : ℕ) (id : Int)
    (look : List Handle → Handle → Bridge α) :
    (Bridge.on (do
      let handles ← argumentObjects arguments count
      Bridge.thenRelease handles (withObject id (look handles))) world).1 =
      (readIds arguments count).map (· ++ [id]) >>= fun ids =>
        IdLog.withObjects log world ids fun objectOf =>
          look (((arguments.getD []).take count).map objectOf) (objectOf id) := by
  cases read : readIds arguments count with
  | error error =>
    rw [argumentObjects, read]
    rfl
  | ok ids =>
    have looked : Bridge.on (argumentObjects arguments count) world =
        Bridge.on (Bridge.resolveAll ids) world := by
      rw [argumentObjects, read]
      rfl
    change _ = IdLog.withObjects log world (ids ++ [id]) fun objectOf =>
      look (((arguments.getD []).take count).map objectOf) (objectOf id)
    rw [Bridge.on_bind_eq, looked, Bridge.resolveAll_of_logs logs, IdLog.withObjects, List.mapM_append,
      ← readIds_eq read]
    cases found : ids.mapM (IdLog.resolve log) with
    | error error => rfl
    | ok handles =>
      simp only
      rw [Bridge.thenRelease_on, withObject_of_logs (logs.owning handles), IdLog.withObjects,
        List.mapM_cons, List.mapM_nil, IdLog.map_objectOf found]
      cases IdLog.resolve log id with
      | error error => rfl
      | ok handle =>
        change _ = (Bridge.on (look handles (IdLog.objectOf log id))
          (world.owning (handles ++ [handle]))).1
        rw [World.owning_append]
        rfl

end CAbi

end ForeignBridge
