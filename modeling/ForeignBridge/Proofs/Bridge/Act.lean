import ForeignBridge.Bridge.Build
import ForeignBridge.Bridge.Read
import ForeignBridge.Proofs.Foreign.Run

/-! # Acts in a world

What each step of an act comes to, in a world that is given.
-/

namespace ForeignBridge

open Foreign (Machine Run Thrown)

variable {α β : Type} {world after : World}

/-- What comes of an act in a world. -/
def Act.on (act : Act α) (world : World) : α × World := act.run world

theorem Act.on_bind (first : Act α) (next : α → Act β) (world : World) :
    Act.on (first >>= next) world = (next (first.on world).1).on (first.on world).2 := rfl

theorem Act.on_get_bind (next : World → Act α) (world : World) :
    Act.on (get >>= next) world = (next world).on world := rfl

namespace World

/-- The world in which the host holds other references. -/
def withHeld (world : World) (held : List Handle) : World := { world with held }

/-- The world in which another machine runs. -/
def withMachine (world : World) (machine : Machine) : World := { world with machine }

/-- To give references back changes nothing but what the host holds. -/
theorem foldl_giveBack (handles : List Handle) (world : World) :
    ∃ held overdrawn, handles.foldl giveBack world = { world with held, overdrawn } := by
  have one (world : World) (handle : Handle) :
      ∃ held overdrawn, world.giveBack handle = { world with held, overdrawn } := by
    unfold giveBack
    split
    · exact ⟨_, _, rfl⟩
    · split <;> exact ⟨_, _, rfl⟩
  induction handles generalizing world with
  | nil => exact ⟨_, _, rfl⟩
  | cons handle rest ih =>
    obtain ⟨held, overdrawn, first⟩ := one world handle
    obtain ⟨held, overdrawn, others⟩ := ih (world.giveBack handle)
    exact ⟨held, overdrawn, by rw [List.foldl_cons, others, first]⟩

end World

namespace Bridge

/-- What comes of an act that may fail in a world. -/
def on (act : Bridge α) (world : World) : Except BridgeError α × World := Act.on act.run world

@[simp] theorem on_pure (value : α) (world : World) :
    Bridge.on (pure value) world = (.ok value, world) := rfl

@[simp] theorem on_throw (error : BridgeError) (world : World) :
    Bridge.on (throw error : Bridge α) world = (.error error, world) := rfl

@[simp] theorem on_get (world : World) : Bridge.on (get : Bridge World) world = (.ok world, world) := rfl

theorem on_lift (act : Act α) (world : World) :
    Bridge.on (liftM act) world = (.ok (act.on world).1, (act.on world).2) := rfl

theorem on_bind_eq (first : Bridge α) (next : α → Bridge β) (world : World) :
    Bridge.on (first >>= next) world = match first.on world with
      | (.ok value, after) => (next value).on after
      | (.error error, after) => (.error error, after) := by
  have rest : Bridge.on (first >>= next) world =
      Act.on (ExceptT.bindCont next (first.on world).1) (first.on world).2 := rfl
  rw [rest]
  obtain ⟨result, after⟩ := first.on world
  cases result with
  | ok value => rfl
  | error error => rfl

theorem on_map (change : α → β) (act : Bridge α) (world : World) :
    Bridge.on (change <$> act) world = ((act.on world).1.map change, (act.on world).2) := by
  rw [map_eq_pure_bind, on_bind_eq]
  obtain ⟨result, after⟩ := act.on world
  cases result <;> rfl

/-- A step that succeeds hands its result to what follows. -/
theorem on_bind {first : Bridge α} {value : α} (next : α → Bridge β)
    (step : first.on world = (.ok value, after)) :
    Bridge.on (first >>= next) world = (next value).on after := by
  rw [on_bind_eq, step]

/-- What succeeds has succeeded step by step. -/
theorem ok_of_on_bind {first : Bridge α} {next : α → Bridge β} {value : β}
    (done : Bridge.on (first >>= next) world = (.ok value, after)) : ∃ part middle,
      first.on world = (.ok part, middle) ∧ (next part).on middle = (.ok value, after) := by
  rw [on_bind_eq] at done
  cases step : first.on world with
  | mk result middle =>
    rw [step] at done
    cases result with
    | error error => cases done
    | ok part => exact ⟨part, middle, rfl, done⟩

theorem own_on (handle : Handle) (world : World) : Act.on (own handle) world =
    ((), world.withHeld (if handle.isNull then world.held else handle :: world.held)) := by
  unfold own
  split <;> rfl

theorem release_on (handle : Handle) (world : World) :
    Act.on (release handle) world = ((), world.giveBack handle) := rfl

theorem releaseAll_on (handles : List Handle) (world : World) :
    Act.on (releaseAll handles) world = ((), handles.foldl World.giveBack world) := by
  unfold releaseAll
  induction handles generalizing world with
  | nil => rfl
  | cons handle rest ih =>
    change Act.on (release handle >>= fun _ => rest.forM release) world = _
    rw [Act.on_bind, release_on, ih]
    rfl

theorem thenRelease_on (handles : List Handle) (act : Bridge α) (world : World) :
    Bridge.on (thenRelease handles act) world =
      ((act.on world).1, handles.foldl World.giveBack (act.on world).2) := by
  have rest : Bridge.on (thenRelease handles act) world =
      ((act.on world).1, (Act.on (releaseAll handles) (act.on world).2).2) := rfl
  rw [rest, releaseAll_on]

theorem thenRelease_on_ok {act : Bridge α} {value : α} (handles : List Handle)
    (step : act.on world = (.ok value, after)) : ∃ held overdrawn,
      Bridge.on (thenRelease handles act) world = (.ok value, { after with held, overdrawn }) := by
  obtain ⟨held, overdrawn, same⟩ := World.foldl_giveBack handles after
  exact ⟨held, overdrawn, by rw [thenRelease_on, step, same]⟩

/-- What goes on after the outcome of something, failure included. -/
theorem on_outcome_bind (act : Bridge α) (next : Except BridgeError α → Act (Except BridgeError β))
    (world : World) : Bridge.on (ExceptT.mk (outcome act >>= next)) world =
      Act.on (next (act.on world).1) (act.on world).2 := rfl

theorem elseRelease_on (handles : List Handle) (act : Bridge α) (world : World) :
    Bridge.on (elseRelease handles act) world = match act.on world with
      | (.ok value, after) => (.ok value, after)
      | (.error error, after) =>
        (.error error, handles.foldl World.giveBack after) := by
  rw [elseRelease, on_outcome_bind]
  obtain ⟨result, after⟩ := act.on world
  cases result with
  | ok value => rfl
  | error error =>
    simp only
    rw [Act.on_bind, releaseAll_on]
    rfl

/-- What succeeds gives nothing back. -/
theorem elseRelease_on_ok {handles : List Handle} {act : Bridge α} {value : α}
    (step : act.on world = (.ok value, after)) :
    Bridge.on (elseRelease handles act) world = (.ok value, after) := by
  rw [elseRelease_on, step]

theorem session_on {session : Session} (running : world.session = some session) :
    Bridge.on Bridge.session world = (.ok session, world) := by
  rw [Bridge.session, on_bind _ (on_get world), running]
  rfl

/-! What runs in the interpreter. -/

theorem onMachine_on (run : Run α) (world : World) : Act.on (onMachine run) world =
    ((run.on world.machine).1, world.withMachine (run.on world.machine).2) := rfl

theorem attempt_on_ok {run : Run α} {value : α} {machine : Machine}
    (step : run.on world.machine = (.ok value, machine)) :
    Act.on (attempt run) world = (some value, world.withMachine machine) := by
  rw [attempt, Act.on_bind, onMachine_on, step]
  rfl

theorem attempt_on_error {run : Run α} {thrown : Thrown} {machine : Machine}
    (step : run.on world.machine = (.error thrown, machine)) : Act.on (attempt run) world =
      (none, { world.withMachine machine with pending := some thrown }) := by
  rw [attempt, Act.on_bind, onMachine_on, step]
  rfl

theorem perform_on_ok {run : Run α} {value : α} {machine : Machine}
    (step : run.on world.machine = (.ok value, machine)) :
    Bridge.on (perform run) world = (.ok value, world.withMachine machine) := by
  rw [perform, orThrow, on_bind_eq, on_lift, attempt_on_ok step]
  rfl

/-- An object that an attempt comes to is handed out with a reference. -/
theorem attemptOwned_on_ok {run : Run Handle} {handle : Handle} {machine : Machine}
    (step : run.on world.machine = (.ok handle, machine))
    (present : machine.heap.has handle = true) : Act.on (attemptOwned run) world =
      (some handle, (world.withMachine machine).withHeld (handle :: world.held)) := by
  have there : handle.isNull = false := by
    obtain ⟨cell, found⟩ := Option.isSome_iff_exists.mp present
    exact Foreign.Heap.not_isNull_of_get? found
  rw [attemptOwned, Act.on_bind, attempt_on_ok step]
  have seen : (world.withMachine machine).has handle = true := present
  change Act.on (if (world.withMachine machine).has handle then _ else _) _ = _
  rw [if_pos seen, Act.on_bind, own_on, there]
  rfl

/-- What is no object counts for nothing. -/
theorem attemptOwned_on_absent {run : Run Handle} {handle : Handle} {machine : Machine}
    (step : run.on world.machine = (.ok handle, machine))
    (absent : machine.heap.get? handle = none) :
    Act.on (attemptOwned run) world = (none, world.withMachine machine) := by
  have unseen : (world.withMachine machine).has handle = false := by
    rw [World.has, Foreign.Heap.has]
    exact congrArg Option.isSome absent
  rw [attemptOwned, Act.on_bind, attempt_on_ok step]
  change Act.on (if (world.withMachine machine).has handle then _ else _) _ = _
  rw [if_neg (by simp [unseen])]
  rfl

theorem attemptOwned_on_error {run : Run Handle} {thrown : Thrown} {machine : Machine}
    (step : run.on world.machine = (.error thrown, machine)) : Act.on (attemptOwned run) world =
      (none, { world.withMachine machine with pending := some thrown }) := by
  rw [attemptOwned, Act.on_bind, attempt_on_error step]
  rfl

/-- What makes an object hands out a reference to it. -/
theorem made_on_ok {run : Run Handle} {handle : Handle} {machine : Machine}
    (step : run.on world.machine = (.ok handle, machine))
    (present : machine.heap.has handle = true) : Bridge.on (made run) world =
      (.ok handle, (world.withMachine machine).withHeld (handle :: world.held)) := by
  rw [made, orThrow, on_bind_eq, on_lift, attemptOwned_on_ok step present]
  rfl

/-- Fields are put into a dictionary like pairs whose keys are their names. -/
theorem buildFields_eq (dict : Handle) (fields : List (String × Value)) :
    buildFields dict fields =
      buildPairs dict (fields.map fun field => (.text field.1, field.2)) := by
  induction fields with
  | nil => rfl
  | cons field rest ih => rw [List.map_cons, buildPairs, buildFields, build, ih]

end Bridge

end ForeignBridge
