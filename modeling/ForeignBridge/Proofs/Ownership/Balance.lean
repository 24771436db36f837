import ForeignBridge.Proofs.Ownership.Ledger

/-! # Balanced acts

An act that balances may look at objects that are lent to it, takes over the references that are
given to it, and hands out those that are due for its result; when it fails it hands out none. What
is owed to others beside it does not matter, so balanced acts can be put together.
-/

namespace ForeignBridge

open World (Steady)

namespace World

/-- A way for worlds to change in which objects stay where they are. -/
class Change (change : World → World → Prop) : Prop where
  of_steady {before after : World} : before.Steady after → change before after
  trans {first second third : World} : change first second → change second third → change first third
  grows {before after : World} : change before after →
    before.machine.heap.Grows after.machine.heap

instance : Change Steady := ⟨id, Steady.trans, Steady.grows⟩

/-- How worlds change when what they keep may change as well. -/
def Grows (before after : World) : Prop := before.machine.heap.Grows after.machine.heap

instance : Change Grows := ⟨Steady.grows, .trans, id⟩

/-- How worlds change when a session may start: integers stay what they are. -/
structure Starting (before after : World) : Prop where
  grows : before.machine.heap.Grows after.machine.heap
  registry : after.registry = before.registry
  lastError : after.lastError = before.lastError

theorem Steady.starting {before after : World} (steady : before.Steady after) :
    before.Starting after := ⟨steady.grows, steady.registry, steady.lastError⟩

instance : Change Starting where
  of_steady := Steady.starting
  trans early late := ⟨early.grows.trans late.grows, late.registry.trans early.registry,
    late.lastError.trans early.lastError⟩
  grows := Starting.grows

end World

open World (Change)

/-- An act that turns the references it is given into those that are due for its result. -/
def Act.Balances {α : Type} (change : World → World → Prop) (lent given : List Handle) (act : Act α)
    (due : α → List Handle) : Prop :=
  ∀ world owed, world.Calm (given ++ owed) → world.Alive lent →
    change world (act.on world).2 ∧ (act.on world).2.Calm (due (act.on world).1 ++ owed) ∧
      (act.on world).2.Alive (due (act.on world).1)

/-- What is due for a result, or for none. -/
def Bridge.dues {α : Type} (due : α → List Handle) : Except BridgeError α → List Handle
  | .ok value => due value
  | .error _ => []

/-- An act that turns the references it is given into those that are due for its result, or gives
them back if it fails. -/
def Bridge.Balances {α : Type} (change : World → World → Prop) (lent given : List Handle)
    (act : Bridge α) (due : α → List Handle) : Prop :=
  ∀ world owed, world.Calm (given ++ owed) → world.Alive lent →
    change world (act.on world).2 ∧ (act.on world).2.Calm (dues due (act.on world).1 ++ owed) ∧
      (act.on world).2.Alive (dues due (act.on world).1)

variable {change : World → World → Prop} {lent given more : List Handle} {α β : Type}
  {mid : α → List Handle} {due : β → List Handle}

namespace Act.Balances

/-- What is known of the world at the start may be used. -/
theorem get_bind {next : World → Act β}
    (tail : ∀ world, Act.Balances change lent given (next world) due) :
    Act.Balances change lent given (get >>= next) due :=
  fun world owed => tail world world owed

theorem lend {act : Act β} (balances : Act.Balances change lent given act due) (part : lent ⊆ more) :
    Act.Balances change more given act due :=
  fun world owed calm alive => balances world owed calm (alive.mono part)

variable [Change change]

theorem pure {value : β} (same : given.Perm (due value)) (part : given ⊆ lent) :
    Act.Balances change lent given (pure value) due := by
  intro world owed calm alive
  exact ⟨Change.of_steady (.refl world), calm.perm (same.append_right owed),
    alive.mono fun _ member => part (same.symm.subset member)⟩

theorem bind {first : Act α} {next : α → Act β} (head : Act.Balances change lent given first mid)
    (tail : ∀ value, Act.Balances change (mid value ++ lent) (mid value) (next value) due) :
    Act.Balances change lent given (first >>= next) due := by
  intro world owed calm alive
  obtain ⟨early, between, there⟩ := head world owed calm alive
  have still := alive.grows (Change.grows early)
  obtain ⟨late, done, alive⟩ := tail _ _ owed between (there.append still)
  rw [Act.on_bind]
  exact ⟨Change.trans early late, done, alive⟩

/-- What balances does so however worlds may change in it. -/
theorem grow {act : Act β} (balances : Act.Balances change lent given act due) :
    Act.Balances World.Grows lent given act due := by
  intro world owed calm alive
  obtain ⟨changed, done⟩ := balances world owed calm alive
  exact ⟨Change.grows changed, done⟩

/-- References that an act is not concerned with stay beside it. -/
theorem beside {act : Act β} {handles : List Handle} (part : handles ⊆ lent)
    (balances : Act.Balances change lent [] act due) :
    Act.Balances change lent handles act fun value => handles ++ due value := by
  intro world owed calm alive
  obtain ⟨early, between, there⟩ := balances world (handles ++ owed) calm alive
  refine ⟨early, between.perm ?_, ((alive.mono part).grows (Change.grows early)).append there⟩
  rw [← List.append_assoc]
  exact List.perm_append_comm.append_right owed

end Act.Balances

namespace Bridge.Balances

/-- What balances whether or not it fails. -/
theorem lift {act : Act β} (balances : Act.Balances change lent given act due) :
    Bridge.Balances change lent given (liftM act) due := balances

/-- What goes on after something that does not fail. -/
theorem lift_bind {act : Act α} {next : α → Bridge β}
    (whole : Act.Balances change lent given (act >>= fun value => (next value).run) (dues due)) :
    Bridge.Balances change lent given (liftM act >>= next) due := whole

theorem get_bind {next : World → Bridge β}
    (tail : ∀ world, Bridge.Balances change lent given (next world) due) :
    Bridge.Balances change lent given (get >>= next) due :=
  fun world owed => tail world world owed

theorem lend {act : Bridge β} (balances : Bridge.Balances change lent given act due)
    (part : lent ⊆ more) : Bridge.Balances change more given act due :=
  Act.Balances.lend balances part

theorem perm {act : Bridge β} {others : List Handle} (same : given.Perm others)
    (balances : Bridge.Balances change lent given act due) :
    Bridge.Balances change lent others act due :=
  fun world owed calm => balances world owed (calm.perm (same.symm.append_right owed))

variable [Change change]

theorem pure {value : β} (same : given.Perm (due value)) (part : given ⊆ lent) :
    Bridge.Balances change lent given (pure value) due :=
  Act.Balances.pure same part

theorem grow {act : Bridge β} (balances : Bridge.Balances change lent given act due) :
    Bridge.Balances World.Grows lent given act due := Act.Balances.grow balances

theorem throw (error : BridgeError) : Bridge.Balances change lent [] (throw error) due :=
  Act.Balances.pure (.refl _) (List.nil_subset _)

theorem ofExcept (result : Except BridgeError β) :
    Bridge.Balances change lent [] (MonadExcept.ofExcept result) fun _ => [] := by
  cases result with
  | ok value => exact .pure (.refl _) (List.nil_subset _)
  | error error => exact throw error

theorem bind {first : Bridge α} {next : α → Bridge β}
    (head : Bridge.Balances change lent given first mid)
    (tail : ∀ value, Bridge.Balances change (mid value ++ lent) (mid value) (next value) due) :
    Bridge.Balances change lent given (first >>= next) due := by
  have whole : Act.Balances change lent given (first.run >>= ExceptT.bindCont next) (dues due) := by
    refine Act.Balances.bind head fun result => ?_
    cases result with
    | ok value => exact tail value
    | error error => exact throw error
  exact whole

/-- What runs beside references that are given back in the end. -/
theorem thenRelease {act : Bridge β} (handles : List Handle)
    (balances : Bridge.Balances change lent [] act due) :
    Bridge.Balances change lent handles (thenRelease handles act) due := by
  intro world owed calm alive
  obtain ⟨early, between, there⟩ := balances world (handles ++ owed) calm alive
  have steady := World.steady_giveBackAll handles (act.on world).2
  rw [thenRelease_on]
  refine ⟨Change.trans early (Change.of_steady steady), ?_, there.grows steady.grows⟩
  exact (between.perm (by
    rw [← List.append_assoc, ← List.append_assoc]
    exact List.perm_append_comm.append_right owed)).giveBackAll

/-- What runs beside references that are given back if it fails. -/
theorem elseRelease {act : Bridge β} {handles : List Handle} (part : handles ⊆ lent)
    (balances : Bridge.Balances change lent [] act due) :
    Bridge.Balances change lent handles (elseRelease handles act)
      fun value => handles ++ due value := by
  intro world owed calm alive
  obtain ⟨early, between, there⟩ := balances world (handles ++ owed) calm alive
  rw [elseRelease_on]
  generalize act.on world = outcome at *
  obtain ⟨result, after⟩ := outcome
  cases result with
  | ok value =>
    refine ⟨early, between.perm ?_, ((alive.mono part).grows (Change.grows early)).append there⟩
    change (due value ++ (handles ++ owed)).Perm (handles ++ due value ++ owed)
    rw [← List.append_assoc]
    exact List.perm_append_comm.append_right owed
  | error error =>
    have steady := World.steady_giveBackAll handles after
    have between : after.Calm (handles ++ owed) := between
    exact ⟨Change.trans early (Change.of_steady steady), between.giveBackAll, there.grows steady.grows⟩

end Bridge.Balances

end ForeignBridge
