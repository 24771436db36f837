import ForeignBridge.Proofs.Ownership.Balance

/-! # Attempts

What runs in the interpreter leaves the references of the host as they are, apart from the one to its
result. If it comes to nothing something may be pending; to look at that, or to drop it, calms the
world again.
-/

namespace ForeignBridge

open Foreign (Run Machine Thrown TraceFrame)
open World (Change Steady)

/-- An act that runs the interpreter and leaves no exception unless it comes to nothing. -/
def Act.Tries {α : Type} (act : Act (Option α)) : Prop :=
  ∀ world, world.Stirred (act.on world).2 ∧
    ((act.on world).1.isSome = true → (act.on world).2.pending = world.pending)

/-- An act that only runs the interpreter. -/
def Act.Stirs {α : Type} (act : Act α) : Prop :=
  ∀ world : World, world.Stirred (act.on world).2

/-- An act that balances and leaves nothing pending, whatever was pending before. -/
def Act.Calms {α : Type} (change : World → World → Prop) (given : List Handle) (act : Act α)
    (due : α → List Handle) : Prop :=
  ∀ world owed, world.Holds (given ++ owed) →
    change world (act.on world).2 ∧ (act.on world).2.Calm (due (act.on world).1 ++ owed) ∧
      (act.on world).2.Alive (due (act.on world).1)

variable {change : World → World → Prop} [Change change] {lent given owed : List Handle}
  {α β : Type} {due : β → List Handle} {world : World}

/-- What follows an attempt may rely on calm only if the attempt has come to something. -/
theorem Act.Tries.bind {act : Act (Option α)} {next : Option α → Act β}
    (tries : act.Tries) (found : ∀ value, Act.Balances change lent given (next (some value)) due)
    (missing : Act.Calms change given (next none) due) :
    Act.Balances change lent given (act >>= next) due := by
  intro world owed calm alive
  obtain ⟨stirred, quiet⟩ := tries world
  have grown := alive.grows stirred.steady.grows
  rw [Act.on_bind]
  generalize act.on world = outcome at *
  obtain ⟨result, middle⟩ := outcome
  have holds := stirred.holds calm.toHolds
  cases result with
  | some value =>
    obtain ⟨late, done⟩ := found value middle owed ⟨holds, (quiet rfl).trans calm.pending⟩ grown
    exact ⟨Change.trans (Change.of_steady stirred.steady) late, done⟩
  | none =>
    obtain ⟨late, done⟩ := missing middle owed holds
    exact ⟨Change.trans (Change.of_steady stirred.steady) late, done⟩

theorem Act.Stirs.bind {act : Act α} {next : α → Act β} (stirs : act.Stirs)
    (tail : ∀ value, Act.Calms change given (next value) due) :
    Act.Calms change given (act >>= next) due := by
  intro world owed holds
  obtain ⟨late, done⟩ := tail (act.on world).1 (act.on world).2 owed ((stirs world).holds holds)
  exact ⟨Change.trans (Change.of_steady (stirs world).steady) late, done⟩

omit [Change change] in
theorem Act.Calms.balances {act : Act β} (calms : Act.Calms change given act due) :
    Act.Balances change lent given act due :=
  fun world owed calm _ => calms world owed calm.toHolds

namespace Bridge

theorem attempt_tries (run : Run α) : (attempt run).Tries := by
  intro world
  have grown := run.grows world.machine
  cases step : run.on world.machine with
  | mk result machine =>
    rw [step] at grown
    cases result with
    | ok value =>
      rw [attempt_on_ok step]
      exact ⟨⟨machine, world.pending, grown, rfl⟩, fun _ => rfl⟩
    | error thrown =>
      rw [attempt_on_error step]
      exact ⟨⟨machine, some thrown, grown, rfl⟩, nofun⟩

theorem textOf_tries (handle : Handle) : (textOf handle).Tries := by
  unfold textOf
  split
  · exact fun world => ⟨.refl world, nofun⟩
  · exact attempt_tries _

/-- An attempt to make an object comes to one that is there and to a reference to it, or to
nothing. -/
theorem attemptOwned_on (run : Run Handle) (world : World) :
    (∃ handle middle, world.Stirred middle ∧ middle.pending = world.pending ∧
      middle.has handle = true ∧
      Act.on (attemptOwned run) world = (some handle, (Act.on (own handle) middle).2)) ∨
    ∃ after, world.Stirred after ∧ Act.on (attemptOwned run) world = (none, after) := by
  obtain ⟨stirred, quiet⟩ := attempt_tries run world
  rw [attemptOwned, Act.on_bind]
  generalize Act.on (attempt run) world = outcome at *
  obtain ⟨result, middle⟩ := outcome
  cases result with
  | none => exact .inr ⟨middle, stirred, rfl⟩
  | some handle =>
    cases present : middle.has handle with
    | true =>
      refine .inl ⟨handle, middle, stirred, quiet rfl, present, ?_⟩
      change Act.on (if middle.has handle then _ else _) middle = _
      rw [if_pos present]
      rfl
    | false =>
      refine .inr ⟨middle, stirred, ?_⟩
      change Act.on (if middle.has handle then _ else _) middle = _
      rw [if_neg (by simp [present])]
      rfl

/-- A reference to what an attempt comes to is taken in a calm world. -/
theorem attemptOwned_bind {run : Run Handle} {next : Option Handle → Act β}
    (found : ∀ handle,
      Act.Balances change (handle :: lent) (handle :: given) (next (some handle)) due)
    (missing : Act.Calms change given (next none) due) :
    Act.Balances change lent given (attemptOwned run >>= next) due := by
  intro world owed calm alive
  rw [Act.on_bind]
  obtain ⟨handle, middle, stirred, quiet, present, step⟩ | ⟨middle, stirred, step⟩ :=
    attemptOwned_on run world
  · have steady := stirred.steady.trans (World.steady_own handle middle)
    have owned : (Act.on (own handle) middle).2.Calm (handle :: given ++ owed) := by
      refine ⟨(stirred.holds calm.toHolds).own handle, ?_⟩
      rw [own_on]
      exact quiet.trans calm.pending
    have there : (Act.on (own handle) middle).2.Alive (handle :: lent) := by
      refine (World.alive_singleton ?_).append (alive.grows steady.grows)
      rw [own_on]
      exact present
    obtain ⟨late, done⟩ := found handle _ owed owned there
    rw [step]
    exact ⟨Change.trans (Change.of_steady steady) late, done⟩
  · obtain ⟨late, done⟩ := missing middle owed (stirred.holds calm.toHolds)
    rw [step]
    exact ⟨Change.trans (Change.of_steady stirred.steady) late, done⟩

/-- To drop what is pending calms the world. -/
theorem clear_bind {next : Act β} (tail : Act.Balances change [] given next due) :
    Act.Calms change given (clear >>= fun _ => next) due := by
  intro world owed holds
  have steady : world.Steady { world with pending := .none } := ⟨.refl _, rfl, rfl, rfl, rfl⟩
  obtain ⟨late, done⟩ := tail { world with pending := .none } owed
    ⟨⟨holds.sound, holds.registry, holds.kept, holds.held, holds.overdrawn⟩, rfl⟩ nofun
  exact ⟨Change.trans (Change.of_steady steady) late, done⟩

theorem clear_calms : Act.Calms change [] clear fun _ => [] :=
  clear_bind (.pure (.refl _) (List.nil_subset _))

theorem release_balances (handle : Handle) :
    Act.Balances change lent [handle] (release handle) fun _ => [] := by
  intro world owed calm _
  exact ⟨Change.of_steady (World.steady_giveBackAll [handle] world), calm.giveBackAll, nofun⟩

theorem release_bind {next : Act β} {handle : Handle} (tail : Act.Calms change given next due) :
    Act.Calms change (handle :: given) (release handle >>= fun _ => next) due := by
  intro world owed holds
  obtain ⟨late, done⟩ := tail (world.giveBack handle) owed holds.giveBack
  exact ⟨Change.trans (Change.of_steady (World.steady_giveBackAll [handle] world)) late, done⟩

theorem releaseAll_bind {next : Act β} (handles : List Handle)
    (tail : Act.Calms change given next due) :
    Act.Calms change (handles ++ given) (releaseAll handles >>= fun _ => next) due := by
  intro world owed holds
  have steady := World.steady_giveBackAll handles world
  rw [Act.on_bind, releaseAll_on]
  rw [List.append_assoc] at holds
  obtain ⟨late, done⟩ := tail (handles.foldl World.giveBack world) owed holds.giveBackAll
  exact ⟨Change.trans (Change.of_steady steady) late, done⟩

theorem textFor_balances (handle : Handle) :
    Act.Balances change lent [] (textFor handle) fun _ => [] := by
  refine attemptOwned_bind (fun rendered => ?_) (clear_bind (.pure (.refl _) (List.nil_subset _)))
  refine (textOf_tries rendered).bind (fun text => ?_) ?_
  · exact (release_balances rendered).bind fun _ => .pure (.refl _) (List.nil_subset _)
  · exact release_bind (clear_bind (.pure (.refl _) (List.nil_subset _)))

theorem joinTexts_stirs (items : List Handle) : (joinTexts items).Stirs := by
  induction items with
  | nil => exact World.Stirred.refl
  | cons item rest ih => exact fun world => (textOf_tries item world).1.trans (ih _)

theorem onMachine_stirs (run : Run α) : (onMachine run).Stirs :=
  fun world => ⟨_, world.pending, run.grows world.machine, rfl⟩

theorem linesText_stirs (lines : Handle) : (linesText lines).Stirs := by
  intro world
  have stirred := onMachine_stirs (Run.body lines) world
  rw [linesText, Act.on_bind]
  split
  · exact stirred.trans (joinTexts_stirs _ _)
  · exact stirred

theorem tracebackText_balances (frames : List TraceFrame) :
    Act.Balances change lent [] (tracebackText frames) fun _ => [] := by
  unfold tracebackText
  split
  · exact .pure (.refl _) (List.nil_subset _)
  · refine attemptOwned_bind (fun lines => ?_) (clear_bind (.pure (.refl _) (List.nil_subset _)))
    refine ((linesText_stirs lines).bind fun text => clear_bind ?_).balances
    exact (release_balances lines).bind fun _ => .pure (.refl _) (List.nil_subset _)

theorem errorOf_balances (thrown : Thrown) :
    Act.Balances change lent [] (errorOf thrown) fun _ => [] := by
  refine .get_bind fun world => (textFor_balances _).bind fun value => ?_
  refine (textFor_balances _).bind fun cls => (tracebackText_balances _).bind fun text => ?_
  exact .pure (.refl _) (List.nil_subset _)

/-- To look at what is pending calms the world. The exception is held meanwhile. -/
theorem fetch_calms : Act.Calms change [] fetch fun _ => [] := by
  intro world owed holds
  rw [fetch, Act.on_get_bind]
  cases pending : world.pending with
  | none =>
    simp only
    exact ⟨Change.of_steady (.refl world), ⟨holds, pending⟩, nofun⟩
  | some thrown =>
    simp only
    have owned := holds.own thrown.exception
    have tail : Act.Calms change [thrown.exception] (do
        clear
        let error ← errorOf thrown
        release thrown.exception
        return some error) fun _ => [] := by
      refine clear_bind fun world owed calm _ => ?_
      obtain ⟨early, between, _⟩ := @errorOf_balances change _ [] thrown world
        ([thrown.exception] ++ owed) calm nofun
      have between : (Act.on (errorOf thrown) world).2.Calm ([thrown.exception] ++ owed) := between
      exact ⟨Change.trans early (Change.of_steady (World.steady_giveBackAll [thrown.exception] _)),
        between.giveBackAll, nofun⟩
    obtain ⟨late, done⟩ := tail _ owed owned
    exact ⟨Change.trans (Change.of_steady (World.steady_own thrown.exception world)) late, done⟩

theorem check_on (world : World) : Bridge.on check world =
    (match (Act.on fetch world).1 with | some error => .error error | none => .ok (),
      (Act.on fetch world).2) := by
  rw [check, on_bind_eq, on_lift]
  cases (Act.on fetch world).1 <;> rfl

/-- To look whether something is pending calms the world. -/
theorem check_calms {γ : Type} {due : γ → List Handle} {next : Bridge γ}
    (tail : Bridge.Balances change [] [] next due) :
    Act.Calms change [] (check >>= fun _ => next).run (dues due) := by
  intro world owed holds
  obtain ⟨early, between, _⟩ := @fetch_calms change _ world owed holds
  change change world (Bridge.on (check >>= fun _ => next) world).2 ∧
    (Bridge.on (check >>= fun _ => next) world).2.Calm
      (dues due (Bridge.on (check >>= fun _ => next) world).1 ++ owed) ∧
    (Bridge.on (check >>= fun _ => next) world).2.Alive
      (dues due (Bridge.on (check >>= fun _ => next) world).1)
  rw [on_bind_eq, check_on]
  cases (Act.on fetch world).1 with
  | some error => exact ⟨early, between, nofun⟩
  | none =>
    obtain ⟨late, done⟩ := tail _ owed between nofun
    exact ⟨Change.trans early late, done⟩

theorem check_balances : Bridge.Balances change lent [] check fun _ => [] := by
  have calms : Act.Calms change [] (check >>= fun _ => Pure.pure () : Bridge Unit).run
      (dues fun _ => []) := check_calms (.pure (.refl _) (List.nil_subset _))
  rw [bind_pure_unit] at calms
  exact calms.balances

/-- What has come to something is handed out with its references, unless something is pending. -/
theorem settled_balances {value : β} (part : due value ⊆ lent) :
    Bridge.Balances change lent (due value) (settled due (some value)) due :=
  (Balances.elseRelease part check_balances).bind fun _ =>
    .pure (.of_eq (List.append_nil _)) (by simp)

theorem settledObject_balances {handle : Handle} (part : [handle] ⊆ lent) :
    Bridge.Balances change lent [handle] (settledObject (some handle)) fun handle => [handle] :=
  @settled_balances change _ lent Handle (fun handle => [handle]) handle part

theorem settled_calms : Act.Calms change [] (settled due none).run (dues due) :=
  check_calms (.throw unknown)

theorem takeOr_calms (fallback : BridgeError) :
    Act.Calms change [] (takeOr fallback) fun _ => [] := by
  intro world owed holds
  exact fetch_calms world owed holds

/-- What fails with the exception of an attempt. -/
theorem throw_calms (fallback : BridgeError) :
    Act.Calms change [] (do throw (← takeOr fallback) : Bridge β).run (dues due) :=
  takeOr_calms fallback

/-- What is tried fails with the exception that is left. -/
theorem tries_orThrow {act : Act (Option α)} (tries : act.Tries) (fallback : BridgeError) :
    Bridge.Balances change lent [] (orThrow act fallback) fun _ => [] := by
  refine .lift_bind (tries.bind (fun value => ?_) (throw_calms fallback))
  exact Balances.pure (.refl _) (List.nil_subset _)

theorem perform_balances (run : Run α) :
    Bridge.Balances change lent [] (perform run) fun _ => [] :=
  tries_orThrow (attempt_tries run) unknown

/-- What an attempt comes to is handed out with a reference to it. -/
theorem attemptOwned_orThrow (run : Run Handle) (fallback : BridgeError) :
    Bridge.Balances change lent [] (orThrow (attemptOwned run) fallback) fun handle => [handle] := by
  refine .lift_bind (attemptOwned_bind (fun handle => ?_) (throw_calms fallback))
  exact Balances.pure (.refl _) (List.cons_subset_cons handle (List.nil_subset _))

theorem made_balances (run : Run Handle) :
    Bridge.Balances change lent [] (made run) fun handle => [handle] :=
  attemptOwned_orThrow run unknown

end Bridge

end ForeignBridge
