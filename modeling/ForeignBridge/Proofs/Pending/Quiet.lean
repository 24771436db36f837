import ForeignBridge.Proofs.Ownership.Raised

/-! # Quiet acts

A quiet act leaves no exception pending if none was pending before, whatever comes of it and in
whatever world it is done; if it fails it says why. What comes to nothing may leave an exception
behind, so something has to follow that hushes: that leaves nothing pending, come what may.
-/

namespace ForeignBridge

open Foreign (Run Thrown TraceFrame)
open World (Change Steady)

namespace BridgeError

/-- An error that says what went wrong. -/
def Told (error : BridgeError) : Prop := ∀ traceback, error ≠ .foreign "" traceback

theorem Told.message_ne_empty {error : BridgeError} (told : error.Told) : error.message ≠ "" := by
  cases error with
  | foreign message traceback =>
    rintro rfl
    exact told traceback rfl
  | script | notInitialized | nullHandle => decide
  | interiorNul text => exact (by decide : "String contains an interior NUL byte" ≠ "")
  | missingAttribute name =>
    exact fun same => absurd (String.append_eq_empty_iff.mp same).2 (by decide)
  | unsupportedConversion what | moduleNotFound what | bootstrap what | invalidHandle id
  | invalidArgument what =>
    exact fun same => absurd (String.append_eq_empty_iff.mp same).1 (by decide)

end BridgeError

/-- An act that leaves no exception pending if none was pending. -/
def Act.Quiet {α : Type} (change : World → World → Prop) (act : Act α) : Prop :=
  ∀ world, change world (act.on world).2 ∧
    (world.pending = none → (act.on world).2.pending = none)

/-- An act that leaves no exception pending, whether or not one was pending. -/
def Act.Hushes {α : Type} (change : World → World → Prop) (act : Act α) : Prop :=
  ∀ world, change world (act.on world).2 ∧ (act.on world).2.pending = none

/-- An act that leaves no further exception pending unless it comes to nothing. -/
def Act.Attempts {α : Type} (change : World → World → Prop) (act : Act (Option α)) : Prop :=
  ∀ world, change world (act.on world).2 ∧
    ((act.on world).1.isSome = true → (act.on world).2.pending = world.pending)

/-- An act that leaves no exception pending if none was pending, and says why it fails if it does. -/
def Bridge.Quiet {α : Type} (change : World → World → Prop) (act : Bridge α) : Prop :=
  Act.Quiet change act.run ∧ ∀ world error, (act.on world).1 = .error error → error.Told

/-- An act that leaves no exception pending in any case, and says why it fails if it does. -/
def Bridge.Hushes {α : Type} (change : World → World → Prop) (act : Bridge α) : Prop :=
  Act.Hushes change act.run ∧ ∀ world error, (act.on world).1 = .error error → error.Told

variable {change : World → World → Prop} {α β : Type}

theorem Act.Hushes.quiet {act : Act α} (hushes : Act.Hushes change act) : Act.Quiet change act :=
  fun world => ⟨(hushes world).1, fun _ => (hushes world).2⟩

/-! Acts put together. -/

namespace Act.Quiet

/-- What is known of the world at the start may be used. -/
theorem get_bind {next : World → Act β} (tail : ∀ world, Act.Quiet change (next world)) :
    Act.Quiet change (get >>= next) := fun world => tail world world

variable [Change change]

theorem pure (value : α) : Act.Quiet change (pure value) :=
  fun world => ⟨Change.of_steady (.refl world), id⟩

theorem bind {first : Act α} {next : α → Act β} (head : Act.Quiet change first)
    (tail : ∀ value, Act.Quiet change (next value)) : Act.Quiet change (first >>= next) := by
  intro world
  obtain ⟨early, silent⟩ := head world
  obtain ⟨late, still⟩ := tail (first.on world).1 (first.on world).2
  exact ⟨Change.trans early late, fun quiet => still (silent quiet)⟩

end Act.Quiet

namespace Act

variable [Change change]

/-- What comes to nothing has to be followed by something that hushes. -/
theorem Attempts.bind {first : Act (Option α)} {next : Option α → Act β}
    (attempts : Act.Attempts change first) (found : ∀ value, Act.Quiet change (next (some value)))
    (missing : Act.Hushes change (next none)) : Act.Quiet change (first >>= next) := by
  intro world
  obtain ⟨early, same⟩ := attempts world
  rw [Act.on_bind]
  generalize first.on world = outcome at *
  obtain ⟨result, middle⟩ := outcome
  cases result with
  | some value =>
    obtain ⟨late, still⟩ := found value middle
    exact ⟨Change.trans early late, fun quiet => still ((same rfl).trans quiet)⟩
  | none =>
    obtain ⟨late, silent⟩ := missing middle
    exact ⟨Change.trans early late, fun _ => silent⟩

theorem Tries.attempts {act : Act (Option α)} (tries : act.Tries) : Act.Attempts change act :=
  fun world => ⟨Change.of_steady (tries world).1.steady, (tries world).2⟩

/-- Whatever is done before something hushes is hushed. -/
theorem Hushes.after {first : Act α} {next : α → Act β}
    (changes : ∀ world, change world (first.on world).2)
    (tail : ∀ value, Act.Hushes change (next value)) : Act.Hushes change (first >>= next) := by
  intro world
  obtain ⟨late, silent⟩ := tail (first.on world).1 (first.on world).2
  exact ⟨Change.trans (changes world) late, silent⟩

theorem Hushes.bind {first : Act α} {next : α → Act β} (hushes : Act.Hushes change first)
    (tail : ∀ value, Act.Quiet change (next value)) : Act.Hushes change (first >>= next) := by
  intro world
  obtain ⟨early, silent⟩ := hushes world
  obtain ⟨late, still⟩ := tail (first.on world).1 (first.on world).2
  exact ⟨Change.trans early late, still silent⟩

end Act

namespace Bridge.Quiet

theorem get_bind {next : World → Bridge β} (tail : ∀ world, Bridge.Quiet change (next world)) :
    Bridge.Quiet change (get >>= next) :=
  ⟨fun world => (tail world).1 world, fun world => (tail world).2 world⟩

/-- What is quiet and does not fail. -/
theorem lift {act : Act α} (quiet : Act.Quiet change act) : Bridge.Quiet change (liftM act) :=
  ⟨quiet, fun _ _ same => nomatch same⟩

variable [Change change]

theorem pure (value : α) : Bridge.Quiet change (pure value) :=
  ⟨Act.Quiet.pure _, fun _ _ same => nomatch same⟩

theorem throw {error : BridgeError} (told : error.Told) :
    Bridge.Quiet change (throw error : Bridge α) :=
  ⟨Act.Quiet.pure _, fun _ _ same => Except.error.inj same ▸ told⟩

theorem ofExcept {result : Except BridgeError α}
    (told : ∀ error, result = .error error → error.Told) :
    Bridge.Quiet change (MonadExcept.ofExcept result) := by
  cases result with
  | ok value => exact pure value
  | error error => exact throw (told error rfl)

/-- What goes on after something whose failure ends it. -/
theorem bind {first : Bridge α} {next : α → Bridge β} (head : Bridge.Quiet change first)
    (tail : ∀ value, Bridge.Quiet change (next value)) : Bridge.Quiet change (first >>= next) := by
  have whole : Act.Quiet change (first.run >>= ExceptT.bindCont next) := by
    refine Act.Quiet.bind head.1 fun result => ?_
    cases result with
    | ok value => exact (tail value).1
    | error error => exact Act.Quiet.pure _
  refine ⟨whole, fun world error failed => ?_⟩
  have told := head.2 world
  rw [on_bind_eq] at failed
  generalize first.on world = outcome at *
  obtain ⟨result, middle⟩ := outcome
  cases result with
  | ok value => exact (tail value).2 middle error failed
  | error first =>
    have same : first = error := Except.error.inj failed
    exact told error (congrArg Except.error same)

/-- What comes to nothing has to be followed by something that hushes. -/
theorem attempts_bind {first : Act (Option α)} {next : Option α → Bridge β}
    (attempts : Act.Attempts change first)
    (found : ∀ value, Bridge.Quiet change (next (some value)))
    (missing : Bridge.Hushes change (next none)) : Bridge.Quiet change (liftM first >>= next) := by
  refine ⟨Act.Attempts.bind attempts (fun value => (found value).1) missing.1, ?_⟩
  intro world error failed
  rw [on_bind_eq, on_lift] at failed
  cases result : (first.on world).1 with
  | some value =>
    rw [result] at failed
    exact (found value).2 _ error failed
  | none =>
    rw [result] at failed
    exact missing.2 _ error failed

/-- What runs beside references that are given back in the end. -/
theorem thenRelease {act : Bridge α} (handles : List Handle) (quiet : Bridge.Quiet change act) :
    Bridge.Quiet change (thenRelease handles act) := by
  have whole (world : World) := thenRelease_on handles act world
  refine ⟨fun world => ?_, fun world error failed => quiet.2 world error ?_⟩
  · obtain ⟨early, silent⟩ := quiet.1 world
    change change world (Bridge.on _ world).2 ∧ (_ → (Bridge.on _ world).2.pending = none)
    rw [whole, World.foldl_giveBack_pending]
    exact ⟨Change.trans early (Change.of_steady (World.steady_giveBackAll handles _)), silent⟩
  · rwa [whole] at failed

/-- What runs beside references that are given back if it fails. -/
theorem elseRelease {act : Bridge α} (handles : List Handle) (quiet : Bridge.Quiet change act) :
    Bridge.Quiet change (elseRelease handles act) := by
  have whole (world : World) := elseRelease_on handles act world
  refine ⟨fun world => ?_, fun world error failed => quiet.2 world error ?_⟩
  · have act := quiet.1 world
    change change world (Bridge.on _ world).2 ∧ (_ → (Bridge.on _ world).2.pending = none)
    change change world (Bridge.on _ world).2 ∧ (_ → (Bridge.on _ world).2.pending = none) at act
    rw [whole]
    generalize Bridge.on _ world = outcome at *
    obtain ⟨result, after⟩ := outcome
    cases result with
    | ok value => exact act
    | error error =>
      simp only
      rw [World.foldl_giveBack_pending]
      exact ⟨Change.trans act.1 (Change.of_steady (World.steady_giveBackAll handles _)), act.2⟩
  · rw [whole] at failed
    generalize Bridge.on act world = outcome at *
    obtain ⟨result, after⟩ := outcome
    cases result with
    | ok value => cases failed
    | error error => exact failed

end Bridge.Quiet

/-! What is raised is looked at or dropped. -/

namespace Bridge

variable [Change change]

theorem own_quiet (handle : Handle) : Act.Quiet change (own handle) := by
  intro world
  refine ⟨Change.of_steady (World.steady_own handle world), fun quiet => ?_⟩
  rw [own_on]
  exact quiet

theorem releaseAll_quiet (handles : List Handle) : Act.Quiet change (releaseAll handles) := by
  intro world
  rw [releaseAll_on]
  refine ⟨Change.of_steady (World.steady_giveBackAll handles world), fun quiet => ?_⟩
  exact (World.foldl_giveBack_pending handles world).trans quiet

theorem release_quiet (handle : Handle) : Act.Quiet change (release handle) :=
  releaseAll_quiet [handle]

theorem clear_hushes : Act.Hushes change clear :=
  fun _ => ⟨Change.of_steady ⟨.refl _, rfl, rfl, rfl, rfl⟩, rfl⟩

theorem attempt_attempts (run : Run α) : Act.Attempts change (attempt run) :=
  (attempt_tries run).attempts

theorem attemptOwned_attempts (run : Run Handle) : Act.Attempts change (attemptOwned run) := by
  intro world
  obtain ⟨handle, middle, stirred, same, _, step⟩ | ⟨middle, stirred, step⟩ :=
    attemptOwned_on run world
  · rw [step]
    refine ⟨Change.of_steady (stirred.steady.trans (World.steady_own handle middle)), fun _ => ?_⟩
    rw [own_on]
    exact same
  · rw [step]
    exact ⟨Change.of_steady stirred.steady, nofun⟩

/-- The text of an exception may raise another one, which is dropped. -/
theorem textFor_quiet (handle : Handle) : Act.Quiet change (textFor handle) := by
  refine (attemptOwned_attempts _).bind (fun rendered => ?_) (clear_hushes.bind fun _ => .pure _)
  refine (textOf_tries rendered).attempts.bind (fun text => ?_) ?_
  · exact (release_quiet rendered).bind fun _ => .pure _
  · exact .after (fun world => (release_quiet rendered world).1) fun _ =>
      clear_hushes.bind fun _ => .pure _

/-- A traceback may fail to be made, or not be a list, or have items that are no texts: what is raised
then is dropped. -/
theorem tracebackText_quiet (frames : List TraceFrame) :
    Act.Quiet change (tracebackText frames) := by
  unfold tracebackText
  split
  · exact .pure _
  · refine (attemptOwned_attempts _).bind (fun lines => ?_) (clear_hushes.bind fun _ => .pure _)
    refine (Act.Hushes.after (fun world => ?_) fun text => ?_).quiet
    · exact Change.of_steady (linesText_stirs lines world).steady
    · exact clear_hushes.bind fun _ => (release_quiet lines).bind fun _ => .pure _

theorem errorOf_quiet (thrown : Thrown) : Act.Quiet change (errorOf thrown) := by
  refine .get_bind fun world => (textFor_quiet _).bind fun value => ?_
  exact (textFor_quiet _).bind fun cls => (tracebackText_quiet _).bind fun text => .pure _

/-- However little is known of an exception, there are words for it. -/
theorem composeMessage_ne_empty (value cls : Option String) : composeMessage value cls ≠ "" := by
  have filtered {text : Option String} {message : String}
      (same : text.filter (!·.isEmpty) = some message) : message ≠ "" := by
    rintro rfl
    exact absurd (Option.filter_eq_some_iff.mp same).2 (by decide)
  unfold composeMessage
  split
  · rename_i message same
    exact filtered same
  · cases same : cls.filter (!·.isEmpty) with
    | none => decide
    | some message => exact filtered same

theorem errorOf_told (thrown : Thrown) (world : World) :
    ((Act.on (errorOf thrown) world).1).Told := by
  obtain ⟨value, cls, text, same⟩ : ∃ value cls text,
      (Act.on (errorOf thrown) world).1 = .foreign (composeMessage value cls) text :=
    ⟨_, _, _, rfl⟩
  rw [same]
  intro traceback equal
  injection equal with message
  exact composeMessage_ne_empty value cls message

/-- To look at what is pending takes it away, whatever that runs. -/
theorem fetch_hushes : Act.Hushes change fetch := by
  intro world
  rw [fetch, Act.on_get_bind]
  cases pending : world.pending with
  | none => exact ⟨Change.of_steady (.refl world), pending⟩
  | some thrown =>
    have taken : Act.Hushes change (do
        own thrown.exception
        clear
        let error ← errorOf thrown
        release thrown.exception
        return some error) :=
      .after (fun world => (own_quiet _ world).1) fun _ => clear_hushes.bind fun _ =>
        (errorOf_quiet thrown).bind fun _ => (release_quiet _).bind fun _ => .pure _
    exact taken world

theorem fetch_told {world : World} {error : BridgeError}
    (fetched : (Act.on fetch world).1 = some error) : error.Told := by
  cases pending : world.pending with
  | none =>
    rw [fetch, Act.on_get_bind, pending] at fetched
    cases fetched
  | some thrown =>
    have made : (Act.on fetch world).1 = some (Act.on (errorOf thrown)
        (Act.on clear (Act.on (own thrown.exception) world).2).2).1 := by
      rw [fetch, Act.on_get_bind, pending]
      rfl
    rw [made] at fetched
    exact Option.some.inj fetched ▸ errorOf_told thrown _

theorem unknown_told : unknown.Told := by
  intro traceback same
  injection same with message
  exact absurd message (by decide)

/-- What fails with what is pending, or else in another way. -/
theorem throw_takeOr_hushes {fallback : BridgeError} (told : fallback.Told) :
    Bridge.Hushes change (do throw (← takeOr fallback) : Bridge α) := by
  refine ⟨fun world => fetch_hushes world, fun world error failed => ?_⟩
  have same : error = ((Act.on fetch world).1).getD fallback := (Except.error.inj failed).symm
  cases fetched : (Act.on fetch world).1 with
  | none => rwa [same, fetched]
  | some raised =>
    rw [same, fetched]
    exact fetch_told fetched

/-- What is tried fails with what it leaves pending. -/
theorem orThrow_quiet {act : Act (Option α)} {fallback : BridgeError}
    (attempts : Act.Attempts change act) (told : fallback.Told) :
    Bridge.Quiet change (orThrow act fallback) :=
  .attempts_bind attempts (fun value => .pure value) (throw_takeOr_hushes told)

theorem perform_quiet (run : Run α) : Bridge.Quiet change (perform run) :=
  orThrow_quiet (attempt_attempts run) unknown_told

theorem made_quiet (run : Run Handle) : Bridge.Quiet change (made run) :=
  orThrow_quiet (attemptOwned_attempts run) unknown_told

theorem check_hushes : Bridge.Hushes change check := by
  constructor
  · intro world
    change change world (Bridge.on check world).2 ∧ (Bridge.on check world).2.pending = none
    rw [check_on]
    exact fetch_hushes world
  · intro world error failed
    rw [check_on] at failed
    cases fetched : (Act.on fetch world).1 with
    | none =>
      rw [fetched] at failed
      cases failed
    | some raised =>
      rw [fetched] at failed
      exact Except.error.inj failed ▸ fetch_told fetched

end Bridge

namespace Bridge.Hushes

theorem quiet {act : Bridge α} (hushes : Bridge.Hushes change act) : Bridge.Quiet change act :=
  ⟨hushes.1.quiet, hushes.2⟩

variable [Change change]

/-- What goes on once nothing is pending. -/
theorem bind {first : Bridge α} {next : α → Bridge β} (head : Bridge.Hushes change first)
    (tail : ∀ value, Bridge.Quiet change (next value)) : Bridge.Hushes change (first >>= next) := by
  have whole : Act.Hushes change (first.run >>= ExceptT.bindCont next) := by
    refine Act.Hushes.bind head.1 fun result => ?_
    cases result with
    | ok value => exact (tail value).1
    | error error => exact Act.Quiet.pure _
  exact ⟨whole, (head.quiet.bind tail).2⟩

/-- Whatever is done before something hushes is hushed. -/
theorem after {first : Act α} {next : α → Bridge β}
    (changes : ∀ world, change world (first.on world).2)
    (tail : ∀ value, Bridge.Hushes change (next value)) :
    Bridge.Hushes change (liftM first >>= next) :=
  ⟨Act.Hushes.after changes fun value => (tail value).1,
    fun world => (tail (first.on world).1).2 (first.on world).2⟩

theorem elseRelease {act : Bridge α} (handles : List Handle) (hushes : Bridge.Hushes change act) :
    Bridge.Hushes change (elseRelease handles act) := by
  have quiet := hushes.quiet.elseRelease handles
  refine ⟨fun world => ⟨(quiet.1 world).1, ?_⟩, quiet.2⟩
  have silent : (act.on world).2.pending = none := (hushes.1 world).2
  change (Bridge.on _ world).2.pending = none
  rw [elseRelease_on]
  generalize act.on world = outcome at *
  obtain ⟨result, after⟩ := outcome
  cases result with
  | ok value => exact silent
  | error error => exact (World.foldl_giveBack_pending handles after).trans silent

end Bridge.Hushes

/-- An exception counts for more than what something has come to, so none is left. -/
theorem Bridge.settled_hushes [Change change] (references : α → List Handle) (result : Option α) :
    Bridge.Hushes change (settled references result) := by
  cases result with
  | some value => exact (check_hushes.elseRelease (references value)).bind fun _ => .pure value
  | none => exact check_hushes.bind fun _ => .throw unknown_told

end ForeignBridge
