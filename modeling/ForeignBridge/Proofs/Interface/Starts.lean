import ForeignBridge.CAbi
import ForeignBridge.Proofs.Bridge.Bootstrap
import ForeignBridge.Proofs.Foreign.Tampering
import ForeignBridge.Proofs.Ids.Calls
import ForeignBridge.Proofs.Pending.Interface

/-! # One start

The host may ask for the session in whatever way and as often as it likes, and programs may change the
built-in names and the search path in between. The first start for which nothing is missing makes the
session, with its own entries in front of the search path. Those before it leave everything as it was,
and whatever comes after it finds that session.
-/

namespace ForeignBridge

open Foreign (Machine NameList)

/-- Something that the host asks for around a start, with the answer, or that a program changes. -/
inductive Happening where
  | startWith (config : Config) (answer : Except BridgeError Session)
  | start (answer : Except BridgeError Session)
  /-- A start through the C interface. -/
  | init (answer : CAbi.Answer)
  /-- The session is asked for and not started. -/
  | session (answer : Except BridgeError Session)
  /-- A program changes the built-in names or the search path. -/
  | tampering

/-- Something that happens in a world, and the world after it. -/
structure Moment where
  before : World
  happening : Happening
  after : World

namespace Moment

/-- That the answer and the world after it are what the host's operation comes to. -/
def Occurs (moment : Moment) : Prop :=
  match moment.happening with
  | .startWith config answer =>
    Bridge.on (Bridge.startWith config) moment.before = (answer, moment.after)
  | .start answer => Bridge.on Bridge.start moment.before = (answer, moment.after)
  | .init answer => Act.on (CAbi.perform .init) moment.before = (answer, moment.after)
  | .session answer => Bridge.on Bridge.session moment.before = (answer, moment.after)
  | .tampering => ∃ machine, moment.before.machine.Tampers machine ∧
    moment.after = moment.before.withMachine machine

/-- The configuration of a start. -/
def config? (moment : Moment) : Option Config :=
  match moment.happening with
  | .startWith config _ => some config
  | .start _ | .init _ =>
    some (.ofVariables moment.before.environment.paths moment.before.environment.localSymbols)
  | .session _ | .tampering => none

/-- That what is asked for is answered with a session, or with success where that is all there is to
say. -/
def Answers (moment : Moment) (session : Session) : Prop :=
  match moment.happening with
  | .startWith _ answer | .start answer | .session answer => answer = .ok session
  | .init answer => answer = .number 0
  | .tampering => True

/-- That what is asked for fails with an error. -/
def Refuses (moment : Moment) (error : BridgeError) : Prop :=
  match moment.happening with
  | .startWith _ answer | .start answer | .session answer => answer = .error error
  | .init answer =>
    answer = .number (-1) ∧ moment.after.lastError = some (spellNuls error.display)
  | .tampering => True

/-- A moment after which the interpreter has still not been started, with no session and no registry. A
start fails for what is missing and changes nothing that was there; the session is not there to be
asked for. -/
structure Fails (moment : Moment) : Prop where
  session : moment.after.session = none
  registry : moment.after.registry = none
  unanswered : Bridge.on Bridge.session moment.after = (.error .notInitialized, moment.after)
  asked : moment.config? = none → moment.Refuses .notInitialized
  refused : ∀ config, moment.config? = some config → ∃ builtins system what,
    moment.before.machine.Intact builtins system ∧ config.missing? builtins system = some what ∧
    moment.Refuses (.bootstrap (what ++ " is missing")) ∧
    moment.before.machine.Extends (fun _ => False) moment.after.machine ∧
    moment.after.machine.Intact builtins system

/-- The moment of a start for which nothing is missing. It makes the session of the objects that the
built-in names have, and puts its own entries in front of the search path. -/
structure Starts (moment : Moment) (session : Session) : Prop where
  unstarted : moment.before.session = none
  answered : moment.Answers session
  started : moment.after.session = some session
  made : ∃ config builtins system, moment.config? = some config ∧
    moment.before.machine.Intact builtins system ∧ config.missing? builtins system = none ∧
    Session.of? builtins = some session ∧
    moment.before.machine.Opens system config.searchPath moment.after.machine ∧
    moment.after.machine.Intact builtins system

/-- A moment once there is a session. Whatever is asked for is answered with that session, and nothing
changes for that but the registry and the last error of the C interface. -/
structure Finds (moment : Moment) (session : Session) : Prop where
  answered : moment.Answers session
  session : moment.after.session = some session
  kept : match moment.happening with
    | .startWith _ _ | .start _ | .session _ => moment.after = moment.before
    | .init _ => moment.after = { moment.before with
        registry := some (moment.before.registry.getD .empty), lastError := none }
    | .tampering => ∃ machine, moment.after = moment.before.withMachine machine

end Moment

/-- Moments one after the other, each in the world after the one before it. -/
inductive History : World → List Moment → World → Prop
  | nil (world : World) : History world [] world
  | cons {moment : Moment} {rest : List Moment} {last : World} (occurs : moment.Occurs)
      (later : History moment.after rest last) : History moment.before (moment :: rest) last

namespace Bridge

variable {world : World} {builtins system : NameList}

theorem start_eq (world : World) : Bridge.on start world =
    Bridge.on (startWith (.ofVariables world.environment.paths world.environment.localSymbols)) world := by
  rw [start, on_bind _ (on_get world)]

/-- A start through the C interface opens the registry if it succeeds. -/
theorem init_on (world : World) : Act.on (CAbi.perform .init) world =
    match Bridge.on start world.cleared with
    | (.ok _, after) => (.number 0, { after with registry := some (after.registry.getD .empty) })
    | (.error error, after) =>
      (.number (-1), { after with lastError := some (spellNuls error.display) }) := by
  have opened : Bridge.on CAbi.init world.cleared = match Bridge.on start world.cleared with
      | (.ok _, after) => (.ok (), { after with registry := some (after.registry.getD .empty) })
      | (.error error, after) => (.error error, after) := by
    rw [CAbi.init, on_bind_eq]
    obtain ⟨result, after⟩ := Bridge.on start world.cleared
    cases result <;> rfl
  rw [CAbi.perform, CAbi.answerStatus, CAbi.answer_on, opened]
  obtain ⟨result, after⟩ := Bridge.on start world.cleared
  cases result <;> rfl

theorem session_missing (unstarted : world.session = none) :
    Bridge.on session world = (.error .notInitialized, world) := by
  rw [session, on_bind _ (on_get world), unstarted]
  rfl

/-- A start that fails leaves the world as prepared for one as it was, one that succeeds makes the
session. -/
theorem startWith_fails_or_starts (ready : Prepared world builtins system)
    (unstarted : world.session = none) (config : Config) :
    (∃ what after, config.missing? builtins system = some what ∧
      Bridge.on (startWith config) world = (.error (.bootstrap (what ++ " is missing")), after) ∧
      world.Extends (fun _ => False) after) ∨
    config.missing? builtins system = none ∧ ∃ session after, Session.of? builtins = some session ∧
      Bridge.on (startWith config) world = (.ok session, after) ∧
      after.session = some session ∧ world.machine.Opens system config.searchPath after.machine := by
  have comes := startWith_comes ready unstarted config
  generalize Bridge.on (startWith config) world = outcome at *
  obtain ⟨result, after⟩ := outcome
  cases missing : config.missing? builtins system with
  | some what =>
    rw [missing] at comes
    obtain ⟨rfl, kept⟩ := comes
    exact .inl ⟨what, after, rfl, rfl, kept⟩
  | none =>
    rw [missing] at comes
    obtain ⟨session, rfl, made, opened, _, opens, same⟩ := comes
    dsimp only at same
    subst same
    exact .inr ⟨rfl, session, _, made, rfl, rfl, opens⟩

end Bridge

namespace Moment

variable {moment : Moment} {session : Session} {builtins system : NameList}

/-- Once there is a session it is found. -/
theorem finds (occurs : moment.Occurs) (running : moment.before.session = some session) :
    moment.Finds session := by
  obtain ⟨before, happening, after⟩ := moment
  change before.session = some session at running
  cases happening with
  | startWith config answer =>
    change Bridge.on (Bridge.startWith config) before = (answer, after) at occurs
    cases (Bridge.startWith_there running config).symm.trans occurs
    exact ⟨rfl, running, rfl⟩
  | start answer =>
    change Bridge.on Bridge.start before = (answer, after) at occurs
    rw [Bridge.start_eq, Bridge.startWith_there running] at occurs
    cases occurs
    exact ⟨rfl, running, rfl⟩
  | init answer =>
    change Act.on (CAbi.perform .init) before = (answer, after) at occurs
    have still : before.cleared.session = some session := running
    rw [Bridge.init_on, Bridge.start_eq, Bridge.startWith_there still] at occurs
    cases occurs
    exact ⟨rfl, running, rfl⟩
  | session answer =>
    change Bridge.on Bridge.session before = (answer, after) at occurs
    cases (Bridge.session_on running).symm.trans occurs
    exact ⟨rfl, running, rfl⟩
  | tampering =>
    obtain ⟨machine, _, same⟩ := occurs
    change after = before.withMachine machine at same
    subst same
    exact ⟨trivial, running, machine, rfl⟩

/-- A start without a session, whichever way it is asked for, makes one unless something is missing. -/
private theorem fails_or_starts_of {base opened : World} {config : Config}
    {answer : Except BridgeError Session} (ready : Bridge.Prepared base builtins system)
    (unstarted : base.session = none) (unopened : base.registry = none)
    (machine : moment.before.machine = base.machine) (session : moment.before.session = none)
    (configured : moment.config? = some config)
    (step : Bridge.on (Bridge.startWith config) base = (answer, opened))
    (failed : ∀ error, answer = .error error →
      moment.Refuses error ∧ ∃ lastError, moment.after = { opened with lastError })
    (done : ∀ session, answer = .ok session →
      moment.Answers session ∧ ∃ registry, moment.after = { opened with registry }) :
    (moment.Fails ∧ ∃ builtins system, Bridge.Prepared moment.after builtins system) ∨
      ∃ session, moment.Starts session := by
  have intact : moment.before.machine.Intact builtins system := machine ▸ ready.intact
  obtain ⟨what, late, missing, tried, kept⟩ | ⟨enough, made, late, named, tried, started, opens⟩ :=
    Bridge.startWith_fails_or_starts ready unstarted config
  · cases tried.symm.trans step
    obtain ⟨refuses, lastError, same⟩ := failed _ rfl
    have still : moment.after.session = none := by
      rw [same]
      exact kept.session.trans unstarted
    have later := ready.kept kept
    refine .inl ⟨⟨still, ?_, Bridge.session_missing still, ?_, fun other same' => ?_⟩, builtins, system,
      ?_, ?_⟩
    · rw [same]
      exact kept.registry.trans unopened
    · rw [configured]
      nofun
    · rw [configured, Option.some.injEq] at same'
      subst same'
      refine ⟨builtins, system, what, intact, missing, refuses, ?_, ?_⟩
      · rw [machine, same]
        exact kept.machine
      · rw [same]
        exact later.intact
    · rw [same]
      exact later.intact
    · rw [same]
      exact later.silent
  · cases tried.symm.trans step
    obtain ⟨answers, registry, same⟩ := done _ rfl
    refine .inr ⟨made, session, answers, ?_, config, builtins, system, configured, intact, enough, named,
      ?_, ?_⟩
    · rw [same]
      exact started
    · rw [machine, same]
      exact opens
    · rw [same]
      exact opens.intact ready.intact

/-- While there is no session a start makes it unless something is missing, and nothing else does. -/
theorem fails_or_starts (occurs : moment.Occurs)
    (ready : Bridge.Prepared moment.before builtins system)
    (unstarted : moment.before.session = none) (unopened : moment.before.registry = none) :
    (moment.Fails ∧ ∃ builtins system, Bridge.Prepared moment.after builtins system) ∨
      ∃ session, moment.Starts session := by
  obtain ⟨before, happening, after⟩ := moment
  change Bridge.Prepared before _ _ at ready
  change before.session = none at unstarted
  change before.registry = none at unopened
  cases happening with
  | startWith config answer =>
    exact fails_or_starts_of ready unstarted unopened rfl unstarted rfl occurs
      (fun _ same => ⟨same, after.lastError, rfl⟩) (fun _ same => ⟨same, after.registry, rfl⟩)
  | start answer =>
    exact fails_or_starts_of ready unstarted unopened rfl unstarted rfl
      ((Bridge.start_eq before).symm.trans occurs) (fun _ same => ⟨same, after.lastError, rfl⟩)
      (fun _ same => ⟨same, after.registry, rfl⟩)
  | init answer =>
    change Act.on (CAbi.perform .init) before = (answer, after) at occurs
    have cleared : Bridge.Prepared before.cleared builtins system := ⟨ready.intact, ready.silent⟩
    rw [Bridge.init_on, Bridge.start_eq] at occurs
    generalize tried : Bridge.on (Bridge.startWith _) before.cleared = outcome at occurs
    obtain ⟨result, opened⟩ := outcome
    refine fails_or_starts_of cleared unstarted unopened rfl unstarted rfl tried (fun error same => ?_)
      fun session same => ?_
    · subst same
      cases occurs
      exact ⟨⟨rfl, rfl⟩, _, rfl⟩
    · subst same
      cases occurs
      exact ⟨rfl, _, rfl⟩
  | session answer =>
    change Bridge.on Bridge.session before = (answer, after) at occurs
    cases (Bridge.session_missing unstarted).symm.trans occurs
    exact .inl ⟨⟨unstarted, unopened, Bridge.session_missing unstarted, fun _ => rfl, nofun⟩, builtins,
      system, ready⟩
  | tampering =>
    obtain ⟨machine, tampers, same⟩ := occurs
    change after = before.withMachine machine at same
    subst same
    obtain ⟨laterBuiltins, laterSystem, intact⟩ := ready.intact.tampered tampers
    exact .inl ⟨⟨unstarted, unopened, Bridge.session_missing unstarted, fun _ => trivial, nofun⟩,
      laterBuiltins, laterSystem, intact, ready.silent⟩

end Moment

/-! Histories. -/

namespace History

variable {world last : World} {moments : List Moment} {builtins system : NameList}

/-- In a world with a session all moments find it. -/
theorem finds {session : Session} (history : History world moments last)
    (running : world.session = some session) :
    (∀ moment ∈ moments, moment.Finds session) ∧ last.session = some session := by
  induction history with
  | nil world => exact ⟨List.forall_mem_nil _, running⟩
  | cons occurs later ih =>
    have found := Moment.finds occurs running
    obtain ⟨rest, end'⟩ := ih found.session
    exact ⟨List.forall_mem_cons.mpr ⟨found, rest⟩, end'⟩

/-- The host comes to have a session once at most, by the first start for which nothing is missing. Until
then all starts fail and leave everything as it was, and from then on all find that session. -/
theorem starts_once (history : History world moments last)
    (ready : Bridge.Prepared world builtins system) (unstarted : world.session = none)
    (unopened : world.registry = none) :
    ((∀ moment ∈ moments, moment.Fails) ∧ last.session = none ∧ last.registry = none) ∨
    ∃ earlier start later session, moments = earlier ++ start :: later ∧
      (∀ moment ∈ earlier, moment.Fails) ∧ start.Starts session ∧
      (∀ moment ∈ later, moment.Finds session) ∧ last.session = some session := by
  induction history generalizing builtins system with
  | nil world => exact .inl ⟨List.forall_mem_nil _, unstarted, unopened⟩
  | @cons moment rest last occurs later ih =>
    obtain ⟨fails, _, _, still⟩ | ⟨session, starts⟩ :=
      Moment.fails_or_starts occurs ready unstarted unopened
    · obtain ⟨others, session, registry⟩ |
          ⟨earlier, start, more, session, rfl, failed, starts, found, last⟩ := ih still fails.session fails.registry
      · exact .inl ⟨List.forall_mem_cons.mpr ⟨fails, others⟩, session, registry⟩
      · exact .inr ⟨moment :: earlier, start, more, session, rfl,
          List.forall_mem_cons.mpr ⟨fails, failed⟩, starts, found, last⟩
    · obtain ⟨found, last⟩ := later.finds starts.started
      exact .inr ⟨[], moment, rest, session, rfl, List.forall_mem_nil _, starts, found, last⟩

/-! A start that fails for a missing name, the name given, and another start. -/

/-- The moment of a start. -/
def tried (config : Config) (world : World) : Moment :=
  ⟨world, .startWith config (Bridge.on (Bridge.startWith config) world).1,
    (Bridge.on (Bridge.startWith config) world).2⟩

/-- The moment in which a built-in name is given an object. -/
def bound (name : String) (value : Handle) (world : World) : Moment :=
  ⟨world, .tampering, world.withMachine
    ((Foreign.Run.setAttribute Foreign.Run.call Foreign.Fixed.builtins name value).on world.machine).2⟩

/-- The moments of both starts, with the name of lists given in between. -/
def trial (world : World) : List Moment :=
  let first := tried ⟨["first"], true⟩ world
  let second := bound "list" Foreign.Core.list.handle first.after
  [first, second, tried ⟨["second"], false⟩ second.after]

theorem cons_tried (config : Config)
    (later : History (tried config world).after moments last) :
    History world (tried config world :: moments) last := by
  have occurs : (tried config world).Occurs := rfl
  exact .cons occurs later

theorem cons_bound {name : String} {value : Handle} (needed : name ∈ Foreign.neededNames)
    (present : world.machine.heap.has value = true)
    (later : History (bound name value world).after moments last) :
    History world (bound name value world :: moments) last := by
  have tampers := Machine.Tampers.bind needed present Prod.mk.eta.symm
  have occurs : (bound name value world).Occurs := ⟨_, tampers, rfl⟩
  exact .cons occurs later

theorem history_trial (sound : world.machine.heap.Sound) : ∃ last, History world (trial world) last := by
  have quiet := (Bridge.startWith_quiet ⟨["first"], true⟩).1 world
  have class? := Foreign.Run.get?_class (sound.grows quiet.1.grows) .list
  exact ⟨_, cons_tried _ (cons_bound (by decide) (Option.isSome_iff_exists.mpr ⟨_, class?⟩)
    (cons_tried _ (.nil _)))⟩

/-- The world around a machine that lacks the name of lists. -/
def fittedWorld : World := .ofMachine (Machine.bareAfter Machine.fit) ⟨none, none⟩

theorem prepared_ofMachine {machine : Machine} (intact : machine.Intact builtins system)
    (environment : Environment) :
    Bridge.Prepared (.ofMachine machine environment) builtins system := ⟨intact, rfl⟩

theorem prepared_fittedWorld : Bridge.Prepared fittedWorld (Machine.listed Machine.fittedNames)
    (Machine.listed Machine.pathNames) := prepared_ofMachine Machine.intact_fit _

/-- One start at most in the moments of both. -/
theorem starts_once_trial : ∃ last, History fittedWorld (trial fittedWorld) last ∧
    fittedWorld.session = none ∧ fittedWorld.registry = none ∧
    (((∀ moment ∈ trial fittedWorld, moment.Fails) ∧ last.session = none ∧ last.registry = none) ∨
      ∃ earlier start later session, trial fittedWorld = earlier ++ start :: later ∧
        (∀ moment ∈ earlier, moment.Fails) ∧ start.Starts session ∧
        (∀ moment ∈ later, moment.Finds session) ∧ last.session = some session) := by
  obtain ⟨last, history⟩ := history_trial prepared_fittedWorld.intact.sound
  exact ⟨last, history, rfl, rfl, history.starts_once prepared_fittedWorld rfl rfl⟩

end History

end ForeignBridge
