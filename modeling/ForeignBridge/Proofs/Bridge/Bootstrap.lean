import ForeignBridge.Proofs.Bridge.SearchPath

/-! # What a start comes to

On a machine in working order a start fails if a built-in name that it looks up is missing, or if there
is no search path to put entries in front of, and then nothing that was there has changed. Otherwise it
makes the session of the objects that have these names, with its entries in front of the search path.
-/

namespace ForeignBridge

open Foreign (Machine NameList neededNames)

/-- The session of the objects that the built-in names have. -/
def Session.of? (builtins : NameList) : Option Session := do
  let none ← builtins.lookup (.ofString "None")
  let boolClass ← builtins.lookup (.ofString "bool")
  let intClass ← builtins.lookup (.ofString "int")
  let floatClass ← builtins.lookup (.ofString "float")
  let strClass ← builtins.lookup (.ofString "str")
  let listClass ← builtins.lookup (.ofString "list")
  let dictClass ← builtins.lookup (.ofString "dict")
  return {
    builtins := Foreign.Fixed.builtins
    none, boolClass, intClass, floatClass, strClass, listClass, dictClass }

/-- What a start with a configuration fails for the lack of, if anything. -/
def Config.missing? (config : Config) (builtins system : NameList) : Option String :=
  neededNames.foldr
    (fun name rest =>
      if builtins.lookup (.ofString name) = none then some ("builtins." ++ name) else rest)
    (if config.searchPath ≠ [] ∧ system.lookup (.ofString "path") = none then some "sys.path" else none)

namespace Bridge

variable {α : Type} {first world : World} {builtins system : NameList} {missing : Option String}
  {done : α → World → Prop}

/-- That something fails if something is missing, with all that was there as it was, and is done
otherwise. -/
def Comes (missing : Option String) (done : α → World → Prop) (world : World)
    (outcome : Except BridgeError α × World) : Prop :=
  match missing with
  | some what =>
    outcome.1 = .error (.bootstrap (what ++ " is missing")) ∧ world.Extends (fun _ => False) outcome.2
  | none => ∃ value, outcome.1 = .ok value ∧ done value outcome.2

theorem Comes.elseRelease {act : Bridge α} (comes : Comes missing done first (act.on world))
    (handles : List Handle) : Comes missing done first ((Bridge.elseRelease handles act).on world) := by
  rw [elseRelease_on]
  generalize act.on world = outcome at *
  obtain ⟨result, after⟩ := outcome
  cases missing with
  | some what =>
    obtain ⟨rfl, kept⟩ := comes
    exact ⟨rfl, kept.givenBack handles⟩
  | none =>
    obtain ⟨value, rfl, there⟩ := comes
    exact ⟨value, rfl, there⟩

/-- What succeeds after something that may fail is done once that is done. -/
theorem Comes.bind {β : Type} {ended : β → World → Prop} {head : Bridge α} {next : α → β}
    (comes : Comes missing done first (head.on world))
    (tail : ∀ value after, done value after → ended (next value) after) :
    Comes missing ended first (Bridge.on (do return next (← head)) world) := by
  rw [on_bind_eq]
  generalize head.on world = outcome at *
  obtain ⟨result, after⟩ := outcome
  cases missing with
  | some what =>
    obtain ⟨rfl, kept⟩ := comes
    exact ⟨rfl, kept⟩
  | none =>
    obtain ⟨value, rfl, there⟩ := comes
    exact ⟨next value, rfl, tail value after there⟩

/-- What goes on with a built-in name comes to what it comes to, unless the name is missing. -/
theorem withBuiltin_comes {name : String} {next : Handle → Bridge α}
    (ready : Prepared first builtins system) (early : first.Extends (fun _ => False) world)
    (needed : name ∈ neededNames)
    (tail : ∀ value later, builtins.lookup (.ofString name) = some value →
      first.Extends (fun _ => False) later → Comes missing done first ((next value).on later)) :
    Comes (if builtins.lookup (.ofString name) = none then some ("builtins." ++ name) else missing)
      done first (Bridge.on (withBuiltin Foreign.Fixed.builtins name next) world) := by
  have ready := (ready.kept early).hasBuiltins
  have other := Foreign.plain_of_needed name needed
  have noNul := Foreign.noNul_of_needed needed
  cases found : builtins.lookup (.ofString name) with
  | none =>
    obtain ⟨after, step, late⟩ := requireAttribute_missing ready other noNul found "builtins"
    rw [if_pos rfl, withBuiltin, on_bind_eq, step]
    exact ⟨rfl, early.trans late⟩
  | some value =>
    obtain ⟨after, step, late⟩ := requireAttribute_found ready other noNul found "builtins"
    rw [if_neg (Option.some_ne_none value), withBuiltin, on_bind _ step]
    exact (tail value after found (early.trans late)).elseRelease [value]

theorem extendSearchPath_comes (ready : Prepared first builtins system)
    (early : first.Extends (fun _ => False) world) (entries : List String) :
    Comes (if entries ≠ [] ∧ system.lookup (.ofString "path") = none then some "sys.path" else none)
      (fun _ after =>
        first.Extends (fun list => system.lookup (.ofString "path") = some list) after ∧
        first.machine.Opens system entries after.machine)
      first (Bridge.on (extendSearchPath entries) world) := by
  have ready := ready.kept early
  split
  · rename_i lacking
    obtain ⟨after, step, late⟩ := extendSearchPath_missing ready lacking.1 lacking.2
    rw [step]
    exact ⟨rfl, early.trans late⟩
  · rename_i enough
    obtain ⟨after, step, late, opens⟩ :=
      extendSearchPath_there ready fun needed absent => enough ⟨needed, absent⟩
    rw [step]
    exact ⟨(), rfl, early.all.trans late, opens.early early.machine⟩

/-- A start makes the session of what the names stand for, or fails for a name that is missing. -/
theorem bootstrap_comes (ready : Prepared world builtins system) (config : Config) :
    Comes (config.missing? builtins system)
      (fun session after => Session.of? builtins = some session ∧
        world.Extends (fun list => system.lookup (.ofString "path") = some list) after ∧
        world.machine.Opens system config.searchPath after.machine)
      world (Bridge.on (bootstrap config) world) := by
  obtain ⟨imported, importStep, early⟩ := importModule_there ready ready.intact.builtinsLoaded
    Foreign.Fixed.builtins_ne_none (by decide) (by decide) (by simp)
  rw [bootstrap, on_bind _ importStep]
  refine Comes.elseRelease ?_ _
  simp only [Config.missing?, neededNames, List.foldr_cons, List.foldr_nil]
  refine withBuiltin_comes ready early (by decide) fun none _ inNone early => ?_
  refine withBuiltin_comes ready early (by decide) fun boolClass _ inBool early => ?_
  refine withBuiltin_comes ready early (by decide) fun intClass _ inInt early => ?_
  refine withBuiltin_comes ready early (by decide) fun floatClass _ inFloat early => ?_
  refine withBuiltin_comes ready early (by decide) fun strClass _ inStr early => ?_
  refine withBuiltin_comes ready early (by decide) fun listClass _ inList early => ?_
  refine withBuiltin_comes ready early (by decide) fun dictClass later inDict early => ?_
  have made : Session.of? builtins = some ⟨Foreign.Fixed.builtins, none, boolClass, intClass,
      floatClass, strClass, listClass, dictClass⟩ := by
    simp only [Session.of?, inNone, inBool, inInt, inFloat, inStr, inList, inDict, Option.bind_eq_bind,
      Option.bind_some, Option.pure_def]
  have extended := extendSearchPath_comes ready early config.searchPath
  exact extended.bind fun _ after extended => ⟨made, extended⟩

/-- A session that is there is found, and nothing else happens. -/
theorem startWith_there {session : Session} (running : world.session = some session)
    (config : Config) : Bridge.on (startWith config) world = (.ok session, world) := by
  rw [startWith, on_bind _ (on_get world), running]
  rfl

/-- A session that comes to be is kept. -/
theorem startWith_comes (ready : Prepared world builtins system) (unstarted : world.session = none)
    (config : Config) :
    Comes (config.missing? builtins system)
      (fun session after => Session.of? builtins = some session ∧ ∃ opened,
        world.Extends (fun list => system.lookup (.ofString "path") = some list) opened ∧
        world.machine.Opens system config.searchPath opened.machine ∧
        after = { opened with session := some session })
      world (Bridge.on (startWith config) world) := by
  have comes := bootstrap_comes ready config
  rw [startWith, on_bind _ (on_get world), unstarted]
  simp only
  rw [on_bind_eq]
  generalize Bridge.on (bootstrap config) world = outcome at *
  obtain ⟨result, after⟩ := outcome
  generalize config.missing? builtins system = missing at *
  cases missing with
  | some what =>
    obtain ⟨rfl, kept⟩ := comes
    exact ⟨rfl, kept⟩
  | none =>
    obtain ⟨session, rfl, made, kept, opens⟩ := comes
    exact ⟨session, rfl, made, after, kept, opens, rfl⟩

end Bridge

end ForeignBridge
