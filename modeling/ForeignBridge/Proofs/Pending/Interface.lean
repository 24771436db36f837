import ForeignBridge.CAbi
import ForeignBridge.Proofs.Registry
import ForeignBridge.Proofs.Pending.Objects

/-! # Quiet calls

The operations on the registry, the start of the interpreter and the bodies of all calls of the C
interface are quiet. A body does not touch the last error, and the integers that it hands out are
positive.
-/

namespace ForeignBridge

open World (Change)

namespace World

/-- The integers that a world hands out are positive. -/
def Numbered (world : World) : Prop := ∀ table ∈ world.registry, 1 ≤ table.next

/-- How worlds change while a call is served. -/
structure Serving (before after : World) : Prop where
  grows : before.machine.heap.Grows after.machine.heap
  lastError : after.lastError = before.lastError
  numbered : before.Numbered → after.Numbered

theorem Steady.serving {before after : World} (steady : before.Steady after) :
    before.Serving after where
  grows := steady.grows
  lastError := steady.lastError
  numbered numbered := by
    unfold Numbered
    rw [steady.registry]
    exact numbered

instance : Change Serving where
  of_steady := Steady.serving
  trans early late := ⟨early.grows.trans late.grows, late.lastError.trans early.lastError,
    fun numbered => late.numbered (early.numbered numbered)⟩
  grows := Serving.grows

end World

open World (Serving)

namespace Bridge

variable {change : World → World → Prop} [Change change]

/-! The registry. -/

theorem registry_quiet : Bridge.Quiet change registry := by
  refine .get_bind fun world => ?_
  split
  · exact .pure _
  · exact .throw nofun

theorem registered_quiet : Bridge.Quiet change registered :=
  registry_quiet.bind fun table => .pure table.size

theorem resolve_quiet (id : ℤ) : Bridge.Quiet change (resolve id) := by
  refine registry_quiet.bind fun table => ?_
  split
  · exact (Quiet.lift (own_quiet _)).bind fun _ => .pure _
  · exact .throw nofun

theorem resolveAll_quiet (ids : List ℤ) : Bridge.Quiet change (resolveAll ids) := by
  induction ids with
  | nil => exact .pure []
  | cons id rest ih =>
    exact (resolve_quiet id).bind fun handle => (ih.elseRelease [handle]).bind fun _ => .pure _

/-- A registry that is replaced by one that goes on with a positive integer. -/
theorem replace_quiet {registry : World → Option Registry}
    (numbered : ∀ world : World, world.Numbered → ∀ table ∈ registry world, 1 ≤ table.next) :
    Act.Quiet Serving (modify fun world => { world with registry := registry world }) :=
  fun world => ⟨⟨.refl _, rfl, numbered world⟩, id⟩

theorem register_quiet (handle : Handle) : Bridge.Quiet Serving (register handle) := by
  have given (world : World) := World.steady_giveBackAll [handle] world
  constructor
  · intro world
    change Serving world (Bridge.on _ world).2 ∧ (_ → (Bridge.on _ world).2.pending = none)
    rw [register_on]
    cases opened : world.registry with
    | none =>
      exact ⟨(given world).serving, (World.foldl_giveBack_pending [handle] world).trans⟩
    | some table =>
      simp only
      split
      · exact ⟨(given world).serving, (World.foldl_giveBack_pending [handle] world).trans⟩
      · refine ⟨⟨.refl _, rfl, fun numbered => ?_⟩, id⟩
        rintro _ ⟨rfl⟩
        exact Int.le_trans (numbered table opened) (Int.le_of_lt (Int.lt_succ _))
  · intro world error failed
    rw [register_on] at failed
    cases opened : world.registry with
    | none =>
      rw [opened] at failed
      obtain rfl := Except.error.inj failed
      exact nofun
    | some table =>
      rw [opened] at failed
      simp only at failed
      split at failed
      · obtain rfl := Except.error.inj failed
        exact nofun
      · cases failed

theorem unregister_quiet (id : ℤ) : Bridge.Quiet Serving (unregister id) := by
  constructor
  · intro world
    change Serving world (Bridge.on _ world).2 ∧ (_ → (Bridge.on _ world).2.pending = none)
    rw [unregister_on]
    cases opened : world.registry with
    | none => exact ⟨Change.of_steady (.refl world), fun quiet => quiet⟩
    | some table =>
      simp only
      cases table.get? id with
      | none => exact ⟨Change.of_steady (.refl world), fun quiet => quiet⟩
      | some handle =>
        refine ⟨⟨.refl _, rfl, fun numbered => ?_⟩, fun quiet => quiet⟩
        rintro _ ⟨rfl⟩
        exact numbered table opened
  · intro world error failed
    rw [unregister_on] at failed
    cases opened : world.registry with
    | none =>
      rw [opened] at failed
      obtain rfl := Except.error.inj failed
      exact nofun
    | some table =>
      rw [opened] at failed
      cases found : table.get? id with
      | none =>
        simp only [found] at failed
        obtain rfl := Except.error.inj failed
        exact nofun
      | some handle =>
        simp only [found] at failed
        cases failed

theorem openRegistry_quiet : Act.Quiet Serving openRegistry := by
  refine replace_quiet fun world numbered table opened => ?_
  obtain rfl := Option.some.inj opened
  cases kept : world.registry with
  | none => decide
  | some table => exact numbered table kept

theorem closeRegistry_quiet : Act.Quiet Serving closeRegistry := by
  refine .get_bind fun world => ?_
  split
  · exact .pure ()
  · rename_i table opened
    have closed := @replace_quiet (fun _ => none) fun _ _ _ opened => nomatch opened
    exact closed.bind fun _ => releaseAll_quiet table.handles

/-! The session. -/

theorem startWith_quiet (config : Config) : Bridge.Quiet Serving (startWith config) := by
  refine .get_bind fun world => ?_
  split
  · exact .pure _
  · refine (bootstrap_quiet config).bind fun session => (Quiet.lift ?_).bind fun _ => .pure session
    exact fun world => ⟨⟨.refl _, rfl, id⟩, id⟩

theorem start_quiet : Bridge.Quiet Serving start := .get_bind fun _ => startWith_quiet _

end Bridge

namespace CAbi

open Bridge (Quiet)

variable {change : World → World → Prop} [Change change] {α : Type}

theorem argumentText_quiet (bytes : Bytes) : Bridge.Quiet change (argumentText bytes) := by
  refine .ofExcept fun error failed => ?_
  unfold readText at failed
  split at failed
  · obtain rfl := Except.error.inj failed
    exact nofun
  · split at failed
    · cases failed
    · obtain rfl := Except.error.inj failed
      exact nofun

theorem argumentObjects_quiet (ids : Ids) (count : ℕ) :
    Bridge.Quiet change (argumentObjects ids count) := by
  refine (Quiet.ofExcept fun error failed => ?_).bind fun ids => Bridge.resolveAll_quiet ids
  unfold readIds at failed
  split at failed
  · cases failed
  · split at failed
    · obtain rfl := Except.error.inj failed
      exact nofun
    · cases failed

theorem withObject_quiet {look : Handle → Bridge α} (id : ℤ)
    (looks : ∀ handle, Bridge.Quiet change (look handle)) :
    Bridge.Quiet change (withObject id look) :=
  (Bridge.resolve_quiet id).bind fun handle => .thenRelease [handle] (looks handle)

theorem registered_quiet {result : Bridge Handle} (quiet : Bridge.Quiet Serving result) :
    Bridge.Quiet Serving (registered result) :=
  quiet.bind fun handle => Bridge.register_quiet handle

theorem init_quiet : Bridge.Quiet Serving init :=
  Bridge.start_quiet.bind fun _ => .lift Bridge.openRegistry_quiet

theorem exec_quiet (code : Bytes) : Bridge.Quiet change (exec code) :=
  (argumentText_quiet code).bind fun code => Bridge.session_quiet.bind fun _ =>
    Bridge.run_quiet code

theorem eval_quiet (code : Bytes) : Bridge.Quiet Serving (eval code) :=
  (argumentText_quiet code).bind fun code => Bridge.session_quiet.bind fun _ =>
    registered_quiet (Bridge.eval_quiet code)

theorem importModule_quiet (name : Bytes) : Bridge.Quiet Serving (importModule name) :=
  (argumentText_quiet name).bind fun name => Bridge.session_quiet.bind fun _ =>
    registered_quiet (Bridge.importModule_quiet name)

theorem getAttribute_quiet (object : ℤ) (name : Bytes) :
    Bridge.Quiet Serving (getAttribute object name) := by
  refine (argumentText_quiet name).bind fun name => ?_
  refine (withObject_quiet object fun handle =>
    .lift (Bridge.getAttribute_quiet handle name)).bind fun found => ?_
  cases found with
  | some handle => exact Bridge.register_quiet handle
  | none => exact .pure 0

theorem setAttribute_quiet (object : ℤ) (name : Bytes) (value : ℤ) :
    Bridge.Quiet change (setAttribute object name value) :=
  (argumentText_quiet name).bind fun name => withObject_quiet value fun value =>
    withObject_quiet object fun handle => Bridge.setAttribute_quiet handle name (.object value)

theorem call_quiet (callable : ℤ) (arguments : Ids) (count : ℕ) :
    Bridge.Quiet Serving (call callable arguments count) :=
  (argumentObjects_quiet arguments count).bind fun arguments => registered_quiet <|
    .thenRelease arguments <| withObject_quiet callable fun handle =>
      Bridge.callWith_quiet handle (arguments.map .object) []

theorem invoke_quiet (object : ℤ) (method : Bytes) (arguments : Ids) (count : ℕ) :
    Bridge.Quiet Serving (invoke object method arguments count) :=
  (argumentText_quiet method).bind fun method =>
    (argumentObjects_quiet arguments count).bind fun arguments => registered_quiet <|
      .thenRelease arguments <| withObject_quiet object fun handle =>
        Bridge.callMethod_quiet handle method (arguments.map .object) []

theorem fromJson_quiet (text : Bytes) : Bridge.Quiet Serving (fromJson text) := by
  refine (argumentText_quiet text).bind fun text => ?_
  split
  · exact .throw nofun
  · exact Bridge.session_quiet.bind fun _ => registered_quiet (Bridge.build_quiet _)

theorem isAbsent_quiet (object : ℤ) :
    Bridge.Quiet change (withObject object fun handle => return (← get).isAbsent handle) :=
  withObject_quiet object fun _ => .get_bind fun _ => .pure _

end CAbi

end ForeignBridge
