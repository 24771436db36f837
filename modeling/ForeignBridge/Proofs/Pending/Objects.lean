import ForeignBridge.Bridge.Start
import ForeignBridge.Proofs.Bridge.Unfolding
import ForeignBridge.Proofs.Pending.Quiet
import ForeignBridge.Proofs.Value.Document

/-! # Quiet operations

Every operation on objects, and everything that runs texts in the interpreter, is quiet: what it
attempts is followed by a look at what is pending, or by dropping it, on every way out.
-/

namespace ForeignBridge.Bridge

open World (Change)

variable {change : World → World → Prop} [Change change]

theorem requireObject_quiet (handle : Handle) : Bridge.Quiet change (requireObject handle) := by
  unfold requireObject
  split
  · exact .throw nofun
  · exact .pure ()

theorem requireNoNul_quiet (text : String) : Bridge.Quiet change (requireNoNul text) := by
  unfold requireNoNul
  split
  · exact .throw nofun
  · exact .pure ()

theorem session_quiet : Bridge.Quiet change session := by
  refine .get_bind fun world => ?_
  split
  · exact .pure _
  · exact .throw nofun

/-! Building. -/

theorem buildItems_quiet {items : List Value} (container : Handle) (place : ℕ)
    (each : ∀ item ∈ items, Bridge.Quiet change (build item)) :
    Bridge.Quiet change (buildItems container place items) := by
  induction items generalizing place with
  | nil => exact .pure ()
  | cons item rest ih =>
    obtain ⟨first, each⟩ := List.forall_mem_cons.mp each
    refine first.bind fun handle => ?_
    exact (Quiet.thenRelease [handle] (perform_quiet _)).bind fun _ => ih (place + 1) each

theorem buildPairs_quiet {pairs : List (Value × Value)} (dict : Handle)
    (each : ∀ pair ∈ pairs, Bridge.Quiet change (build pair.1) ∧ Bridge.Quiet change (build pair.2)) :
    Bridge.Quiet change (buildPairs dict pairs) := by
  induction pairs with
  | nil => exact .pure ()
  | cons pair rest ih =>
    obtain ⟨⟨first, second⟩, each⟩ := List.forall_mem_cons.mp each
    refine first.bind fun key => (second.elseRelease [key]).bind fun value => ?_
    exact (Quiet.thenRelease [key, value] (perform_quiet _)).bind fun _ => ih each

/-- A container that is made and then filled. -/
theorem fill_quiet {run : Foreign.Run Handle} {fill : Handle → Bridge Unit}
    (filled : ∀ container, Bridge.Quiet change (fill container)) :
    Bridge.Quiet change (do
      let container ← made run
      elseRelease [container] (fill container)
      return container) :=
  (made_quiet run).bind fun container => ((filled container).elseRelease [container]).bind fun _ =>
    .pure container

theorem build_quiet (value : Value) : Bridge.Quiet change (build value) := by
  induction value using Value.induction with
  | null => exact (Quiet.lift (own_quiet _)).bind fun _ => .pure _
  | bool b => exact made_quiet _
  | int n => exact made_quiet _
  | float x => exact made_quiet _
  | text s => exact made_quiet _
  | list items each => exact fill_quiet fun list => buildItems_quiet list 0 each
  | map pairs each => exact fill_quiet fun dict => buildPairs_quiet dict each
  | record fields each =>
    refine fill_quiet fun dict => ?_
    rw [buildFields_eq]
    exact buildPairs_quiet dict <| List.forall_mem_map.mpr fun field member =>
      ⟨made_quiet _, each field member⟩
  | object handle => exact (Quiet.lift (own_quiet handle)).bind fun _ => .pure handle
  | function identity => exact .throw nofun

theorem buildAll_quiet (values : List Value) : Bridge.Quiet change (buildAll values) := by
  induction values with
  | nil => exact .pure []
  | cons value rest ih =>
    exact (build_quiet value).bind fun handle => (ih.elseRelease [handle]).bind fun _ => .pure _

theorem buildNamed_quiet (keywords : List (String × Value)) :
    Bridge.Quiet change (buildNamed keywords) := by
  induction keywords with
  | nil => exact .pure []
  | cons keyword rest ih =>
    refine (requireNoNul_quiet keyword.1).bind fun _ => (build_quiet keyword.2).bind fun handle => ?_
    exact (ih.elseRelease [handle]).bind fun _ => .pure _

theorem buildTuple_quiet (items : List Value) : Bridge.Quiet change (buildTuple items) :=
  (buildAll_quiet items).bind fun handles => .thenRelease handles (made_quiet _)

theorem buildKeywords_quiet (keywords : List (String × Value)) :
    Bridge.Quiet change (buildKeywords keywords) := by
  unfold buildKeywords
  split
  · exact .pure none
  · refine (buildNamed_quiet keywords).bind fun pairs => .thenRelease _ ?_
    exact (made_quiet _).bind fun dict => ((perform_quiet _).elseRelease [dict]).bind fun _ =>
      .pure (some dict)

/-! Reading. -/

theorem read_told {session : Session} {heap : Foreign.Heap} {handle : Handle} {error : BridgeError}
    (failed : Value.read session heap handle = .error error) : error.Told := by
  obtain ⟨value, read⟩ | large :=
    Value.readWithin_total session heap Value.depthLimit [] handle
  · exact nomatch read.symm.trans failed
  · obtain rfl := Except.error.inj (large.symm.trans failed)
    intro traceback same
    injection same with message
    exact absurd message (by decide)

theorem readWith_quiet (session : Session) (handle : Handle) :
    Bridge.Quiet change (readWith session handle) := by
  refine ⟨fun world => ?_, fun world error failed => read_told ((readWith_on_fst ..).symm.trans failed)⟩
  change change world (Bridge.on _ world).2 ∧ (_ → (Bridge.on _ world).2.pending = none)
  cases read : Value.read session world.machine.heap handle with
  | ok value =>
    obtain ⟨top, _, step⟩ := readWith_on_ok read
    rw [step]
    exact ⟨Change.of_steady ⟨.refl _, rfl, rfl, rfl, rfl⟩, id⟩
  | error error =>
    rw [readWith_on_error read]
    exact ⟨Change.of_steady (.refl world), id⟩

theorem valueOf_quiet (handle : Handle) : Bridge.Quiet change (valueOf handle) :=
  session_quiet.bind fun session => readWith_quiet session handle

/-! Objects. -/

theorem getAttribute_quiet (handle : Handle) (name : String) :
    Act.Quiet change (getAttribute handle name) := by
  unfold getAttribute
  split
  · exact .pure none
  · exact (attemptOwned_attempts _).bind (fun attr => .pure (some attr))
      (clear_hushes.bind fun _ => .pure none)

theorem setAttribute_quiet (handle : Handle) (name : String) (value : Value) :
    Bridge.Quiet change (setAttribute handle name value) := by
  refine (requireObject_quiet handle).bind fun _ => (requireNoNul_quiet name).bind fun _ => ?_
  refine (build_quiet value).bind fun value => .thenRelease [value] ?_
  exact .attempts_bind (attempt_attempts _) (fun done => (settled_hushes _ _).quiet)
    (settled_hushes _ _)

theorem callWith_quiet (handle : Handle) (arguments : List Value)
    (keywords : List (String × Value)) :
    Bridge.Quiet change (callWith handle arguments keywords) := by
  refine (requireObject_quiet handle).bind fun _ => (buildTuple_quiet arguments).bind fun tuple => ?_
  refine ((buildKeywords_quiet keywords).elseRelease [tuple]).bind fun named => ?_
  refine (Hushes.after (fun world => (attemptOwned_attempts _ world).1) fun result => ?_).quiet
  exact .after (fun world => (releaseAll_quiet _ world).1) fun _ => settled_hushes _ result

theorem callMethod_quiet (handle : Handle) (name : String) (arguments : List Value)
    (keywords : List (String × Value)) :
    Bridge.Quiet change (callMethod handle name arguments keywords) := by
  refine (Quiet.lift (getAttribute_quiet handle name)).bind fun found => ?_
  cases found with
  | none => exact .throw nofun
  | some method => exact .thenRelease [method] (callWith_quiet method arguments keywords)

theorem render_quiet (run : Foreign.Run Handle) : Bridge.Quiet change (render run) :=
  (made_quiet run).bind fun rendered =>
    .thenRelease [rendered] (orThrow_quiet (textOf_tries rendered).attempts unknown_told)

theorem str_quiet (handle : Handle) : Bridge.Quiet change (str handle) :=
  (requireObject_quiet handle).bind fun _ => render_quiet _

theorem repr_quiet (handle : Handle) : Bridge.Quiet change (repr handle) :=
  (requireObject_quiet handle).bind fun _ => render_quiet _

theorem invoke_quiet (handle : Handle) (intrinsic : Intrinsic) (arguments : List Value) :
    Bridge.Quiet change (invoke handle intrinsic arguments) := by
  cases intrinsic with
  | call => exact (callWith_quiet handle arguments []).bind fun result => .pure _
  | toString => exact (str_quiet handle).bind fun text => .pure _
  | valueOf => exact valueOf_quiet handle

theorem toJson_quiet (handle : Handle) : Bridge.Quiet change (toJson handle) := by
  refine (valueOf_quiet handle).bind fun value => .thenRelease value.objects (.get_bind fun world => ?_)
  cases made : value.toJson world.typeName with
  | ok json => exact .pure json
  | error error =>
    obtain ⟨what, rfl⟩ := Value.error_of_toJson made
    exact .throw nofun

/-! Starting and running. -/

theorem importModule_quiet (name : String) : Bridge.Quiet change (importModule name) :=
  (requireNoNul_quiet name).bind fun _ => orThrow_quiet (attemptOwned_attempts _) nofun

theorem requireAttribute_quiet (module : Handle) (moduleName name : String) :
    Bridge.Quiet change (requireAttribute module moduleName name) := by
  refine (Quiet.lift (getAttribute_quiet module name)).bind fun found => ?_
  cases found with
  | some value => exact .pure value
  | none => exact .throw nofun

theorem withBuiltin_quiet {α : Type} {next : Handle → Bridge α} (builtins : Handle) (name : String)
    (tail : ∀ handle, Bridge.Quiet change (next handle)) :
    Bridge.Quiet change (withBuiltin builtins name next) :=
  (requireAttribute_quiet builtins "builtins" name).bind fun value => (tail value).elseRelease [value]

theorem insertEntries_quiet (path : Handle) (entries : List String) :
    Bridge.Quiet change (insertEntries path entries) := by
  induction entries with
  | nil => exact .pure ()
  | cons entry rest ih =>
    exact ih.bind fun _ => (callMethod_quiet path "insert" _ []).bind fun answer =>
      .lift (release_quiet answer)

theorem extendSearchPath_quiet (entries : List String) :
    Bridge.Quiet change (extendSearchPath entries) := by
  unfold extendSearchPath
  split
  · exact .pure ()
  · refine (importModule_quiet "sys").bind fun module => .thenRelease [module] ?_
    exact (requireAttribute_quiet module "sys" "path").bind fun path =>
      .thenRelease [path] (insertEntries_quiet path entries)

theorem bootstrap_quiet (config : Config) : Bridge.Quiet change (bootstrap config) := by
  refine (importModule_quiet "builtins").bind fun builtins => .elseRelease [builtins] ?_
  refine withBuiltin_quiet builtins "None" fun none => withBuiltin_quiet builtins "bool" fun bool => ?_
  refine withBuiltin_quiet builtins "int" fun int => withBuiltin_quiet builtins "float" fun float => ?_
  refine withBuiltin_quiet builtins "str" fun str => withBuiltin_quiet builtins "list" fun list => ?_
  exact withBuiltin_quiet builtins "dict" fun dict =>
    (extendSearchPath_quiet config.searchPath).bind fun _ => .pure _

theorem eval_quiet (source : String) : Bridge.Quiet change (eval source) :=
  (requireNoNul_quiet source).bind fun _ => .attempts_bind (attemptOwned_attempts _)
    (fun _ => (settled_hushes _ _).quiet) (settled_hushes _ _)

theorem reportPending_hushes : Act.Hushes change reportPending := by
  intro world
  rw [reportPending, Act.on_get_bind]
  cases pending : world.pending with
  | none => exact ⟨Change.of_steady (.refl world), pending⟩
  | some thrown =>
    have cleared : Act.Hushes change (do
        let _ ← onMachine (noteLast (world.classOf thrown.exception) thrown)
        clear) :=
      .after (fun world => Change.of_steady (onMachine_stirs _ world).steady) fun _ => clear_hushes
    exact cleared world

theorem run_quiet (source : String) : Bridge.Quiet change (run source) := by
  refine (requireNoNul_quiet source).bind fun _ => ?_
  refine .attempts_bind (attempt_attempts _) (fun done => .pure ()) ?_
  exact ⟨fun world => reportPending_hushes world, fun world error failed => by
    obtain rfl := Except.error.inj failed
    exact nofun⟩

end ForeignBridge.Bridge
