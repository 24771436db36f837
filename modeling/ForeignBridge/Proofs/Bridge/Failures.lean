import ForeignBridge.Bridge.Start
import ForeignBridge.Proofs.Bridge.Unfolding
import ForeignBridge.Proofs.Ownership.Raised
import ForeignBridge.Proofs.Value.Document

/-! # Failures that are no refusals

An error refuses if it says that nothing has been started, that an integer stands for nothing, or that
an argument cannot be read. Nothing that is done with objects refuses, and nothing that runs in the
interpreter does: an exception becomes an error of its own kind, and so does everything else that goes
wrong there.
-/

namespace ForeignBridge

open Foreign (Run Thrown)

namespace BridgeError

/-- Whether an error refuses to do anything. -/
def isRefusal : BridgeError → Bool
  | notInitialized | invalidHandle _ | invalidArgument _ => true
  | _ => false

end BridgeError

variable {α β : Type}

/-- An act that never refuses. -/
def Bridge.Accepts (act : Bridge α) : Prop :=
  ∀ world error, (act.on world).1 = .error error → error.isRefusal = false

namespace Bridge

namespace Accepts

theorem pure (value : α) : Accepts (pure value) := fun _ _ same => nomatch same

theorem throw {error : BridgeError} (other : error.isRefusal = false) :
    Accepts (throw error : Bridge α) := fun _ _ same => Except.error.inj same ▸ other

theorem lift (act : Act α) : Accepts (liftM act) := fun _ _ same => nomatch same

/-- What is known of the world at the start may be used. -/
theorem get_bind {next : World → Bridge β} (tail : ∀ world, Accepts (next world)) :
    Accepts (get >>= next) := fun world => tail world world

theorem bind {first : Bridge α} {next : α → Bridge β} (head : Accepts first)
    (tail : ∀ value, Accepts (next value)) : Accepts (first >>= next) := by
  intro world error failed
  rw [on_bind_eq] at failed
  cases step : first.on world with
  | mk result middle =>
    rw [step] at failed
    cases result with
    | ok value => exact tail value middle error failed
    | error first =>
      obtain rfl := Except.error.inj failed
      exact head world first (by rw [step])

/-- What comes to nothing may be told apart from what comes to something. -/
theorem lift_bind {first : Act (Option α)} {next : Option α → Bridge β}
    (found : ∀ value, Accepts (next (some value))) (missing : Accepts (next none)) :
    Accepts (liftM first >>= next) :=
  (lift first).bind fun result => match result with
    | some value => found value
    | none => missing

theorem thenRelease {act : Bridge α} (handles : List Handle) (accepts : Accepts act) :
    Accepts (thenRelease handles act) := by
  intro world error failed
  rw [thenRelease_on] at failed
  exact accepts world error failed

theorem elseRelease {act : Bridge α} (handles : List Handle) (accepts : Accepts act) :
    Accepts (elseRelease handles act) := by
  intro world error failed
  rw [elseRelease_on] at failed
  cases step : act.on world with
  | mk result after =>
    rw [step] at failed
    cases result with
    | ok value => cases failed
    | error first =>
      obtain rfl := Except.error.inj failed
      exact accepts world first (by rw [step])

end Accepts

/-! What is raised. -/

/-- An exception that is looked at is an error of the interpreter. -/
theorem fetch_not_refusal {world : World} {error : BridgeError}
    (fetched : (Act.on fetch world).1 = some error) : error.isRefusal = false := by
  cases pending : world.pending with
  | none =>
    rw [fetch, Act.on_get_bind, pending] at fetched
    cases fetched
  | some thrown =>
    obtain ⟨message, traceback, made⟩ : ∃ message traceback,
        (Act.on fetch world).1 = some (.foreign message traceback) := by
      rw [fetch, Act.on_get_bind, pending]
      exact ⟨_, _, rfl⟩
    obtain rfl := Option.some.inj (made.symm.trans fetched)
    rfl

theorem orThrow_accepts {act : Act (Option α)} {fallback : BridgeError}
    (other : fallback.isRefusal = false) : Accepts (orThrow act fallback) := by
  refine .lift_bind (fun value => .pure value) fun world error failed => ?_
  have same : error = ((Act.on fetch world).1).getD fallback := (Except.error.inj failed).symm
  cases fetched : (Act.on fetch world).1 with
  | none => rwa [same, fetched]
  | some raised =>
    rw [same, fetched]
    exact fetch_not_refusal fetched

theorem perform_accepts (run : Run α) : Accepts (perform run) := orThrow_accepts rfl

theorem made_accepts (run : Run Handle) : Accepts (made run) := orThrow_accepts rfl

theorem check_accepts : Accepts check := by
  intro world error failed
  rw [check_on] at failed
  cases fetched : (Act.on fetch world).1 with
  | none =>
    rw [fetched] at failed
    cases failed
  | some raised =>
    rw [fetched] at failed
    exact Except.error.inj failed ▸ fetch_not_refusal fetched

theorem settled_accepts (references : α → List Handle) (result : Option α) :
    Accepts (settled references result) := by
  cases result with
  | some value => exact (check_accepts.elseRelease _).bind fun _ => .pure value
  | none => exact check_accepts.bind fun _ => .throw rfl

theorem requireObject_accepts (handle : Handle) : Accepts (requireObject handle) := by
  unfold requireObject
  split
  · exact .throw rfl
  · exact .pure ()

theorem requireNoNul_accepts (text : String) : Accepts (requireNoNul text) := by
  unfold requireNoNul
  split
  · exact .throw rfl
  · exact .pure ()

/-! Building. -/

theorem buildItems_accepts {items : List Value} (container : Handle) (place : ℕ)
    (each : ∀ item ∈ items, Accepts (build item)) : Accepts (buildItems container place items) := by
  induction items generalizing place with
  | nil => exact .pure ()
  | cons item rest ih =>
    obtain ⟨first, each⟩ := List.forall_mem_cons.mp each
    refine first.bind fun handle => ?_
    exact (Accepts.thenRelease [handle] (perform_accepts _)).bind fun _ => ih (place + 1) each

theorem buildPairs_accepts {pairs : List (Value × Value)} (dict : Handle)
    (each : ∀ pair ∈ pairs, Accepts (build pair.1) ∧ Accepts (build pair.2)) :
    Accepts (buildPairs dict pairs) := by
  induction pairs with
  | nil => exact .pure ()
  | cons pair rest ih =>
    obtain ⟨⟨first, second⟩, each⟩ := List.forall_mem_cons.mp each
    refine first.bind fun key => (second.elseRelease [key]).bind fun value => ?_
    exact (Accepts.thenRelease [key, value] (perform_accepts _)).bind fun _ => ih each

/-- A container that is made and then filled. -/
theorem fill_accepts {run : Run Handle} {fill : Handle → Bridge Unit}
    (filled : ∀ container, Accepts (fill container)) :
    Accepts (do
      let container ← made run
      Bridge.elseRelease [container] (fill container)
      return container) :=
  (made_accepts run).bind fun container => ((filled container).elseRelease [container]).bind fun _ =>
    .pure container

theorem build_accepts (value : Value) : Accepts (build value) := by
  induction value using Value.induction with
  | null => exact (Accepts.lift _).bind fun _ => .pure _
  | bool b => exact made_accepts _
  | int n => exact made_accepts _
  | float x => exact made_accepts _
  | text s => exact made_accepts _
  | list items each => exact fill_accepts fun list => buildItems_accepts list 0 each
  | map pairs each => exact fill_accepts fun dict => buildPairs_accepts dict each
  | record fields each =>
    refine fill_accepts fun dict => ?_
    rw [buildFields_eq]
    exact buildPairs_accepts dict <| List.forall_mem_map.mpr fun field member =>
      ⟨made_accepts _, each field member⟩
  | object handle => exact (Accepts.lift _).bind fun _ => .pure handle
  | function identity => exact .throw rfl

theorem buildAll_accepts (values : List Value) : Accepts (buildAll values) := by
  induction values with
  | nil => exact .pure []
  | cons value rest ih =>
    exact (build_accepts value).bind fun handle => (ih.elseRelease [handle]).bind fun _ => .pure _

theorem buildNamed_accepts (keywords : List (String × Value)) : Accepts (buildNamed keywords) := by
  induction keywords with
  | nil => exact .pure []
  | cons keyword rest ih =>
    refine (requireNoNul_accepts keyword.1).bind fun _ => ?_
    exact (build_accepts keyword.2).bind fun handle => (ih.elseRelease [handle]).bind fun _ => .pure _

theorem buildTuple_accepts (items : List Value) : Accepts (buildTuple items) :=
  (buildAll_accepts items).bind fun handles => .thenRelease handles (made_accepts _)

theorem buildKeywords_accepts (keywords : List (String × Value)) :
    Accepts (buildKeywords keywords) := by
  unfold buildKeywords
  split
  · exact .pure none
  · refine (buildNamed_accepts keywords).bind fun pairs => .thenRelease _ ?_
    exact (made_accepts _).bind fun dict => ((perform_accepts _).elseRelease [dict]).bind fun _ =>
      .pure (some dict)

/-! Objects. -/

theorem readWith_accepts (session : Session) (handle : Handle) :
    Accepts (readWith session handle) := by
  intro world error failed
  rw [readWith_on_fst] at failed
  obtain ⟨value, read⟩ | large :=
    Value.readWithin_total session world.machine.heap Value.depthLimit [] handle
  · cases read.symm.trans failed
  · cases large.symm.trans failed
    rfl

theorem setAttribute_accepts (handle : Handle) (name : String) (value : Value) :
    Accepts (setAttribute handle name value) := by
  refine (requireObject_accepts handle).bind fun _ => (requireNoNul_accepts name).bind fun _ => ?_
  refine (build_accepts value).bind fun value => .thenRelease [value] ?_
  exact (Accepts.lift _).bind fun done => settled_accepts _ done

theorem callWith_accepts (handle : Handle) (arguments : List Value)
    (keywords : List (String × Value)) : Accepts (callWith handle arguments keywords) := by
  refine (requireObject_accepts handle).bind fun _ => (buildTuple_accepts arguments).bind fun tuple => ?_
  refine ((buildKeywords_accepts keywords).elseRelease [tuple]).bind fun named => ?_
  exact (Accepts.lift _).bind fun result => (Accepts.lift _).bind fun _ => settled_accepts _ result

theorem callMethod_accepts (handle : Handle) (name : String) (arguments : List Value)
    (keywords : List (String × Value)) : Accepts (callMethod handle name arguments keywords) :=
  .lift_bind (fun method => .thenRelease [method] (callWith_accepts method arguments keywords))
    (.throw rfl)

theorem render_accepts (run : Run Handle) : Accepts (render run) :=
  (made_accepts run).bind fun rendered => .thenRelease [rendered] (orThrow_accepts rfl)

theorem str_accepts (handle : Handle) : Accepts (str handle) :=
  (requireObject_accepts handle).bind fun _ => render_accepts _

theorem repr_accepts (handle : Handle) : Accepts (repr handle) :=
  (requireObject_accepts handle).bind fun _ => render_accepts _

/-! Starting and running. -/

theorem importModule_accepts (name : String) : Accepts (importModule name) :=
  (requireNoNul_accepts name).bind fun _ => orThrow_accepts rfl

theorem requireAttribute_accepts (module : Handle) (moduleName name : String) :
    Accepts (requireAttribute module moduleName name) :=
  .lift_bind (fun value => .pure value) (.throw rfl)

theorem withBuiltin_accepts {next : Handle → Bridge α} (builtins : Handle) (name : String)
    (tail : ∀ handle, Accepts (next handle)) : Accepts (withBuiltin builtins name next) :=
  (requireAttribute_accepts builtins "builtins" name).bind fun value =>
    (tail value).elseRelease [value]

theorem insertEntries_accepts (path : Handle) (entries : List String) :
    Accepts (insertEntries path entries) := by
  induction entries with
  | nil => exact .pure ()
  | cons entry rest ih =>
    exact ih.bind fun _ => (callMethod_accepts path "insert" _ []).bind fun answer => .lift _

theorem extendSearchPath_accepts (entries : List String) : Accepts (extendSearchPath entries) := by
  unfold extendSearchPath
  split
  · exact .pure ()
  · refine (importModule_accepts "sys").bind fun module => .thenRelease [module] ?_
    exact (requireAttribute_accepts module "sys" "path").bind fun path =>
      .thenRelease [path] (insertEntries_accepts path entries)

theorem bootstrap_accepts (config : Config) : Accepts (bootstrap config) := by
  refine (importModule_accepts "builtins").bind fun builtins => .elseRelease [builtins] ?_
  refine withBuiltin_accepts builtins "None" fun none => ?_
  refine withBuiltin_accepts builtins "bool" fun bool => ?_
  refine withBuiltin_accepts builtins "int" fun int => ?_
  refine withBuiltin_accepts builtins "float" fun float => ?_
  refine withBuiltin_accepts builtins "str" fun str => ?_
  refine withBuiltin_accepts builtins "list" fun list => ?_
  refine withBuiltin_accepts builtins "dict" fun dict => ?_
  exact (extendSearchPath_accepts config.searchPath).bind fun _ => .pure _

theorem start_accepts : Accepts start := by
  refine .get_bind fun world => .get_bind fun world => ?_
  split
  · exact .pure _
  · exact (bootstrap_accepts _).bind fun session => (Accepts.lift _).bind fun _ => .pure session

theorem eval_accepts (source : String) : Accepts (eval source) :=
  (requireNoNul_accepts source).bind fun _ => (Accepts.lift _).bind fun result =>
    settled_accepts _ result

theorem run_accepts (source : String) : Accepts (run source) :=
  (requireNoNul_accepts source).bind fun _ =>
    .lift_bind (fun _ => .pure ()) ((Accepts.lift _).bind fun _ => .throw rfl)

end Bridge

end ForeignBridge
