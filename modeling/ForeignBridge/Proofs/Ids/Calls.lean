import ForeignBridge.Proofs.Ids.Lookup
import ForeignBridge.Proofs.Ownership.Interface
import ForeignBridge.Workspace.Step

/-! # What calls of the C interface answer

A call reads its text and its array, looks the integers that it names up in order, does its work on
their objects, and may then hand an integer out. What it answers is told by the log alone, but for the
work on the objects.
-/

namespace ForeignBridge

/-- The world once the last error is forgotten. -/
def World.cleared (world : World) : World := { world with lastError := none }

theorem World.Calm.cleared {world : World} {owed : List Handle} (calm : world.Calm owed) :
    world.cleared.Calm owed :=
  ⟨⟨calm.sound, calm.registry, calm.kept, calm.held, calm.overdrawn⟩, calm.pending⟩

namespace CAbi

/-- What a call comes to, before it is known what that does to integers. -/
inductive Made where
  /-- Nothing that integers have to do with. -/
  | answer (answer : Answer)
  /-- An object, which an integer is to be handed out for. -/
  | object (handle : Handle)
  /-- The question how many integers there are. -/
  | count
  | opened
  | closed
  | dropped (id : Int)

namespace Made

/-- The answer, if the registry has the log. -/
def reply (log : Option IdLog) : Made → Except BridgeError Answer
  | answer value => .ok value
  | object _ => (IdLog.register log).map .number
  | count => (IdLog.registered log).map fun count => .number count
  | opened => .ok (.number 0)
  | closed | dropped _ => .ok .none

/-- The log afterwards. -/
def log (log : Option IdLog) : Made → Option IdLog
  | answer _ | count => log
  | object handle => match IdLog.register log with
    | .ok id => log.map (·.issue id handle)
    | .error _ => log
  | opened => some (log.getD .empty)
  | closed => none
  | dropped id => match IdLog.resolve log id with
    | .ok _ => log.map (·.drop id)
    | .error _ => log

/-- The registry afterwards. -/
def registry (registry : Option Registry) : Made → Option Registry
  | answer _ | count => registry
  | object handle => registry.map fun table => if table.isFull then table else table.insert handle
  | opened => some (registry.getD .empty)
  | closed => none
  | dropped id => registry.map (·.erase id)

/-- A log goes on describing a registry. -/
theorem describes_log {log : Option IdLog} {registry : Option Registry} (made : Made)
    (described : Option.Rel IdLog.Describes log registry)
    (valid : ∀ table ∈ registry, table.Valid) :
    Option.Rel IdLog.Describes (made.log log) (made.registry registry) := by
  cases described with
  | none => cases made <;> constructor; exact IdLog.describes_empty
  | @some log table described =>
    cases made with
    | answer | count | opened => exact .some described
    | closed => exact .none
    | object handle =>
      simp only [Made.log, Made.registry, IdLog.register, Registry.isFull, described.next, beq_iff_eq,
        Option.map_some]
      by_cases full : log.next = Registry.lastId
      · simp only [if_pos full]
        exact .some described
      · simp only [if_neg full]
        exact .some (described.issue handle)
    | dropped id =>
      simp only [Made.log, Made.registry, IdLog.resolve, ← described.object, Option.map_some]
      cases found : table.get? id with
      | none =>
        rw [Registry.erase_of_get?_eq_none found]
        exact .some described
      | some handle => exact .some (described.drop (valid table rfl) found)

/-- What cannot be answered has done nothing to the registry. -/
theorem registry_of_error {log : Option IdLog} {registry : Option Registry} {error : BridgeError}
    {made : Made} (described : Option.Rel IdLog.Describes log registry)
    (failed : made.reply log = .error error) : made.registry registry = registry := by
  cases made with
  | answer | count => rfl
  | opened | closed | dropped => cases failed
  | object handle =>
    cases described with
    | none => rfl
    | @some log table described =>
      simp only [reply, IdLog.register] at failed
      simp only [Made.registry, Option.map_some, Registry.isFull, described.next, beq_iff_eq]
      split at failed
      · rename_i full
        rw [if_pos full]
      · cases failed

end Made

namespace Call

/-- The text that a call brings along. -/
def text : Call → Except BridgeError String
  | exec text | eval text | importModule text | fromJson text | getAttribute _ text
  | setAttribute _ text _ | invoke _ text _ _ => readText text
  | _ => .ok ""

/-- The integers that a call names, in the order in which they are looked up. -/
def ids : Call → Except BridgeError (List Int)
  | getAttribute object _ | toStr object | toRepr object | toJson object | isAbsent object
  | drop object => .ok [object]
  | setAttribute object _ value => .ok [value, object]
  | call object arguments count | invoke object _ arguments count =>
    (readIds arguments count).map (· ++ [object])
  | _ => .ok []

/-- The objects of an array argument that can be read. -/
def argumentValues (objectOf : Int → Handle) (arguments : Ids) (count : ℕ) : List Value :=
  (((arguments.getD []).take count).map objectOf).map .object

/-- What a call does with the objects of its integers. -/
def work (text : String) (objectOf : Int → Handle) : Call → Bridge Made
  | init => do
    let _ ← Bridge.start
    return .opened
  | finalize => return .closed
  | exec _ => do
    let _ ← Bridge.session
    Bridge.run text
    return .answer (.number 0)
  | eval _ => do
    let _ ← Bridge.session
    return .object (← Bridge.eval text)
  | importModule _ => do
    let _ ← Bridge.session
    return .object (← Bridge.importModule text)
  | getAttribute object _ => do
    match ← ExceptT.lift (Bridge.getAttribute (objectOf object) text) with
    | some found => return .object found
    | none => return .answer (.number 0)
  | setAttribute object _ value => do
    Bridge.setAttribute (objectOf object) text (.object (objectOf value))
    return .answer (.number 0)
  | call object arguments count => do
    return .object (← Bridge.callWith (objectOf object) (argumentValues objectOf arguments count) [])
  | invoke object _ arguments count => do
    return .object
      (← Bridge.callMethod (objectOf object) text (argumentValues objectOf arguments count) [])
  | toStr object => do return .answer (.text (cutAtNul (← Bridge.str (objectOf object))))
  | toRepr object => do return .answer (.text (cutAtNul (← Bridge.repr (objectOf object))))
  | toJson object => do
    return .answer (.text (cutAtNul (Json.write (← Bridge.toJson (objectOf object)))))
  | fromJson _ =>
    match Json.read text with
    | .error fault => throw (.invalidArgument ("JSON: " ++ fault.message))
    | .ok json => do
      let _ ← Bridge.session
      return .object (← Bridge.build (.ofJson json))
  | isAbsent object => do
    return .answer (.number (if (← get).isAbsent (objectOf object) then 1 else 0))
  | drop id => return .dropped id
  | handleCount => return .count
  | lastError | clearLastError => return .answer .none

/-- The answer that says that a call has failed. -/
def failure : Call → Answer
  | init | exec _ | setAttribute .. | isAbsent _ | handleCount => .number (-1)
  | eval _ | importModule _ | getAttribute .. | call .. | invoke .. | fromJson _ => .number 0
  | toStr _ | toRepr _ | toJson _ => .text ""
  | finalize | drop _ | lastError | clearLastError => .none

/-- What a call with a text comes to: its integers are looked up in order, and then it does its work
while it holds their objects. -/
def madeWith (log : Option IdLog) (world : World) (call : Call) (text : String) :
    Except BridgeError Made := do
  IdLog.withObjects log world (← call.ids) (call.work text)

/-- What a call comes to. Its text is read first. -/
def made (log : Option IdLog) (world : World) (call : Call) : Except BridgeError Made := do
  call.madeWith log world (← call.text)

/-- The answer to a call, or its error. -/
def result (log : Option IdLog) (world : World) (call : Call) : Except BridgeError Answer := do
  (← call.made log world).reply log

/-- The reply to a call. All but the question for it forget the last error first. -/
def reply (log : Option IdLog) (world : World) (call : Call) : Reply :=
  if call = .lastError then .called ((world.lastError.map .text).getD .none) world.lastError
  else match call.result log world.cleared with
    | .ok answer => .called answer none
    | .error error => .called call.failure (some (spellNuls error.display))

/-- The log after a call. One that fails leaves it as it was. -/
def logAfter (log : Option IdLog) (world : World) (call : Call) : Option IdLog :=
  match call.made log world.cleared with
  | .ok made => made.log log
  | .error _ => log

/-- That a call has been answered as its log says, and that it has done to the registry what it came
to. -/
structure Meets (call : Call) (log : Option IdLog) (world : World) (outcome : Answer × World) :
    Prop where
  reply : Reply.called outcome.1 outcome.2.lastError = call.reply log world
  registry : outcome.2.registry = match call.made log world.cleared with
    | .ok made => made.registry world.registry
    | .error _ => world.registry

end Call

variable {α : Type} {world : World} {log : Option IdLog} {owed : List Handle} {call : Call}

/-- An answer that is looked for leaves the last error of what fails behind, or none. -/
theorem answer_on (success : α → Answer) (failure : Answer) (body : Bridge α) (world : World) :
    Act.on (answer success failure body) world = match Bridge.on body world.cleared with
      | (.ok value, after) => (success value, after)
      | (.error error, after) =>
        (failure, { after with lastError := some (spellNuls error.display) }) := by
  have cleared : Act.on (Bridge.outcome body) (Act.on clearLastError world).2 =
      body.on world.cleared := rfl
  rw [answer, Act.on_bind, Act.on_bind, cleared]
  obtain ⟨result, after⟩ := body.on world.cleared
  cases result <;> rfl

/-- What a body must come to for a call to be answered as its log says. -/
theorem meets_of_body {body : Bridge α} {success : α → Answer} (ordinary : call ≠ .lastError)
    (result : (body.on world.cleared).1.map success = call.result log world.cleared)
    (quiet : (body.on world.cleared).2.lastError = none)
    (registry : (body.on world.cleared).2.registry = match call.made log world.cleared with
      | .ok made => made.registry world.registry
      | .error _ => world.registry) :
    call.Meets log world (Act.on (answer success call.failure body) world) := by
  rw [answer_on]
  generalize body.on world.cleared = outcome at *
  obtain ⟨value, after⟩ := outcome
  have replied : call.reply log world = match value.map success with
      | .ok answer => .called answer none
      | .error error => .called call.failure (some (spellNuls error.display)) := by
    rw [Call.reply, if_neg ordinary, ← result]
  cases value with
  | ok value =>
    have quiet : after.lastError = none := quiet
    exact ⟨by rw [replied]; simp only [quiet]; rfl, registry⟩
  | error error => exact ⟨replied.symm, registry⟩

/-- A call that integers have nothing to do with once they are looked up. -/
theorem meets_of_answer {body : Bridge α} {success : α → Answer} (ordinary : call ≠ .lastError)
    (calm : world.Calm owed) (balances : Bridge.Balances World.Steady [] [] body fun _ => [])
    (made : (body.on world.cleared).1.map (fun value => Made.answer (success value)) =
      call.made log world.cleared) :
    call.Meets log world (Act.on (answer success call.failure body) world) := by
  obtain ⟨steady, _⟩ := balances world.cleared owed calm.cleared nofun
  refine meets_of_body ordinary ?_ steady.lastError ?_
  · rw [Call.result, ← made]
    cases (body.on world.cleared).1 <;> rfl
  · rw [← made, steady.registry]
    cases (body.on world.cleared).1 <;> rfl

/-- A call that hands an integer out for what it finds, if it finds something. -/
theorem meets_of_found {first : Bridge α} (found : α → Option Handle) (ordinary : call ≠ .lastError)
    (calm : world.Calm owed) (logs : world.Logs log)
    (balances : Bridge.Balances World.Steady [] [] first fun value => (found value).toList)
    (made : (first.on world.cleared).1.map
        (fun value => (found value).elim (Made.answer (.number 0)) Made.object) =
      call.made log world.cleared) :
    call.Meets log world (Act.on (answer .number call.failure (do
      match found (← first) with
      | some handle => Bridge.register handle
      | none => return 0)) world) := by
  obtain ⟨steady, _⟩ := balances world.cleared owed calm.cleared nofun
  have body := Bridge.on_bind_eq first (fun value => match found value with
    | some handle => Bridge.register handle
    | none => return 0) world.cleared
  generalize first.on world.cleared = outcome at *
  obtain ⟨result, after⟩ := outcome
  have registry : after.registry = world.registry := steady.registry
  have quiet : after.lastError = none := steady.lastError
  cases result with
  | error error =>
    refine meets_of_body ordinary ?_ ?_ ?_
    · rw [body, Call.result, ← made]
      rfl
    · rw [body]
      exact quiet
    · rw [body, ← made]
      exact registry
  | ok value =>
    cases same : found value with
    | none =>
      simp only [same] at body
      refine meets_of_body ordinary ?_ ?_ ?_
      · rw [body, Call.result, ← made]
        simp only [Except.map, same]
        rfl
      · rw [body]
        exact quiet
      · rw [body, ← made]
        simp only [Except.map, same]
        exact registry
    | some handle =>
      simp only [same] at body
      have logs : after.Logs log := by
        rw [World.Logs, registry]
        exact logs
      refine meets_of_body ordinary ?_ ?_ ?_
      · rw [body, Bridge.register_of_logs logs, Call.result, ← made]
        simp only [Except.map, same]
        rfl
      · rw [body, Bridge.register_lastError, quiet]
      · rw [body, Bridge.register_registry, ← made, registry]
        simp only [Except.map, same]
        rfl

/-! What calls come to. -/

variable {text : String} {become : α → Made}

/-- What comes to something is known by the work of the call, once its integers are. -/
theorem madeWith_eq {ids : List Int} {look : (Int → Handle) → Bridge α} (named : call.ids = .ok ids)
    (work : ∀ objectOf, call.work text objectOf = become <$> look objectOf) :
    (IdLog.withObjects log world ids look).map become = call.madeWith log world text := by
  have same : call.work text = fun objectOf => become <$> look objectOf := funext work
  rw [Call.madeWith, named, same, ← IdLog.withObjects_map]
  rfl

theorem madeWith_of_act {act : Bridge α} (named : call.ids = .ok [])
    (work : ∀ objectOf, call.work text objectOf = become <$> act) :
    (Bridge.on act world).1.map become = call.madeWith log world text :=
  madeWith_eq named work

theorem madeWith_of_object {object : Int} {look : Handle → Bridge α} (logs : world.Logs log)
    (named : call.ids = .ok [object])
    (work : ∀ objectOf, call.work text objectOf = become <$> look (objectOf object)) :
    (Bridge.on (withObject object look) world).1.map become = call.madeWith log world text := by
  rw [withObject_of_logs logs]
  exact madeWith_eq named work

theorem madeWith_of_arguments {object : Int} {arguments : Ids} {count : ℕ}
    {look : List Handle → Handle → Bridge α} (logs : world.Logs log)
    (named : call.ids = (readIds arguments count).map (· ++ [object]))
    (work : ∀ objectOf, call.work text objectOf =
      become <$> look (((arguments.getD []).take count).map objectOf) (objectOf object)) :
    (Bridge.on (do
      let handles ← argumentObjects arguments count
      Bridge.thenRelease handles (withObject object (look handles))) world).1.map become =
      call.madeWith log world text := by
  rw [argumentObjects_withObject logs]
  cases read : readIds arguments count with
  | error error =>
    rw [Call.madeWith, named, read]
    rfl
  | ok ids =>
    rw [read] at named
    exact madeWith_eq named work

/-- What a call comes to once its text is read. -/
theorem made_of_text {bytes : Bytes} {next : String → Bridge α} (read : call.text = readText bytes)
    (rest : ∀ text, (Bridge.on (next text) world).1.map become = call.madeWith log world text) :
    (Bridge.on (argumentText bytes >>= next) world).1.map become = call.made log world := by
  rw [argumentText_bind, Call.made, read]
  cases readText bytes with
  | error error => rfl
  | ok text => exact rest text

theorem made_of_none {body : Bridge α} (read : call.text = .ok "")
    (rest : (Bridge.on body world).1.map become = call.madeWith log world "") :
    (Bridge.on body world).1.map become = call.made log world := by
  rw [rest, Call.made, read]
  rfl

/-! Calls that name no integers. -/

theorem exec_meets (calm : world.Calm owed) (code : Bytes) :
    Call.Meets (.exec code) log world (Act.on (perform (.exec code)) world) := by
  refine meets_of_answer nofun calm (exec_balances code) (made_of_text rfl fun text => ?_)
  refine madeWith_of_act rfl fun _ => ?_
  simp only [Call.work, map_eq_pure_bind, bind_assoc]

theorem eval_meets (calm : world.Calm owed) (logs : world.Logs log) (code : Bytes) :
    Call.Meets (.eval code) log world (Act.on (perform (.eval code)) world) := by
  have same : eval code = registered (argumentText code >>= fun code =>
      Bridge.session >>= fun _ => Bridge.eval code) := by
    simp only [eval, registered, bind_assoc]
  rw [perform, same]
  refine meets_of_found some nofun calm logs ?_ (made_of_text rfl fun text => ?_)
  · exact (argumentText_balances code).bind fun code => Bridge.session_balances.bind fun _ =>
      Bridge.eval_balances code
  · refine madeWith_of_act rfl fun _ => ?_
    simp only [Call.work, map_eq_pure_bind, bind_assoc]
    rfl

theorem importModule_meets (calm : world.Calm owed) (logs : world.Logs log) (name : Bytes) :
    Call.Meets (.importModule name) log world (Act.on (perform (.importModule name)) world) := by
  have same : importModule name = registered (argumentText name >>= fun name =>
      Bridge.session >>= fun _ => Bridge.importModule name) := by
    simp only [importModule, registered, bind_assoc]
  rw [perform, same]
  refine meets_of_found some nofun calm logs ?_ (made_of_text rfl fun text => ?_)
  · exact (argumentText_balances name).bind fun name => Bridge.session_balances.bind fun _ =>
      Bridge.importModule_balances name
  · refine madeWith_of_act rfl fun _ => ?_
    simp only [Call.work, map_eq_pure_bind, bind_assoc]
    rfl

/-- The object that a document is built as. -/
def buildDocument (text : String) : Bridge Handle :=
  match Json.read text with
  | .error fault => throw (.invalidArgument ("JSON: " ++ fault.message))
  | .ok json => do
    let _ ← Bridge.session
    Bridge.build (.ofJson json)

theorem fromJson_meets (calm : world.Calm owed) (logs : world.Logs log) (text : Bytes) :
    Call.Meets (.fromJson text) log world (Act.on (perform (.fromJson text)) world) := by
  have same : fromJson text = registered (argumentText text >>= buildDocument) := by
    simp only [fromJson, registered, bind_assoc]
    congr 1
    funext text
    unfold buildDocument
    cases Json.read text with
    | error fault => rfl
    | ok json => simp only [bind_assoc]
  rw [perform, same]
  refine meets_of_found some nofun calm logs ?_ (made_of_text rfl fun text => ?_)
  · refine (argumentText_balances text).bind fun text => ?_
    unfold buildDocument
    split
    · exact .throw _
    · refine Bridge.session_balances.bind fun _ => Bridge.build_balances ?_
      rw [Value.objects_ofJson]
      exact List.nil_subset _
  · refine madeWith_of_act rfl fun _ => ?_
    rw [Call.work]
    unfold buildDocument
    cases Json.read text with
    | error fault => rfl
    | ok json =>
      simp only [map_eq_pure_bind, bind_assoc]
      rfl

/-! Calls that name integers. -/

/-- A call that looks at the object of one integer. -/
theorem meets_of_look {object : Int} {look : Handle → Bridge α} {success : α → Answer}
    (ordinary : call ≠ .lastError) (calm : world.Calm owed) (logs : world.Logs log)
    (looks : ∀ handle, Bridge.Balances World.Steady [handle] [] (look handle) fun _ => [])
    (read : call.text = .ok "") (named : call.ids = .ok [object])
    (work : ∀ objectOf, call.work "" objectOf =
      (fun value => Made.answer (success value)) <$> look (objectOf object)) :
    call.Meets log world (Act.on (answer success call.failure (withObject object look)) world) := by
  have cleared : world.cleared.Logs log := logs
  refine meets_of_answer ordinary calm (withObject_balances object looks) ?_
  exact made_of_none read (madeWith_of_object cleared named work)

theorem getAttribute_meets (calm : world.Calm owed) (logs : world.Logs log) (object : Int)
    (name : Bytes) : Call.Meets (.getAttribute object name) log world
      (Act.on (perform (.getAttribute object name)) world) := by
  have same : getAttribute object name = ((argumentText name >>= fun name =>
      withObject object fun handle => ExceptT.lift (Bridge.getAttribute handle name)) >>= fun found =>
        match found with
        | some handle => Bridge.register handle
        | none => return 0) := by
    rw [getAttribute, bind_assoc]
    rfl
  rw [perform, same]
  refine meets_of_found id nofun calm logs ?_ (made_of_text rfl fun text => ?_)
  · exact (argumentText_balances name).bind fun name => withObject_balances object fun handle =>
      .lift (Bridge.getAttribute_balances handle name)
  · refine madeWith_of_object logs rfl fun objectOf => ?_
    rw [Call.work, map_eq_pure_bind]
    congr 1
    funext found
    cases found <;> rfl

theorem setAttribute_meets (calm : world.Calm owed) (logs : world.Logs log) (object : Int)
    (name : Bytes) (value : Int) : Call.Meets (.setAttribute object name value) log world
      (Act.on (perform (.setAttribute object name value)) world) := by
  have cleared : world.cleared.Logs log := logs
  refine meets_of_answer nofun calm (setAttribute_balances object name value)
    (made_of_text rfl fun text => ?_)
  rw [withObject_withObject cleared value object fun value handle =>
    Bridge.setAttribute handle text (.object value)]
  refine madeWith_eq rfl fun objectOf => ?_
  simp only [Call.work, map_eq_pure_bind]

theorem call_meets (calm : world.Calm owed) (logs : world.Logs log) (callable : Int)
    (arguments : Ids) (count : ℕ) : Call.Meets (.call callable arguments count) log world
      (Act.on (perform (.call callable arguments count)) world) := by
  have cleared : world.cleared.Logs log := logs
  have same : call callable arguments count = registered (argumentObjects arguments count >>=
      fun arguments => Bridge.thenRelease arguments <| withObject callable fun handle =>
        Bridge.callWith handle (arguments.map .object) []) := by
    simp only [call, registered, bind_assoc]
  rw [perform, same]
  refine meets_of_found some nofun calm logs ?_ (made_of_none rfl ?_)
  · refine (argumentObjects_balances arguments count).bind fun arguments => ?_
    refine .thenRelease arguments <| withObject_balances callable fun handle => ?_
    exact Bridge.callWith_balances handle (objects_subset (by simp)) (List.forall_mem_nil _)
  · refine madeWith_of_arguments logs rfl fun objectOf => ?_
    simp only [Call.work, map_eq_pure_bind]
    rfl

theorem invoke_meets (calm : world.Calm owed) (logs : world.Logs log) (object : Int)
    (method : Bytes) (arguments : Ids) (count : ℕ) :
    Call.Meets (.invoke object method arguments count) log world
      (Act.on (perform (.invoke object method arguments count)) world) := by
  have same : invoke object method arguments count = registered (argumentText method >>=
      fun method => argumentObjects arguments count >>= fun arguments =>
        Bridge.thenRelease arguments <| withObject object fun handle =>
          Bridge.callMethod handle method (arguments.map .object) []) := by
    simp only [invoke, registered, bind_assoc]
  rw [perform, same]
  refine meets_of_found some nofun calm logs ?_ (made_of_text rfl fun text => ?_)
  · refine (argumentText_balances method).bind fun method => ?_
    refine (argumentObjects_balances arguments count).bind fun arguments => ?_
    refine .thenRelease arguments <| withObject_balances object fun handle => ?_
    exact Bridge.callMethod_balances handle method (objects_subset (by simp))
      (List.forall_mem_nil _)
  · refine madeWith_of_arguments logs rfl fun objectOf => ?_
    simp only [Call.work, map_eq_pure_bind]
    rfl

theorem isAbsent_meets (calm : world.Calm owed) (logs : world.Logs log) (object : Int) :
    Call.Meets (.isAbsent object) log world (Act.on (perform (.isAbsent object)) world) := by
  refine meets_of_look nofun calm logs (fun handle => ?_) rfl rfl fun objectOf => ?_
  · exact .get_bind fun _ => .pure (.refl _) (List.nil_subset _)
  · simp only [Call.work, map_eq_pure_bind, bind_assoc, pure_bind]

/-! Calls about the registry itself. -/

theorem init_meets (calm : world.Calm owed) :
    Call.Meets .init log world (Act.on (perform .init) world) := by
  obtain ⟨starting, _⟩ := @Bridge.start_balances [] world.cleared owed calm.cleared nofun
  have made : (Bridge.on Bridge.start world.cleared).1.map (fun _ => Made.opened) =
      Call.made log world.cleared .init :=
    made_of_none rfl (madeWith_of_act rfl fun _ => by simp only [Call.work, map_eq_pure_bind])
  have body := Bridge.on_bind_eq Bridge.start (fun _ => liftM Bridge.openRegistry) world.cleared
  generalize Bridge.on Bridge.start world.cleared = outcome at *
  obtain ⟨result, after⟩ := outcome
  have registry : after.registry = world.registry := starting.registry
  have quiet : after.lastError = none := starting.lastError
  refine meets_of_body nofun ?_ ?_ ?_
  · rw [init, body, Call.result, ← made]
    cases result <;> rfl
  · rw [init, body]
    cases result <;> exact quiet
  · rw [init, body, ← made, ← registry]
    cases result <;> rfl

theorem finalize_meets : Call.Meets .finalize log world (Act.on (perform .finalize) world) :=
  meets_of_body nofun rfl (Bridge.closeRegistry_lastError world.cleared)
    (Bridge.closeRegistry_registry world.cleared)

/-- An integer that has an object is taken back, and the reference of the registry is given back. -/
theorem drop_on (logs : world.Logs log) (id : Int) :
    Bridge.on (do Bridge.release (← Bridge.unregister id)) world = match IdLog.resolve log id with
      | .ok handle =>
        (.ok (), World.giveBack { world with registry := world.registry.map (Registry.erase id) } handle)
      | .error error => (.error error, world) := by
  rw [Bridge.on_bind_eq, Bridge.unregister_on]
  obtain ⟨machine, pending, held, overdrawn, session, registry, lastError, environment⟩ := world
  cases logs with
  | none => rfl
  | @some log table described =>
    simp only [IdLog.resolve, ← described.object]
    cases table.get? id <;> rfl

theorem drop_meets (logs : world.Logs log) (id : Int) :
    Call.Meets (.drop id) log world (Act.on (perform (.drop id)) world) := by
  have cleared : world.cleared.Logs log := logs
  have made : Call.made log world.cleared (.drop id) =
      (IdLog.resolve log id).map fun _ => .dropped id := by
    change ([id].mapM (IdLog.resolve log) >>= fun handles =>
      (Bridge.on (pure (Made.dropped id)) (world.cleared.owning handles)).1) = _
    rw [List.mapM_cons, List.mapM_nil]
    cases IdLog.resolve log id <;> rfl
  have body := drop_on cleared id
  cases found : IdLog.resolve log id with
  | error error =>
    rw [found] at made body
    refine meets_of_body nofun ?_ ?_ ?_
    · rw [body, Call.result, made]
      rfl
    · rw [body]
      rfl
    · rw [body, made]
      rfl
  | ok handle =>
    rw [found] at made body
    obtain ⟨held, overdrawn, back⟩ := World.foldl_giveBack [handle]
      { world.cleared with registry := world.cleared.registry.map (Registry.erase id) }
    simp only [List.foldl_cons, List.foldl_nil] at back
    simp only [back] at body
    refine meets_of_body nofun ?_ ?_ ?_
    · rw [body, Call.result, made]
      rfl
    · rw [body]
      rfl
    · rw [body, made]
      rfl

theorem handleCount_meets (logs : world.Logs log) :
    Call.Meets .handleCount log world (Act.on (perform .handleCount) world) := by
  have cleared : world.cleared.Logs log := logs
  have counted := Bridge.registered_on world.cleared
  refine meets_of_body nofun ?_ ?_ ?_
  · rw [Bridge.registered_of_logs cleared]
    change _ = Made.count.reply log
    rw [Made.reply]
    cases IdLog.registered log <;> rfl
  · rw [counted]
    cases world.cleared.registry <;> rfl
  · rw [counted]
    cases world.cleared.registry <;> rfl

/-- Every call is answered as its log says. -/
theorem perform_meets (calm : world.Calm owed) (logs : world.Logs log) (call : Call) :
    call.Meets log world (Act.on (perform call) world) := by
  cases call with
  | init => exact init_meets calm
  | finalize => exact finalize_meets
  | exec code => exact exec_meets calm code
  | eval code => exact eval_meets calm logs code
  | importModule name => exact importModule_meets calm logs name
  | getAttribute object name => exact getAttribute_meets calm logs object name
  | setAttribute object name value => exact setAttribute_meets calm logs object name value
  | call callable arguments count => exact call_meets calm logs callable arguments count
  | invoke object method arguments count =>
    exact invoke_meets calm logs object method arguments count
  | toStr object =>
    exact meets_of_look nofun calm logs (fun handle => Bridge.str_balances handle) rfl rfl fun _ => by
      simp only [Call.work, map_eq_pure_bind]
  | toRepr object =>
    exact meets_of_look nofun calm logs (fun handle => Bridge.repr_balances handle) rfl rfl fun _ => by
      simp only [Call.work, map_eq_pure_bind]
  | toJson object =>
    exact meets_of_look nofun calm logs (fun handle => Bridge.toJson_balances handle) rfl rfl fun _ => by
      simp only [Call.work, map_eq_pure_bind]
  | fromJson text => exact fromJson_meets calm logs text
  | isAbsent object => exact isAbsent_meets calm logs object
  | drop id => exact drop_meets logs id
  | handleCount => exact handleCount_meets logs
  | lastError => exact ⟨rfl, rfl⟩
  | clearLastError => exact ⟨rfl, rfl⟩

end CAbi

end ForeignBridge
