import ForeignBridge.Proofs.Bridge.Failures
import ForeignBridge.Proofs.Interface.Documents

/-! # Refused calls

A call may be refused because nothing has been started, because an integer stands for nothing, or because
an argument cannot be read. Most calls find that out before anything has run, and are then without effect:
what they took references to is given back, and only the text of the last error is new. But a call that
names no object, and makes one that it hands an integer out for, asks for the registry only when the
object is there. If there is no registry then, what has run for the object stays done.
-/

namespace ForeignBridge

open Foreign (Core Machine)

namespace World

/-- The registry, if it is open, has an integer left. -/
def HasRoom (world : World) : Prop := ∀ table ∈ world.registry, table.isFull = false

/-- The registry is open and has an integer left. -/
def TakesObjects (world : World) : Prop :=
  ∃ table, world.registry = some table ∧ table.isFull = false

variable {world : World}

theorem HasRoom.owning (room : world.HasRoom) (handles : List Handle) :
    (world.owning handles).HasRoom := by
  unfold HasRoom
  rw [registry_owning]
  exact room

/-- References that have been taken can be given back in any order. -/
theorem foldl_giveBack_append {handles more : List Handle} (held : List Handle)
    (same : more.Perm (handles.filter (!·.isNull))) :
    handles.foldl giveBack (world.withHeld (more ++ held)) = world.withHeld held := by
  induction handles generalizing more with
  | nil =>
    obtain rfl := List.perm_nil.mp same
    rfl
  | cons handle rest ih =>
    rw [List.foldl_cons]
    cases null : handle.isNull with
    | true =>
      have kept : (world.withHeld (more ++ held)).giveBack handle = world.withHeld (more ++ held) := by
        simp [giveBack, null]
      rw [kept]
      exact ih (by simpa [null] using same)
    | false =>
      have same : more.Perm (handle :: rest.filter (!·.isNull)) := by simpa [null] using same
      have member : handle ∈ more := same.mem_iff.mpr List.mem_cons_self
      have given : (world.withHeld (more ++ held)).giveBack handle =
          world.withHeld (more.erase handle ++ held) := by
        have seen : handle ∈ (world.withHeld (more ++ held)).held :=
          List.mem_append_left held member
        rw [giveBack, if_neg (by simp [null]), if_pos seen]
        exact congrArg world.withHeld (List.erase_append_left held member)
      rw [given]
      refine ih ?_
      have fewer := same.erase handle
      rwa [List.erase_cons_head] at fewer

/-- References that have been taken to some objects can be given back in the same order. -/
theorem foldl_giveBack_owning (world : World) (handles : List Handle) :
    handles.foldl giveBack (world.owning handles) = world := by
  have owned (handles : List Handle) (world : World) : world.owning handles =
      world.withHeld ((handles.filter (!·.isNull)).reverse ++ world.held) := by
    induction handles generalizing world with
    | nil => rfl
    | cons handle rest ih =>
      change (Act.on (Bridge.own handle) world).2.owning rest = _
      rw [Bridge.own_on, ih]
      cases null : handle.isNull <;> simp [null, withHeld]
  rw [owned, foldl_giveBack_append world.held (List.reverse_perm _)]
  rfl

end World

variable {α β : Type}

/-- An act that changes nothing if it refuses. -/
def Bridge.Declines (act : Bridge α) : Prop :=
  ∀ world error, world.HasRoom → (act.on world).1 = .error error → error.isRefusal = true →
    (act.on world).2 = world

/-- An act that comes to something only while the registry is open. -/
def Bridge.Opened (act : Bridge α) : Prop :=
  ∀ world value after, world.HasRoom → act.on world = (.ok value, after) → after.TakesObjects

namespace Bridge

theorem Accepts.declines {act : Bridge α} (accepts : Accepts act) : Declines act :=
  fun world error _ failed refused => absurd refused (by simp [accepts world error failed])

namespace Declines

/-- What is only made something of declines as before. -/
theorem map {act : Bridge α} (declines : Declines act) (become : α → β) :
    Declines (do return become (← act)) := by
  intro world error room failed refused
  have still := declines world
  rw [on_bind_eq] at failed ⊢
  generalize act.on world = outcome at *
  obtain ⟨result, after⟩ := outcome
  cases result with
  | ok value => cases failed
  | error first =>
    obtain rfl := Except.error.inj failed
    exact still first room rfl refused

/-- What follows a look that changes nothing. -/
theorem after {first : Bridge α} {next : α → Bridge β}
    (looks : ∀ world, (first.on world).2 = world) (tail : ∀ value, Declines (next value)) :
    Declines (first >>= next) := by
  intro world error room failed refused
  have same := looks world
  rw [on_bind_eq] at failed ⊢
  generalize first.on world = outcome at *
  obtain ⟨result, after⟩ := outcome
  obtain rfl : after = world := same
  cases result with
  | ok value => exact tail value after error room failed refused
  | error first => rfl

/-- What follows something that needs the registry may hand out integers. -/
theorem thenOpened {first : Bridge α} {next : α → Bridge β} (declines : Declines first)
    (opened : Opened first)
    (tail : ∀ value world error, world.TakesObjects → ((next value).on world).1 = .error error →
      error.isRefusal = false) : Declines (first >>= next) := by
  intro world error room failed refused
  have still := declines world
  have takes := opened world
  rw [on_bind_eq] at failed ⊢
  generalize first.on world = outcome at *
  obtain ⟨result, after⟩ := outcome
  cases result with
  | ok value =>
    exact absurd refused (by simp [tail value after error (takes value after room rfl) failed])
  | error first =>
    obtain rfl := Except.error.inj failed
    exact still first room rfl refused

end Declines

/-- There is an integer left for an object. -/
theorem register_accepts {world : World} {handle : Handle} {error : BridgeError}
    (takes : world.TakesObjects) (failed : (Bridge.on (register handle) world).1 = .error error) :
    error.isRefusal = false := by
  obtain ⟨table, opened, room⟩ := takes
  rw [register_on, opened] at failed
  simp only [room, Bool.false_eq_true, ↓reduceIte] at failed
  cases failed

/-- Objects that are looked up are held, or nothing has changed. -/
theorem resolveAll_cases (ids : List ℤ) (world : World) :
    (∃ handles, Bridge.on (resolveAll ids) world = (.ok handles, world.owning handles)) ∨
      ∃ error, Bridge.on (resolveAll ids) world = (.error error, world) := by
  induction ids generalizing world with
  | nil => exact .inl ⟨[], rfl⟩
  | cons id rest ih =>
    rw [resolveAll, on_bind_eq, resolve_on]
    cases world.registry with
    | none => exact .inr ⟨_, rfl⟩
    | some table =>
      simp only
      cases table.get? id with
      | none => exact .inr ⟨_, rfl⟩
      | some handle =>
        change (∃ handles, Bridge.on _ (world.owning [handle]) = _) ∨
          ∃ error, Bridge.on _ (world.owning [handle]) = _
        rw [on_bind_eq, elseRelease_on]
        obtain ⟨handles, looked⟩ | ⟨error, looked⟩ := ih (world.owning [handle])
        · refine .inl ⟨handle :: handles, ?_⟩
          rw [looked]
          rfl
        · refine .inr ⟨error, ?_⟩
          rw [looked]
          exact congrArg _ (world.giveBack_owning handle)

end Bridge

namespace CAbi

open Bridge (Accepts Declines Opened)

/-- What comes of a look at the object of an integer. -/
theorem withObject_cases (id : ℤ) (look : Handle → Bridge α) (world : World) :
    (∃ error, Bridge.on (withObject id look) world = (.error error, world)) ∨
      ∃ table handle, world.registry = some table ∧ Bridge.on (withObject id look) world =
        (((look handle).on (world.owning [handle])).1,
          ((look handle).on (world.owning [handle])).2.giveBack handle) := by
  cases opened : world.registry with
  | none => exact .inl ⟨.notInitialized, by rw [withObject, Bridge.on_bind_eq, Bridge.resolve_on, opened]⟩
  | some table =>
    cases found : table.get? id with
    | none =>
      refine .inl ⟨.invalidHandle id, ?_⟩
      rw [withObject, Bridge.on_bind_eq, Bridge.resolve_on, opened]
      simp only [found]
    | some handle => exact .inr ⟨table, handle, rfl, withObject_on look opened found⟩

theorem withObject_declines {look : Handle → Bridge α} (id : ℤ)
    (looks : ∀ handle, Declines (look handle)) : Declines (withObject id look) := by
  intro world error room failed refused
  obtain ⟨first, same⟩ | ⟨table, handle, -, same⟩ := withObject_cases id look world
  · rw [same]
  · rw [same] at failed ⊢
    have still := looks handle (world.owning [handle]) error (room.owning [handle]) failed refused
    exact (congrArg (·.giveBack handle) still).trans (world.giveBack_owning handle)

/-- A look at an object that leaves the registry alone. -/
theorem withObject_opened {look : Handle → Bridge α} (id : ℤ)
    (looks : ∀ handle, Bridge.Quiet World.Steady (look handle)) : Opened (withObject id look) := by
  intro world value after room step
  obtain ⟨error, same⟩ | ⟨table, handle, opened, same⟩ := withObject_cases id look world
  · rw [same] at step
    cases step
  · rw [same] at step
    have kept : after.registry = world.registry := by
      have steady : World.Steady _ ((look handle).on (world.owning [handle])).2 :=
        ((looks handle).1 (world.owning [handle])).1
      obtain ⟨held, overdrawn, given⟩ := World.foldl_giveBack [handle]
        ((look handle).on (world.owning [handle])).2
      have last : after = _ := (congrArg Prod.snd step).symm.trans given
      rw [last]
      exact steady.registry.trans (world.registry_owning [handle])
    exact ⟨table, kept.trans opened, room table opened⟩

theorem argumentText_looks (bytes : Bytes) (world : World) :
    (Bridge.on (argumentText bytes) world).2 = world := by
  unfold argumentText
  cases readText bytes <;> rfl

theorem session_looks (world : World) : (Bridge.on Bridge.session world).2 = world := by
  rw [Bridge.session, Bridge.on_bind _ (Bridge.on_get world)]
  cases world.session <;> rfl

/-- What is called with the objects of an array, and with that of an integer, gets an integer for its
result. -/
theorem called_declines {look : List Handle → Handle → Bridge Handle} (arguments : Ids) (count : ℕ)
    (id : ℤ) (accepts : ∀ handles handle, Accepts (look handles handle))
    (quiet : ∀ handles handle, Bridge.Quiet World.Steady (look handles handle)) :
    Declines (do
      let handles ← argumentObjects arguments count
      registered (Bridge.thenRelease handles (withObject id (look handles)))) := by
  intro world error room failed refused
  cases read : readIds arguments count with
  | error first =>
    rw [argumentObjects, read]
    rfl
  | ok ids =>
    have looked : Bridge.on (argumentObjects arguments count) world =
        Bridge.on (Bridge.resolveAll ids) world := by
      rw [argumentObjects, read]
      rfl
    rw [Bridge.on_bind_eq, looked] at failed ⊢
    obtain ⟨handles, held⟩ | ⟨first, held⟩ := Bridge.resolveAll_cases ids world
    · rw [held] at failed ⊢
      have declines := withObject_declines id fun handle => (accepts handles handle).declines
      have opened := withObject_opened id (quiet handles)
      simp only [registered] at failed ⊢
      rw [Bridge.on_bind_eq, Bridge.thenRelease_on] at failed ⊢
      cases step : Bridge.on (withObject id (look handles)) (world.owning handles) with
      | mk result after =>
        rw [step] at failed
        cases result with
        | ok value =>
          -- The registry is open, so an integer is there for the result.
          have takes := opened _ value after (room.owning handles) step
          obtain ⟨held, overdrawn, given⟩ := World.foldl_giveBack handles after
          have takes : (handles.foldl World.giveBack after).TakesObjects := by
            rw [given]
            exact takes
          exact absurd refused (by simp [Bridge.register_accepts takes failed])
        | error first =>
          obtain rfl := Except.error.inj failed
          have still := declines _ first (room.owning handles) (by rw [step]) refused
          rw [step] at still
          obtain rfl : after = world.owning handles := still
          exact world.foldl_giveBack_owning handles
    · rw [held]

/-! Calls. -/

/-- What a call makes an object by that names none. -/
inductive Call.Makes : Call → Bridge Handle → Prop where
  | eval {code : Bytes} {text : String} (read : readText code = .ok text) :
    Makes (.eval code) (Bridge.eval text)
  | importModule {name : Bytes} {text : String} (read : readText name = .ok text) :
    Makes (.importModule name) (Bridge.importModule text)
  | fromJson {bytes : Bytes} {text : String} {document : Json} (read : readText bytes = .ok text)
    (parsed : Json.read text = .ok document) :
    Makes (.fromJson bytes) (Bridge.build (.ofJson document))

/-- That a call makes an object before it finds that there is no registry. -/
structure Call.MadeInVain (call : Call) (world : World) (work : Bridge Handle) (handle : Handle)
    (after : World) : Prop where
  makes : call.Makes work
  running : ∃ session, world.session = some session
  closed : world.registry = none
  made : work.on world.cleared = (.ok handle, after)

variable {call : Call} {work : Bridge Handle}

theorem Call.Makes.accepts (makes : call.Makes work) : Accepts work := by
  cases makes with
  | eval read => exact Bridge.eval_accepts _
  | importModule read => exact Bridge.importModule_accepts _
  | fromJson read parsed => exact Bridge.build_accepts _

theorem Call.Makes.quiet (makes : call.Makes work) : Bridge.Quiet World.Steady work := by
  cases makes with
  | eval read => exact Bridge.eval_quiet _
  | importModule read => exact Bridge.importModule_quiet _
  | fromJson read parsed => exact Bridge.build_quiet _

/-- An integer for an object that is made in a world of a session. -/
theorem Call.Makes.operation_on {world : World} {session : Session} (makes : call.Makes work)
    (running : world.session = some session) :
    Bridge.on call.operation world = Bridge.on (do return .object (← registered work)) world := by
  have session := Bridge.session_on running
  have text {bytes : Bytes} {text : String} (read : readText bytes = .ok text) :
      Bridge.on (argumentText bytes) world = (.ok text, world) := by
    rw [argumentText, read]
    rfl
  cases makes with
  | eval read =>
    rw [Call.operation, CAbi.eval, bind_assoc, Bridge.on_bind _ (text read), bind_assoc,
      Bridge.on_bind _ session]
  | importModule read =>
    rw [Call.operation, CAbi.importModule, bind_assoc, Bridge.on_bind _ (text read), bind_assoc,
      Bridge.on_bind _ session]
  | fromJson read parsed =>
    rw [Call.operation, CAbi.fromJson, bind_assoc, Bridge.on_bind _ (text read), parsed]
    simp only
    rw [bind_assoc, Bridge.on_bind _ session]

/-- Without a registry the object that has been made is let go again. -/
theorem Call.MadeInVain.operation_on {world after : World} {handle : Handle}
    (vain : call.MadeInVain world work handle after) :
    Bridge.on call.operation world.cleared = (.error .notInitialized, after.giveBack handle) := by
  obtain ⟨session, running⟩ := vain.running
  have steady : World.Steady _ (work.on world.cleared).2 := (vain.makes.quiet.1 world.cleared).1
  rw [vain.made] at steady
  have closed : after.registry = none := steady.registry.trans vain.closed
  rw [@Call.Makes.operation_on call work world.cleared session vain.makes running, registered,
    Bridge.on_bind_eq, Bridge.on_bind _ vain.made, Bridge.register_on, closed]

/-- A call that makes an object is refused only for want of a registry, once the session is there. -/
theorem Call.Makes.refused {world : World} {session : Session} {error : BridgeError}
    (makes : call.Makes work) (running : world.session = some session) (room : world.HasRoom)
    (failed : (Bridge.on call.operation world.cleared).1 = .error error)
    (refused : error.isRefusal = true) :
    error = .notInitialized ∧ ∃ handle after, call.MadeInVain world work handle after := by
  have operation := @Call.Makes.operation_on call work world.cleared session makes running
  have steady : World.Steady _ (work.on world.cleared).2 := (makes.quiet.1 world.cleared).1
  have accepts := makes.accepts world.cleared
  rw [operation, registered, Bridge.on_bind_eq, Bridge.on_bind_eq] at failed
  cases made : work.on world.cleared with
  | mk result after =>
    rw [made] at failed steady accepts
    cases result with
    | error first =>
      obtain rfl := Except.error.inj failed
      exact absurd refused (by simp [accepts first rfl])
    | ok handle =>
      cases closed : world.registry with
      | none =>
        have vain : call.MadeInVain world work handle after := ⟨makes, ⟨session, running⟩, closed, made⟩
        have kept : after.registry = none := steady.registry.trans closed
        simp only [Bridge.register_on, kept] at failed
        exact ⟨(Except.error.inj failed).symm, handle, after, vain⟩
      | some table =>
        have takes : after.TakesObjects := ⟨table, steady.registry.trans closed, room table closed⟩
        simp only at failed
        cases registered : Bridge.on (Bridge.register handle) after with
        | mk result last =>
          rw [registered] at failed
          cases result with
          | ok id => cases failed
          | error first =>
            obtain rfl := Except.error.inj failed
            have fine := @Bridge.register_accepts after handle first takes (by rw [registered])
            exact absurd refused (by simp [fine])

/-- What needs a text changes nothing if that cannot be read. -/
theorem argumentText_then (bytes : Bytes) (next : String → Bridge α) (world : World) :
    (Bridge.on (argumentText bytes >>= next) world).2 = world ∨ ∃ text, readText bytes = .ok text ∧
      Bridge.on (argumentText bytes >>= next) world = Bridge.on (next text) world := by
  rw [argumentText]
  cases readText bytes with
  | error error => exact .inl rfl
  | ok text => exact .inr ⟨text, rfl, rfl⟩

/-- What needs a session changes nothing if there is none. -/
theorem session_then (next : Session → Bridge α) (world : World) :
    (Bridge.on (Bridge.session >>= next) world).2 = world ∨
      ∃ session, world.session = some session := by
  cases running : world.session with
  | some session => exact .inr ⟨session, rfl⟩
  | none =>
    refine .inl ?_
    rw [Bridge.session, bind_assoc, Bridge.on_bind _ (Bridge.on_get world), running]
    rfl

theorem toJson_declines (handle : Handle) : Declines (Bridge.toJson handle) := by
  rw [Bridge.toJson, Bridge.valueOf, bind_assoc]
  refine .after session_looks fun session => Accepts.declines ?_
  refine (Bridge.readWith_accepts session handle).bind fun value => .thenRelease _ ?_
  refine .get_bind fun world => ?_
  cases made : value.toJson world.typeName with
  | ok json => exact .pure json
  | error error =>
    obtain ⟨what, rfl⟩ := Value.error_of_toJson made
    exact .throw rfl

theorem drop_declines (id : ℤ) : Declines (Call.drop id).operation := by
  intro world error _ failed _
  rw [Call.operation, Bridge.on_bind_eq, Bridge.unregister_on] at failed ⊢
  cases opened : world.registry with
  | none => rfl
  | some table =>
    rw [opened] at failed
    cases found : table.get? id with
    | none => simp only [found]
    | some handle =>
      simp only [found] at failed
      cases failed

theorem registered_declines : Declines Bridge.registered := by
  intro world error _ _ _
  rw [Bridge.registered_on]
  cases world.registry <;> rfl

/-- The start of the interpreter refuses nothing. -/
theorem init_accepts : Accepts init := Bridge.start_accepts.bind fun _ => .lift _

/-- A call that is refused changes nothing but the last error, or has made an object in vain. -/
theorem operation_of_refused {world : World} {error : BridgeError} (room : world.HasRoom)
    (failed : (Bridge.on call.operation world.cleared).1 = .error error)
    (refused : error.isRefusal = true) :
    (Bridge.on call.operation world.cleared).2 = world.cleared ∨ error = .notInitialized ∧
      ∃ work handle after, call.MadeInVain world work handle after := by
  have early (declines : Declines call.operation) :
      (Bridge.on call.operation world.cleared).2 = world.cleared :=
    declines world.cleared error room failed refused
  -- A call that makes an object has one to make once its text is read and the session is there.
  have late {work : Bridge Handle} {session : Session} (running : world.session = some session)
      (makes : call.Makes work) : error = .notInitialized ∧
        ∃ work handle after, call.MadeInVain world work handle after := by
    obtain ⟨same, vain⟩ := makes.refused running room failed refused
    exact ⟨same, work, vain⟩
  cases call with
  | init => exact .inl (early (init_accepts.declines.map _))
  | finalize => exact .inl (early ((Accepts.lift _).declines.map _))
  | exec code =>
    refine .inl (early (Declines.map ?_ _))
    exact .after (argumentText_looks code) fun code => .after session_looks fun _ =>
      (Bridge.run_accepts code).declines
  | eval code =>
    rw [Call.operation, CAbi.eval, bind_assoc]
    obtain same | ⟨text, read, step⟩ := argumentText_then code _ world.cleared
    · exact .inl same
    · rw [step, bind_assoc]
      exact (session_then _ world.cleared).imp_right fun found =>
        found.elim fun _ running => late running (.eval read)
  | importModule name =>
    rw [Call.operation, CAbi.importModule, bind_assoc]
    obtain same | ⟨text, read, step⟩ := argumentText_then name _ world.cleared
    · exact .inl same
    · rw [step, bind_assoc]
      exact (session_then _ world.cleared).imp_right fun found =>
        found.elim fun _ running => late running (.importModule read)
  | getAttribute object name =>
    refine .inl (early (.after (argumentText_looks name) fun name => ?_))
    refine .thenOpened (withObject_declines object fun _ => (Accepts.lift _).declines)
      (withObject_opened object fun handle => .lift (Bridge.getAttribute_quiet handle name)) ?_
    intro found world error takes failed
    cases found with
    | none => cases failed
    | some handle =>
      rw [Bridge.on_bind_eq] at failed
      obtain ⟨table, opened, left⟩ := takes
      simp only [Bridge.register_on, opened, left, Bool.false_eq_true, ↓reduceIte] at failed
      cases failed
  | setAttribute object name value =>
    refine .inl (early (Declines.map ?_ _))
    exact .after (argumentText_looks name) fun name => withObject_declines value fun value =>
      withObject_declines object fun handle => (Bridge.setAttribute_accepts handle name _).declines
  | call callable arguments count =>
    refine .inl (early (Declines.map ?_ _))
    exact called_declines arguments count callable
      (fun handles handle => Bridge.callWith_accepts handle (handles.map .object) [])
      fun handles handle => Bridge.callWith_quiet handle (handles.map .object) []
  | invoke object method arguments count =>
    refine .inl (early (Declines.map (.after (argumentText_looks method) fun method => ?_) _))
    exact called_declines arguments count object
      (fun handles handle => Bridge.callMethod_accepts handle method (handles.map .object) [])
      fun handles handle => Bridge.callMethod_quiet handle method (handles.map .object) []
  | toStr object =>
    exact .inl (early ((withObject_declines object fun handle =>
      (Bridge.str_accepts handle).declines).map _))
  | toRepr object =>
    exact .inl (early ((withObject_declines object fun handle =>
      (Bridge.repr_accepts handle).declines).map _))
  | toJson object =>
    refine .inl (early ((withObject_declines object fun handle => ?_).map _))
    exact toJson_declines handle
  | fromJson bytes =>
    rw [Call.operation, CAbi.fromJson, bind_assoc]
    obtain same | ⟨text, read, step⟩ := argumentText_then bytes _ world.cleared
    · exact .inl same
    · rw [step]
      cases parsed : Json.read text with
      | error fault => exact .inl rfl
      | ok document =>
        simp only
        rw [bind_assoc]
        exact (session_then _ world.cleared).imp_right fun found =>
          found.elim fun _ running => late running (.fromJson read parsed)
  | isAbsent object =>
    exact .inl (early ((withObject_declines object fun handle =>
      (Accepts.get_bind fun _ => .pure _).declines).map _))
  | drop id => exact .inl (early (drop_declines id))
  | handleCount => exact .inl (early (registered_declines.map _))
  | lastError | clearLastError => cases failed

/-- A call that is refused while integers are left leaves everything but the last error as it was, in
any world, or it has made an object in vain; then everything that was done for the object stays done. -/
theorem perform_of_refused (call : Call) (world : World) :
    (∀ error, world.HasRoom → (Bridge.on call.operation world.cleared).1 = .error error →
      error.isRefusal = true →
      Act.on (perform call) world =
          (call.failure, { world with lastError := some (spellNuls error.display) }) ∨
        error = .notInitialized ∧ ∃ work handle after, call.MadeInVain world work handle after) ∧
    ∀ work handle after, call.MadeInVain world work handle after →
      Act.on (perform call) world = (call.failure, { after.giveBack handle with
        lastError := some (spellNuls BridgeError.notInitialized.display) }) := by
  constructor
  · intro error room failed refused
    have other : call.isAboutError = false := by
      cases call with
      | lastError | clearLastError => cases failed
      | _ => rfl
    refine (operation_of_refused room failed refused).imp_left fun same => ?_
    rw [perform_on other, answer_on]
    generalize Bridge.on call.operation world.cleared = outcome at *
    obtain ⟨result, after⟩ := outcome
    obtain rfl : result = .error error := failed
    obtain rfl : after = world.cleared := same
    rfl
  · intro work handle after vain
    have other : call.isAboutError = false := by
      obtain ⟨makes⟩ := vain
      cases makes <;> rfl
    rw [perform_on other, answer_on, vain.operation_on]

/-- An integer that stands for nothing, and a document for which no integer can be handed out: the object
that has been built for it is one more in memory. -/
theorem perform_of_refused_toStr_fromJson :
    let world := { World.ofMachine Machine.bare ⟨none, none⟩ with session := some .ofFixed }
    let opened := { world with registry := some .empty }
    Act.on (perform (.toStr 7)) opened =
        (.text "", { opened with lastError := some "Invalid handle: 7" }) ∧
      ∃ after, Act.on (perform (.fromJson (some (Value.bytes "[]")))) world = (.number 0, after) ∧
        after.lastError =
          some "Interpreter not initialized. Call Session::initialize() first." ∧
        after.machine.heap.cells.size = world.machine.heap.cells.size + 1 := by
  intro world opened
  constructor
  · have room : opened.HasRoom := by
      rintro _ ⟨rfl⟩
      rfl
    have refused := (perform_of_refused (.toStr 7) opened).1 (.invalidHandle 7) room rfl rfl
    obtain without | ⟨other, -⟩ := refused
    · exact without
    · cases other
  · obtain ⟨handle, built, made, -, -, -, size⟩ := Bridge.made_new .list (.list []) world.cleared
    have step : Bridge.on (Bridge.build (.ofJson (.array []))) world.cleared = (.ok handle, built) := by
      rw [Value.ofJson, Value.ofItems, Bridge.build]
      exact (Bridge.on_bind _ made).trans (Bridge.on_bind _ (Bridge.elseRelease_on_ok rfl))
    have makes : (Call.fromJson (some (Value.bytes "[]"))).Makes (Bridge.build (.ofJson (.array []))) :=
      .fromJson (readText_bytes (by decide)) rfl
    have refused := (perform_of_refused _ world).2 _ handle built ⟨makes, ⟨.ofFixed, rfl⟩, rfl, step⟩
    obtain ⟨held, overdrawn, given⟩ := World.foldl_giveBack [handle] built
    have given : built.giveBack handle = { built with held, overdrawn } := given
    rw [given] at refused
    exact ⟨_, refused, rfl, size⟩

end CAbi

end ForeignBridge
