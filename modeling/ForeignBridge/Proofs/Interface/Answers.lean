import ForeignBridge.Proofs.Ids.Calls
import ForeignBridge.Proofs.Ownership.Reachable
import ForeignBridge.Proofs.Pending.Interface
import ForeignBridge.Proofs.Text.Without
import Mathlib.Data.List.TakeWhile

/-! # Answers and the last error

A caller that has only numbers and texts tells from the answer to a call, and from the last error after
it, what the operation of the call has come to: an object, nothing, a text or a failure. The text of
the last error is never empty and never cut short, since every error has words and null characters are
spelt out in them.
-/

namespace ForeignBridge

open World (Serving)

/-! Words of errors. -/

namespace BridgeError

theorem Told.display_ne_empty {error : BridgeError} (told : error.Told) : error.display ≠ "" := by
  have said := told.message_ne_empty
  unfold display
  split
  · exact said
  · split
    · exact said
    · intro empty
      exact said (String.append_eq_empty_iff.mp (String.append_eq_empty_iff.mp empty).1).1

end BridgeError

namespace CAbi

/-- What the operation of a call comes to. -/
inductive Outcome where
  | done
  /-- There is no such attribute. -/
  | absent
  /-- An object, for which an integer has been handed out. -/
  | object (id : ℤ)
  | text (text : String)
  | truth (value : Bool)
  | count (count : ℕ)

namespace Call

/-- The operation of a call, without what is made of its outcome for the caller. -/
def operation : Call → Bridge Outcome
  | init => do
    CAbi.init
    return .done
  | finalize => do
    Bridge.closeRegistry
    return .done
  | exec code => do
    CAbi.exec code
    return .done
  | eval code => do return .object (← CAbi.eval code)
  | importModule name => do return .object (← CAbi.importModule name)
  | getAttribute object name => do
    let name ← argumentText name
    match ← withObject object fun handle => Bridge.getAttribute handle name with
    | some handle => return .object (← Bridge.register handle)
    | none => return .absent
  | setAttribute object name value => do
    CAbi.setAttribute object name value
    return .done
  | call callable arguments count => do return .object (← CAbi.call callable arguments count)
  | invoke object method arguments count => do
    return .object (← CAbi.invoke object method arguments count)
  | toStr object => do return .text (← withObject object Bridge.str)
  | toRepr object => do return .text (← withObject object Bridge.repr)
  | toJson object => do return .text (Json.write (← withObject object Bridge.toJson))
  | fromJson text => do return .object (← CAbi.fromJson text)
  | isAbsent object => do
    return .truth (← withObject object fun handle => return (← get).isAbsent handle)
  | drop id => do
    Bridge.release (← Bridge.unregister id)
    return .done
  | handleCount => do return .count (← Bridge.registered)
  | lastError | clearLastError => return .done

/-- What the answer to a call is about. -/
inductive Topic where
  | object
  | status
  | text
  | nothing
deriving DecidableEq

/-- What the answer to a call is about. -/
def topic : Call → Topic
  | eval _ | importModule _ | getAttribute .. | call .. | invoke .. | fromJson _ => .object
  | init | exec _ | setAttribute .. | isAbsent _ | handleCount => .status
  | toStr _ | toRepr _ | toJson _ => .text
  | finalize | drop _ | lastError | clearLastError => .nothing

/-- Whether a call asks for the last error itself, or has it forgotten. -/
def isAboutError : Call → Bool
  | lastError | clearLastError => true
  | _ => false

/-- Whether a call looks for an attribute. -/
def looksUp : Call → Bool
  | getAttribute .. => true
  | _ => false

/-- The answer to a call whose operation has not failed. -/
def success (call : Call) (outcome : Outcome) : Answer :=
  match call.topic, outcome with
  | .nothing, _ => .none
  | _, .done | _, .absent => .number 0
  | _, .object id => .number id
  | _, .text text => .text (cutAtNul text)
  | _, .truth value => .number (if value then 1 else 0)
  | _, .count count => .number count

/-- That an answer and the text of the last error tell what an operation has come to. -/
structure Tells (call : Call) (result : Except BridgeError Outcome) (answer lastError : Answer) :
    Prop where
  /-- There is a last error just when the operation has failed. -/
  failed : lastError ≠ .none ↔ ∃ error, result = .error error
  /-- The last error is all of the text of the error, with null characters spelt out. -/
  error : ∀ error, result = .error error → lastError = .text (spellNuls error.display) ∧
    spellNuls error.display ≠ "" ∧ cutAtNul (spellNuls error.display) = spellNuls error.display
  /-- An integer is zero just when there is no object, and positive otherwise. -/
  object : call.topic = .object → ∃ id, answer = .number id ∧
    (id = 0 ↔ (∃ error, result = .error error) ∨ call.looksUp = true ∧ result = .ok .absent) ∧
    (id ≠ 0 → 0 < id ∧ result = .ok (.object id))
  /-- A status is -1 just when the operation has failed. -/
  status : call.topic = .status → ∃ status, answer = .number status ∧
    (status = -1 ↔ ∃ error, result = .error error) ∧ (status ≠ -1 → 0 ≤ status)
  /-- A text is empty when the operation has failed, and is cut at its first null character
  otherwise. -/
  text : call.topic = .text → (∃ error, result = .error error) ∧ answer = .text "" ∨
    ∃ text, result = .ok (.text text) ∧ answer = .text (cutAtNul text)

/-- What the operation of a call may come to if it does not fail. -/
def Fits (call : Call) : Outcome → Prop
  | .object id => call.topic = .object ∧ 0 < id
  | .absent => call.looksUp = true
  | .text _ => call.topic = .text
  | .done | .truth _ | .count _ => call.topic = .status ∨ call.topic = .nothing

end Call

/-- What something comes to in a world in which integers are positive, if it does not fail. -/
def Yields {α : Type} (fits : α → Prop) (act : Bridge α) : Prop :=
  ∀ world value, world.Numbered → (act.on world).1 = .ok value → fits value

namespace Yields

variable {α β : Type} {fits : β → Prop}

theorem pure {value : β} (holds : fits value) : Yields fits (pure value) :=
  fun _ _ _ same => Except.ok.inj same ▸ holds

theorem throw (error : BridgeError) : Yields fits (throw error : Bridge β) :=
  fun _ _ _ same => nomatch same

theorem bind {first : Bridge α} {next : α → Bridge β} (quiet : Bridge.Quiet Serving first)
    (tail : ∀ value, Yields fits (next value)) : Yields fits (first >>= next) := by
  intro world value numbered same
  have served : Serving world (first.on world).2 := (quiet.1 world).1
  rw [Bridge.on_bind_eq] at same
  generalize first.on world = outcome at *
  obtain ⟨result, middle⟩ := outcome
  cases result with
  | ok found => exact tail found middle value (served.numbered numbered) same
  | error error => cases same

/-- What is made of something is known from what it comes to. -/
theorem map {given : α → Prop} {first : Bridge α} {become : α → β} (yields : Yields given first)
    (holds : ∀ value, given value → fits (become value)) :
    Yields fits (do return become (← first)) := by
  intro world value numbered same
  rw [Bridge.on_bind_eq] at same
  cases found : first.on world with
  | mk result middle =>
    rw [found] at same
    cases result with
    | ok part =>
      obtain rfl := Except.ok.inj same
      exact holds part (yields world part numbered (by rw [found]))
    | error error => cases same

end Yields

theorem register_yields (handle : Handle) : Yields (0 < ·) (Bridge.register handle) := by
  intro world id numbered same
  rw [Bridge.register_on] at same
  cases opened : world.registry with
  | none =>
    rw [opened] at same
    cases same
  | some table =>
    rw [opened] at same
    simp only at same
    split at same
    · cases same
    · exact Except.ok.inj same ▸ numbered table opened

theorem registered_yields {result : Bridge Handle} (quiet : Bridge.Quiet Serving result) :
    Yields (0 < ·) (registered result) := .bind quiet fun handle => register_yields handle

theorem eval_yields (code : Bytes) : Yields (0 < ·) (eval code) :=
  .bind (argumentText_quiet code) fun code => .bind Bridge.session_quiet fun _ =>
    registered_yields (Bridge.eval_quiet code)

theorem importModule_yields (name : Bytes) : Yields (0 < ·) (importModule name) :=
  .bind (argumentText_quiet name) fun name => .bind Bridge.session_quiet fun _ =>
    registered_yields (Bridge.importModule_quiet name)

theorem call_yields (callable : ℤ) (arguments : Ids) (count : ℕ) :
    Yields (0 < ·) (call callable arguments count) :=
  .bind (argumentObjects_quiet arguments count) fun arguments => registered_yields <|
    .thenRelease arguments <| withObject_quiet callable fun handle =>
      Bridge.callWith_quiet handle (arguments.map .object) []

theorem invoke_yields (object : ℤ) (method : Bytes) (arguments : Ids) (count : ℕ) :
    Yields (0 < ·) (invoke object method arguments count) :=
  .bind (argumentText_quiet method) fun method =>
    .bind (argumentObjects_quiet arguments count) fun arguments => registered_yields <|
      .thenRelease arguments <| withObject_quiet object fun handle =>
        Bridge.callMethod_quiet handle method (arguments.map .object) []

theorem fromJson_yields (text : Bytes) : Yields (0 < ·) (fromJson text) := by
  refine .bind (argumentText_quiet text) fun text => ?_
  split
  · exact .throw _
  · exact .bind Bridge.session_quiet fun _ => registered_yields (Bridge.build_quiet _)

namespace Call

/-- The operation of every call leaves the last error alone and says why it fails. -/
theorem operation_quiet (call : Call) : Bridge.Quiet Serving call.operation := by
  cases call with
  | init => exact init_quiet.bind fun _ => .pure _
  | finalize => exact (Bridge.Quiet.lift Bridge.closeRegistry_quiet).bind fun _ => .pure _
  | exec code => exact (exec_quiet code).bind fun _ => .pure _
  | eval code => exact (eval_quiet code).bind fun _ => .pure _
  | importModule name => exact (importModule_quiet name).bind fun _ => .pure _
  | getAttribute object name =>
    refine (argumentText_quiet name).bind fun name => ?_
    refine (withObject_quiet object fun handle =>
      .lift (Bridge.getAttribute_quiet handle name)).bind fun found => ?_
    cases found with
    | some handle => exact (Bridge.register_quiet handle).bind fun _ => .pure _
    | none => exact .pure _
  | setAttribute object name value =>
    exact (setAttribute_quiet object name value).bind fun _ => .pure _
  | call callable arguments count => exact (call_quiet callable arguments count).bind fun _ => .pure _
  | invoke object method arguments count =>
    exact (invoke_quiet object method arguments count).bind fun _ => .pure _
  | toStr object => exact (withObject_quiet object Bridge.str_quiet).bind fun _ => .pure _
  | toRepr object => exact (withObject_quiet object Bridge.repr_quiet).bind fun _ => .pure _
  | toJson object => exact (withObject_quiet object Bridge.toJson_quiet).bind fun _ => .pure _
  | fromJson text => exact (fromJson_quiet text).bind fun _ => .pure _
  | isAbsent object => exact (isAbsent_quiet object).bind fun _ => .pure _
  | drop id =>
    exact (Bridge.unregister_quiet id).bind fun handle =>
      (Bridge.Quiet.lift (Bridge.release_quiet handle)).bind fun _ => .pure _
  | handleCount => exact Bridge.registered_quiet.bind fun _ => .pure _
  | lastError => exact .pure _
  | clearLastError => exact .pure _

/-- The operation of every call comes to what the call is about. -/
theorem operation_yields (call : Call) : Yields call.Fits call.operation := by
  cases call with
  | init => exact .bind init_quiet fun _ => .pure (.inl rfl)
  | finalize =>
    exact .bind (Bridge.Quiet.lift Bridge.closeRegistry_quiet) fun _ => .pure (.inr rfl)
  | exec code => exact .bind (exec_quiet code) fun _ => .pure (.inl rfl)
  | eval code => exact (eval_yields code).map fun _ positive => ⟨rfl, positive⟩
  | importModule name => exact (importModule_yields name).map fun _ positive => ⟨rfl, positive⟩
  | getAttribute object name =>
    refine .bind (argumentText_quiet name) fun name => .bind (withObject_quiet object fun handle =>
      .lift (Bridge.getAttribute_quiet handle name)) fun found => ?_
    cases found with
    | some handle => exact (register_yields handle).map fun _ positive => ⟨rfl, positive⟩
    | none => exact .pure rfl
  | setAttribute object name value =>
    exact .bind (setAttribute_quiet object name value) fun _ => .pure (.inl rfl)
  | call callable arguments count =>
    exact (call_yields callable arguments count).map fun _ positive => ⟨rfl, positive⟩
  | invoke object method arguments count =>
    exact (invoke_yields object method arguments count).map fun _ positive => ⟨rfl, positive⟩
  | toStr object => exact .bind (withObject_quiet object Bridge.str_quiet) fun _ => .pure rfl
  | toRepr object => exact .bind (withObject_quiet object Bridge.repr_quiet) fun _ => .pure rfl
  | toJson object => exact .bind (withObject_quiet object Bridge.toJson_quiet) fun _ => .pure rfl
  | fromJson text => exact (fromJson_yields text).map fun _ positive => ⟨rfl, positive⟩
  | isAbsent object => exact .bind (isAbsent_quiet object) fun _ => .pure (.inl rfl)
  | drop id =>
    exact .bind (Bridge.unregister_quiet id) fun handle =>
      .bind (Bridge.Quiet.lift (Bridge.release_quiet handle)) fun _ => .pure (.inr rfl)
  | handleCount => exact .bind Bridge.registered_quiet fun _ => .pure (.inl rfl)
  | lastError => exact .pure (.inr rfl)
  | clearLastError => exact .pure (.inr rfl)

end Call

/-- It does not matter whether an outcome is told apart before it is answered with or then. -/
theorem perform_eq {α : Type} {call : Call} {body : Bridge α} {become : α → Outcome}
    {success : α → Answer} (performed : perform call = answer success call.failure body)
    (operation : call.operation = do return become (← body))
    (same : ∀ value, call.success (become value) = success value) (world : World) :
    Act.on (perform call) world =
      Act.on (answer call.success call.failure call.operation) world := by
  rw [performed, operation, answer_on, answer_on, Bridge.on_bind_eq]
  obtain ⟨result, after⟩ := body.on world.cleared
  cases result with
  | ok value => exact Prod.ext (same value).symm rfl
  | error error => rfl

/-- An attribute that is not there is answered with zero. -/
theorem getAttribute_answer (object : ℤ) (name : Bytes) (world : World) :
    Act.on (answerNumber 0 (getAttribute object name)) world =
      Act.on (answer (Call.getAttribute object name).success (.number 0)
        (Call.getAttribute object name).operation) world := by
  rw [answerNumber, answer_on, answer_on, getAttribute, Call.operation, Bridge.on_bind_eq,
    Bridge.on_bind_eq]
  obtain ⟨text, before⟩ := Bridge.on (argumentText name) world.cleared
  cases text with
  | error error => rfl
  | ok text =>
    simp only
    rw [Bridge.on_bind_eq, Bridge.on_bind_eq]
    obtain ⟨found, middle⟩ := Bridge.on
      (withObject object fun handle => liftM (Bridge.getAttribute handle text)) before
    cases found with
    | error error => rfl
    | ok found =>
      cases found with
      | none => rfl
      | some handle =>
        simp only
        rw [Bridge.on_bind_eq]
        obtain ⟨id, after⟩ := Bridge.on (Bridge.register handle) middle
        cases id <;> rfl

/-- A call is answered by what its operation comes to. -/
theorem perform_on {call : Call} (other : call.isAboutError = false) (world : World) :
    Act.on (perform call) world =
      Act.on (answer call.success call.failure call.operation) world := by
  cases call with
  | getAttribute object name => exact getAttribute_answer object name world
  | drop id =>
    have released : (Call.drop id).operation = (do
        return (fun _ : Unit => Outcome.done) (← (do Bridge.release (← Bridge.unregister id)))) := by
      rw [Call.operation, bind_assoc]
    exact perform_eq rfl released (fun _ => rfl) world
  | lastError | clearLastError => cases other
  | _ => exact perform_eq rfl rfl (fun _ => rfl) world

/-! What can be told. -/

/-- A text without null characters is not cut. -/
theorem cutAtNul_of_nulFree {text : String} (clean : NulFree text) : cutAtNul text = text := by
  have whole : text.toList.takeWhile (· != Char.ofNat 0) = text.toList := by
    refine List.takeWhile_eq_self_iff.mpr fun c member => bne_iff_ne.mpr ?_
    rintro rfl
    exact clean member
  rw [cutAtNul, whole, String.ofList_toList]

/-- The answer to a call whose operation has failed tells so. -/
theorem tells_of_error {call : Call} {error : BridgeError} (told : error.Told) :
    Call.Tells call (.error error) call.failure (.text (spellNuls error.display)) where
  failed := ⟨fun _ => ⟨error, rfl⟩, fun _ => nofun⟩
  error := by
    rintro _ ⟨rfl⟩
    exact ⟨rfl, spellNuls_ne_empty told.display_ne_empty, cutAtNul_of_nulFree (nulFree_spellNuls _)⟩
  object about := ⟨0, by cases call <;> cases about <;> rfl, ⟨fun _ => .inl ⟨error, rfl⟩, fun _ => rfl⟩,
    fun nonzero => absurd rfl nonzero⟩
  status about := ⟨-1, by cases call <;> cases about <;> rfl, ⟨fun _ => ⟨error, rfl⟩, fun _ => rfl⟩,
    fun other => absurd rfl other⟩
  text about := .inl ⟨⟨error, rfl⟩, by cases call <;> cases about <;> rfl⟩

/-- The answer to a call whose operation has come to something tells what. -/
theorem tells_of_ok {call : Call} {outcome : Outcome} (fits : call.Fits outcome) :
    Call.Tells call (.ok outcome) (call.success outcome) .none where
  failed := ⟨fun none => absurd rfl none, nofun⟩
  error := nofun
  object about := by
    cases outcome with
    | object id =>
      have positive : 0 < id := fits.2
      refine ⟨id, by simp only [Call.success, about], ⟨fun zero => ?_, ?_⟩, fun _ => ⟨positive, rfl⟩⟩
      · exact absurd zero (Int.ne_of_gt positive)
      · rintro (⟨error, failed⟩ | ⟨-, absent⟩)
        · cases failed
        · cases absent
    | absent =>
      have looks : call.looksUp = true := fits
      exact ⟨0, by simp only [Call.success, about], ⟨fun _ => .inr ⟨looks, rfl⟩, fun _ => rfl⟩,
        fun nonzero => absurd rfl nonzero⟩
    | text text => cases about.symm.trans fits
    | done | truth | count => rcases fits with fits | fits <;> cases about.symm.trans fits
  status about := by
    have answered (status : ℕ) (same : call.success outcome = .number status) :
        ∃ status, call.success outcome = .number status ∧
          (status = -1 ↔ ∃ error, Except.ok (ε := BridgeError) outcome = .error error) ∧
          (status ≠ -1 → 0 ≤ status) := by
      refine ⟨status, same, ⟨fun negative => ?_, nofun⟩, fun _ => Int.natCast_nonneg status⟩
      omega
    cases outcome with
    | done => exact answered 0 (by simp only [Call.success, about]; rfl)
    | truth value => exact answered value.toNat (by simp only [Call.success, about]; cases value <;> rfl)
    | count count => exact answered count (by simp only [Call.success, about])
    | object id => cases about.symm.trans fits.1
    | text text => cases about.symm.trans fits
    | absent => cases call <;> cases about <;> cases (fits : _ = true)
  text about := by
    refine .inr ?_
    cases outcome with
    | text text => exact ⟨text, rfl, by simp only [Call.success, about]⟩
    | object id => cases about.symm.trans fits.1
    | absent => cases call <;> cases about <;> cases (fits : _ = true)
    | done | truth | count => rcases fits with fits | fits <;> cases about.symm.trans fits

/-- After any call but those for the last error itself, in any world whose registry hands out positive
integers as it does in every workspace that steps lead to, the answer and the last error tell what the
operation of the call has come to. What the last error was before does not matter. -/
theorem tells_of_perform :
    (∀ workspace, Workspace.Reachable workspace → workspace.world.Numbered) ∧
      ∀ (world : World) (call : Call), world.Numbered → call.isAboutError = false →
        let (answer, after) := Act.on (perform call) world
        call.Tells (call.operation.on world.cleared).1 answer (Act.on (perform .lastError) after).1 ∧
          after.Numbered := by
  refine ⟨fun workspace reachable table opened => ?_, fun world call numbered other => ?_⟩
  · exact ((Workspace.calm_of_reachable reachable).world.registry table opened).positive
  · have served : Serving world.cleared (call.operation.on world.cleared).2 :=
      (call.operation_quiet.1 world.cleared).1
    have told := call.operation_quiet.2 world.cleared
    have yields := call.operation_yields world.cleared
    rw [perform_on other, answer_on]
    generalize call.operation.on world.cleared = outcome at *
    obtain ⟨result, after⟩ := outcome
    cases result with
    | ok outcome =>
      have silent : after.lastError = none := served.lastError
      have asked : (Act.on (perform .lastError) after).1 = .none := by
        change (after.lastError.map Answer.text).getD .none = .none
        rw [silent]
        rfl
      exact ⟨asked ▸ tells_of_ok (yields outcome numbered rfl), served.numbered numbered⟩
    | error error => exact ⟨tells_of_error (told error rfl), served.numbered numbered⟩

/-- The count of integers, where an earlier call has left an error: without a registry, and with one. -/
theorem tells_of_perform_handleCount :
    let unopened := { World.ofMachine .start ⟨none, none⟩ with lastError := some "an earlier error" }
    let opened := { unopened with registry := some .empty }
    (unopened.Numbered ∧ opened.Numbered) ∧
      Call.Tells .handleCount (.error .notInitialized) (.number (-1))
        (.text (spellNuls BridgeError.notInitialized.display)) ∧
      Call.Tells .handleCount (.ok (.count 0)) (.number 0) .none := by
  intro unopened opened
  have first : unopened.Numbered := nofun
  have second : opened.Numbered := by
    rintro _ ⟨rfl⟩
    decide
  exact ⟨⟨first, second⟩, (tells_of_perform.2 unopened .handleCount first rfl).1,
    (tells_of_perform.2 opened .handleCount second rfl).1⟩

end CAbi

end ForeignBridge
