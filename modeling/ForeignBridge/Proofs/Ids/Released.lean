import ForeignBridge.Proofs.Bridge.Failures
import ForeignBridge.Proofs.Ids.Run
import ForeignBridge.Proofs.Pending.Run
import Mathlib.Data.List.Infix

/-! # Integers that have been taken back

As long as the registry stays open its log only grows: what has been taken back stays so, and no integer
is handed out again. So an integer that has been taken back has no object, whatever happens, until the
registry is closed. Then no integer has one until it is opened again. But a registry that is opened again
hands out the same integers once more, from 1 on.
-/

namespace ForeignBridge

namespace IdLog

/-- That a log has come of another one by handing integers out and taking them back. -/
structure Extends (before after : IdLog) : Prop where
  issued : before.issued <+: after.issued
  dropped : before.dropped <:+ after.dropped

variable {first second third : IdLog}

theorem Extends.refl (log : IdLog) : log.Extends log := ⟨List.prefix_rfl, List.suffix_rfl⟩

theorem Extends.trans (early : first.Extends second) (late : second.Extends third) :
    first.Extends third :=
  ⟨early.issued.trans late.issued, early.dropped.trans late.dropped⟩

/-- An integer that has no object is refused. -/
theorem isRefusal_of_resolve {log : Option IdLog} {id : ℤ} {error : BridgeError}
    (failed : resolve log id = .error error) : error.isRefusal = true := by
  unfold resolve at failed
  split at failed
  · obtain rfl := Except.error.inj failed
    rfl
  · split at failed
    · cases failed
    · obtain rfl := Except.error.inj failed
      rfl

end IdLog

namespace CAbi

/-- A text that cannot be read is refused. -/
theorem isRefusal_of_readText {bytes : Bytes} {error : BridgeError}
    (failed : readText bytes = .error error) : error.isRefusal = true := by
  unfold readText at failed
  split at failed
  · obtain rfl := Except.error.inj failed
    rfl
  · split at failed
    · cases failed
    · obtain rfl := Except.error.inj failed
      rfl

/-- That something comes only to what fits, in whatever world. -/
def Comes {α : Type} (fits : α → Prop) (act : Bridge α) : Prop :=
  ∀ world value, (act.on world).1 = .ok value → fits value

namespace Comes

variable {α β : Type} {fits : β → Prop}

theorem pure {value : β} (holds : fits value) : Comes fits (pure value) :=
  fun _ _ same => Except.ok.inj same ▸ holds

theorem throw (error : BridgeError) : Comes fits (throw error : Bridge β) :=
  fun _ _ same => nomatch same

theorem bind {first : Bridge α} {next : α → Bridge β} (tail : ∀ value, Comes fits (next value)) :
    Comes fits (first >>= next) := by
  intro world value same
  rw [Bridge.on_bind_eq] at same
  cases step : first.on world with
  | mk result middle =>
    rw [step] at same
    cases result with
    | ok found => exact tail found middle value same
    | error error => cases same

end Comes

/-- What a call may come to: only one of them opens the registry, closes it or takes an integer back. -/
def Made.Of (call : Call) : Made → Prop
  | .opened => call = .init
  | .closed => call = .finalize
  | .dropped id => call = .drop id
  | .answer _ | .object _ | .count => True

theorem Call.work_comes (call : Call) (text : String) (objectOf : ℤ → Handle) :
    Comes (Made.Of call) (call.work text objectOf) := by
  cases call with
  | init => exact .bind fun _ => .pure rfl
  | finalize => exact .pure rfl
  | exec => exact .bind fun _ => .bind fun _ => .pure trivial
  | eval | importModule => exact .bind fun _ => .bind fun _ => .pure trivial
  | getAttribute object name =>
    refine .bind fun found => ?_
    cases found with
    | some handle => exact .pure trivial
    | none => exact .pure trivial
  | fromJson bytes =>
    rw [Call.work]
    split
    · exact .throw _
    · exact .bind fun _ => .bind fun _ => .pure trivial
  | drop id => exact .pure rfl
  | handleCount | lastError | clearLastError => exact .pure trivial
  | _ => exact .bind fun _ => .pure trivial

/-- A call comes to what its work comes to. -/
theorem Call.made_of {call : Call} {log : Option IdLog} {world : World} {made : Made}
    (done : call.made log world = .ok made) : made.Of call := by
  obtain ⟨text, -, done⟩ := Value.ok_of_bind done
  obtain ⟨ids, -, done⟩ := Value.ok_of_bind done
  obtain ⟨handles, -, done⟩ := Value.ok_of_bind done
  exact call.work_comes text (IdLog.objectOf log) _ made done

/-- A log only grows, unless the registry is closed. -/
theorem Made.extends {log : IdLog} {made : Made} (open_ : made ≠ .closed) :
    ∃ later, made.log (some log) = some later ∧ log.Extends later := by
  cases made with
  | answer | count | opened => exact ⟨log, rfl, .refl log⟩
  | closed => exact absurd rfl open_
  | object handle =>
    rw [Made.log]
    cases IdLog.register (some log) with
    | error error => exact ⟨log, rfl, .refl log⟩
    | ok id => exact ⟨log.issue id handle, rfl, List.prefix_append _ _, List.suffix_rfl⟩
  | dropped id =>
    rw [Made.log]
    cases IdLog.resolve (some log) id with
    | error error => exact ⟨log, rfl, .refl log⟩
    | ok handle => exact ⟨log.drop id, rfl, List.prefix_rfl, List.suffix_cons _ _⟩

end CAbi

/-- Whether a step closes the registry. -/
def Step.closes : Step → Bool
  | .call .finalize | .act .closeRegistry .. => true
  | _ => false

/-- Whether a step opens the registry, if it succeeds. -/
def Step.opens : Step → Bool
  | .call .init | .act .openRegistry .. => true
  | _ => false

namespace Workspace

open CAbi (Made Call)

variable {workspace : Workspace} {log : Option IdLog}

/-! What becomes of the log in a step. -/

/-- A step that does not close the registry only adds to its log. -/
theorem logAfter_extends (workspace : Workspace) (log : IdLog) {step : Step} (stays : step.closes = false) :
    ∃ later, workspace.logAfter (some log) step = some later ∧ log.Extends later := by
  cases step with
  | act action slot value view =>
    refine Made.extends fun closed => ?_
    cases action with
    | closeRegistry => cases stays
    | _ => cases closed
  | call call =>
    rw [logAfter, Call.logAfter]
    cases done : call.made (some log) workspace.world.cleared with
    | error error => exact ⟨log, rfl, .refl log⟩
    | ok made =>
      refine Made.extends ?_
      rintro rfl
      obtain rfl : call = .finalize := Call.made_of done
      cases stays

/-- A step that closes the registry ends its log. -/
theorem logAfter_of_closes {step : Step} (closes : step.closes = true) :
    workspace.logAfter log step = none := by
  cases step with
  | act action slot value view =>
    cases action with
    | closeRegistry => rfl
    | _ => cases closes
  | call call =>
    cases call with
    | finalize => rfl
    | _ => cases closes

/-- Without a registry there is no log, until it is opened. It begins with nothing then. -/
theorem logAfter_none (workspace : Workspace) (step : Step) : workspace.logAfter none step = none ∨
    step.opens = true ∧ workspace.logAfter none step = some .empty := by
  have cases_of (made : Made) (opens : made = .opened → step.opens = true) :
      made.log none = none ∨ step.opens = true ∧ made.log none = some .empty := by
    cases made with
    | opened => exact .inr ⟨opens rfl, rfl⟩
    | _ => exact .inl rfl
  cases step with
  | act action slot value view =>
    refine cases_of (action.made workspace) fun opened => ?_
    cases action with
    | openRegistry => rfl
    | _ => cases opened
  | call call =>
    rw [logAfter, Call.logAfter]
    cases done : call.made none workspace.world.cleared with
    | error error => exact .inl rfl
    | ok made =>
      refine cases_of made ?_
      rintro rfl
      obtain rfl : call = .init := Call.made_of done
      rfl

/-! Runs. -/

/-- As long as the registry stays open, its log only grows. -/
theorem Logged.extends {log : IdLog} {steps : List Step} (logged : Logged workspace (some log))
    (stays : ∀ step ∈ steps, step.closes = false) :
    ∃ later, Logged (on (takeAll steps) workspace).2 (some later) ∧ log.Extends later := by
  induction steps generalizing workspace log with
  | nil => exact ⟨log, logged, .refl log⟩
  | cons step rest ih =>
    obtain ⟨first, stays⟩ := List.forall_mem_cons.mp stays
    obtain ⟨middle, added, early⟩ := logAfter_extends workspace log first
    have taken := logged.take step
    rw [added] at taken
    obtain ⟨later, reached, late⟩ := ih taken stays
    rw [takeAll_cons]
    exact ⟨later, reached, early.trans late⟩

/-- A registry that is closed stays closed until it is opened. -/
theorem Logged.closed {steps : List Step} (logged : Logged workspace none)
    (stays : ∀ step ∈ steps, step.opens = false) :
    Logged (on (takeAll steps) workspace).2 none := by
  induction steps generalizing workspace with
  | nil => exact logged
  | cons step rest ih =>
    obtain ⟨first, stays⟩ := List.forall_mem_cons.mp stays
    have taken := logged.take step
    rw [takeAll_cons]
    obtain still | ⟨opens, -⟩ := logAfter_none workspace step
    · rw [still] at taken
      exact ih taken stays
    · rw [first] at opens
      cases opens

/-! What an integer without an object is good for. -/

/-- That an integer has no object. Whatever is given it fails before it has done anything, and leaves
the registry as it is. -/
structure Dead (workspace : Workspace) (id : ℤ) (error : BridgeError) : Prop where
  resolve : Bridge.on (Bridge.resolve id) workspace.world = (.error error, workspace.world)
  unregister : Bridge.on (Bridge.unregister id) workspace.world = (.error error, workspace.world)
  call : ∀ call ids, Call.ids call = .ok ids → id ∈ ids →
    (∃ refusal : BridgeError, refusal.isRefusal = true ∧ (on (take (.call call)) workspace).1 =
      .called call.failure (some (spellNuls refusal.display))) ∧
    (on (take (.call call)) workspace).2.world.registry = workspace.world.registry

/-- If one of some integers has no object, one of them refuses them all. -/
theorem mapM_resolve_of_error {ids : List ℤ} {id : ℤ} {error : BridgeError} (member : id ∈ ids)
    (dead : IdLog.resolve log id = .error error) :
    ∃ refusal : BridgeError, refusal.isRefusal = true ∧
      ids.mapM (IdLog.resolve log) = .error refusal := by
  induction ids with
  | nil => cases member
  | cons first rest ih =>
    rw [List.mapM_cons]
    cases found : IdLog.resolve log first with
    | error other => exact ⟨other, IdLog.isRefusal_of_resolve found, rfl⟩
    | ok handle =>
      obtain rfl | member := List.mem_cons.mp member
      · rw [dead] at found
        cases found
      · obtain ⟨refusal, refused, others⟩ := ih member
        exact ⟨refusal, refused, by rw [others]; rfl⟩

/-- A call that is given an integer without an object comes to nothing. -/
theorem made_of_dead (world : World) {call : Call} {ids : List ℤ} {id : ℤ} {error : BridgeError}
    (named : call.ids = .ok ids) (member : id ∈ ids) (dead : IdLog.resolve log id = .error error) :
    ∃ refusal : BridgeError, refusal.isRefusal = true ∧ call.made log world = .error refusal := by
  obtain ⟨refusal, refused, found⟩ := mapM_resolve_of_error member dead
  cases read : call.text with
  | error error =>
    refine ⟨error, ?_, by rw [Call.made, read]; rfl⟩
    cases call <;> first | exact CAbi.isRefusal_of_readText read | cases read
  | ok text =>
    refine ⟨refusal, refused, ?_⟩
    rw [Call.made, read]
    change call.madeWith log world text = _
    rw [Call.madeWith, named]
    change IdLog.withObjects log world ids (call.work text) = _
    rw [IdLog.withObjects, found]
    rfl

theorem Logged.dead {id : ℤ} {error : BridgeError} (logged : Logged workspace log)
    (none : IdLog.resolve log id = .error error) : workspace.Dead id error := by
  have answers := answersBy_of_logged logged
  have resolved := answers.resolve id
  rw [none] at resolved
  refine ⟨resolved, ?_, fun call ids named member => ?_⟩
  · have taken := answers.unregister id
    rw [none, Bridge.unregister_on] at taken
    rw [Bridge.unregister_on]
    cases opened : workspace.world.registry with
    | none =>
      rw [opened] at taken
      exact congrArg (·, workspace.world) taken
    | some table =>
      cases found : table.get? id with
      | none =>
        simp only [opened, found] at taken ⊢
        exact congrArg (·, workspace.world) taken
      | some handle =>
        simp only [opened, found] at taken
        cases taken
  · obtain ⟨refusal, refused, failed⟩ := made_of_dead workspace.world.cleared named member none
    have result : call.result log workspace.world.cleared = .error refusal := by
      rw [Call.result, failed]
      rfl
    refine ⟨⟨refusal, refused, ?_⟩, answers.unchanged call (.inl ⟨refusal, result⟩)⟩
    have other : call ≠ .lastError := by
      rintro rfl
      cases named
      cases member
    rw [answers.call, Call.reply, if_neg other, result]

/-- An integer that has been taken back has no object as long as the registry stays open, whatever steps
are taken. Once the registry is closed no integer has one until it is opened again. But then integers
are handed out from 1 on once more. -/
theorem dead_of_released (workspace : Workspace) :
    (∀ log id steps, Logged workspace (some log) → id ∈ log.dropped →
      (∀ step ∈ steps, Step.closes step = false) →
      Dead (on (takeAll steps) workspace).2 id (.invalidHandle id)) ∧
    (∀ log id close steps, Logged workspace log → Step.closes close = true →
      (∀ step ∈ steps, Step.opens step = false) →
      Dead (on (takeAll (close :: steps)) workspace).2 id .notInitialized) ∧
    ∀ reopen, Logged workspace none →
      (on (take reopen) workspace).2.world.registry ≠ none →
      Step.opens reopen = true ∧ Logged (on (take reopen) workspace).2 (some .empty) ∧
        ∀ handle, (Bridge.on (Bridge.register handle) (on (take reopen) workspace).2.world).1 = .ok 1 := by
  refine ⟨fun log id steps logged member stays => ?_,
    fun log id close steps logged closes stays => ?_, fun reopen logged opened => ?_⟩
  · obtain ⟨later, reached, grown⟩ := logged.extends stays
    have still : id ∈ later.dropped := grown.dropped.mem member
    refine reached.dead ?_
    rw [IdLog.resolve, IdLog.object?, if_pos still]
  · have taken := logged.take close
    rw [logAfter_of_closes closes] at taken
    rw [takeAll_cons]
    exact (taken.closed stays).dead rfl
  · have taken := logged.take reopen
    obtain still | ⟨opens, anew⟩ := logAfter_none workspace reopen
    · rw [still] at taken
      have logs := taken.logs
      unfold World.Logs at logs
      generalize (on (take reopen) workspace).2.world.registry = registry at *
      cases logs
      exact absurd rfl opened
    · rw [anew] at taken
      exact ⟨opens, taken, (answersBy_of_logged taken).register⟩

/-- An integer that is handed out and taken back, a registry that is closed, and one that is opened. -/
theorem dead_of_released_started :
    let released := (on (takeAll [.act (.register "object") none none default,
      .act (.unregister 1) none none default]) started).2
    let unopened := fresh ⟨none, none⟩
    Dead (on (takeAll [.call .handleCount, .call (.toStr 1)]) released).2 1 (.invalidHandle 1) ∧
      Dead (on (takeAll [.call .finalize, .call (.toStr 1)]) released).2 1 .notInitialized ∧
      ∀ handle, (Bridge.on (Bridge.register handle)
        (on (take (.act .openRegistry none none default)) unopened).2.world).1 = .ok 1 := by
  intro released unopened
  have handedOut := Logged.started.take (.act (.register "object") none none default)
  have takenBack : Logged released (some ⟨[(1, started.slot "object")], [1]⟩) :=
    handedOut.take (.act (.unregister 1) none none default)
  have unstarted : Logged unopened none := .fresh ⟨none, none⟩
  have opened := unstarted.take (.act .openRegistry none none default)
  have registry : (on (take (.act .openRegistry none none default)) unopened).2.world.registry ≠ none := by
    intro closed
    have logs : Option.Rel IdLog.Describes (some .empty) _ := opened.logs
    rw [closed] at logs
    cases logs
  clear_value released unopened
  exact ⟨(dead_of_released released).1 _ 1 _ takenBack (by decide) (by simp [Step.closes]),
    (dead_of_released released).2.1 _ 1 _ _ takenBack rfl (by simp [Step.opens]),
    ((dead_of_released unopened).2.2 _ unstarted registry).2.2⟩

end Workspace

namespace CAbi

/-- The integer of an object that has been dropped finds another object, once the registry has been closed
and opened again. -/
theorem stale_id_finds_another :
    let world := { World.ofMachine Foreign.Machine.bare ⟨none, none⟩ with
      session := some .ofFixed, registry := some .empty }
    let document : Bytes := some (Value.bytes "null")
    let after (calls : List Call) := calls.foldl (fun world call => (Act.on (perform call) world).2) world
    let answer (calls : List Call) (call : Call) := (Act.on (perform call) (after calls)).1
    answer [] (.fromJson document) = .number 1 ∧
      answer [.fromJson document] (.drop 1) = .none ∧
      (after [.fromJson document, .drop 1]).lastError = none ∧
      answer [.fromJson document, .drop 1, .finalize] .init = .number 0 ∧
      answer [.fromJson document, .drop 1, .finalize, .init] (.fromJson document) = .number 1 ∧
      answer [.fromJson document, .drop 1, .finalize, .init, .fromJson document] (.isAbsent 1) =
        .number 1 := by
  intro world document after answer
  decide +kernel

end CAbi

end ForeignBridge
