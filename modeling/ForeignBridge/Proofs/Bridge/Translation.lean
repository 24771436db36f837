import ForeignBridge.Proofs.Foreign.Keys
import ForeignBridge.Proofs.Pending.Quiet

/-! # Telling of exceptions

An exception that is pending is told of in words, and to find them runs the interpreter three times: for
the text of the exception, for the text of its class, and for the text of the calls it has passed through.
Each run starts from the machine that the one before it has left, and any of them may raise another
exception; that one is dropped.
-/

namespace ForeignBridge

open Foreign (Body Cell Machine Run Thrown TraceFrame)
open Foreign.Run (call strOf)

namespace Foreign

/-- That an object is a text of some characters. -/
def Machine.Tells (machine : Machine) (handle : Handle) (text : String) : Prop :=
  ∃ cell codes, machine.heap.get? handle = some cell ∧ cell.body = .text codes ∧
    codes.string? = some text

theorem Machine.Tells.unique {machine : Machine} {handle : Handle} {text other : String}
    (tells : machine.Tells handle text) (too : machine.Tells handle other) : text = other := by
  obtain ⟨cell, codes, found, shape, string⟩ := tells
  obtain ⟨same, others, again, shapeToo, stringToo⟩ := too
  rw [found, Option.some.injEq] at again
  subst again
  rw [shape, Body.text.injEq] at shapeToo
  subst shapeToo
  rw [string, Option.some.injEq] at stringToo
  exact stringToo

/-- A text object tells its text. -/
theorem Machine.tells_ofString {machine : Machine} {handle : Handle} {text : String}
    (found : machine.heap.get? handle = some (.ofCore .str (.text (.ofString text)))) :
    machine.Tells handle text := ⟨_, _, found, rfl, CodePoints.string?_ofString text⟩

end Foreign

namespace Bridge

/-- The characters of an object are those of the text that it is; if it is none, an exception is raised. -/
theorem charactersOf_on (handle : Handle) (machine : Machine) :
    (∃ text, machine.Tells handle text ∧
      (charactersOf handle).on machine = (.ok text, machine)) ∨
    (∀ text, ¬ machine.Tells handle text) ∧ ∃ thrown after,
      (charactersOf handle).on machine = (.error thrown, after) := by
  have noText {body : Body} (read : (Run.body handle).on machine = (.ok body, machine))
      (other : ∀ codes, body ≠ .text codes) :
      ∃ thrown after, (charactersOf handle).on machine = (.error thrown, after) := by
    have none : (Run.text? handle).on machine = (.ok none, machine) := by
      rw [Run.text?, Run.on_bind _ read]
      split
      · rename_i codes
        exact (other codes rfl).elim
      · rfl
    rw [charactersOf, Run.on_bind _ none]
    exact Run.fail_fails _ _ machine
  cases found : machine.heap.get? handle with
  | none =>
    refine .inr ⟨?_, noText (Run.on_body_absent found) fun codes => Body.noConfusion⟩
    rintro text ⟨cell, codes, there, _⟩
    rw [found] at there
    cases there
  | some cell =>
    have read := Run.on_body found
    by_cases shape : ∃ codes, cell.body = .text codes
    · obtain ⟨codes, shape⟩ := shape
      have text : (Run.text? handle).on machine = (.ok (some codes), machine) := by
        rw [Run.text?, Run.on_bind _ read, shape]
        rfl
      cases string : codes.string? with
      | some characters =>
        refine .inl ⟨characters, ⟨cell, codes, found, shape, string⟩, ?_⟩
        rw [charactersOf, Run.on_bind _ text]
        simp only [string]
        rfl
      | none =>
        refine .inr ⟨?_, ?_⟩
        · rintro other ⟨same, others, there, content, characters⟩
          rw [found, Option.some.injEq] at there
          subst there
          rw [shape, Body.text.injEq] at content
          subst content
          rw [string] at characters
          cases characters
        · rw [charactersOf, Run.on_bind _ text]
          simp only [string]
          exact Run.unencodable_fails codes machine
    · refine .inr ⟨?_, noText read fun codes same => shape ⟨codes, same⟩⟩
      rintro text ⟨same, codes, there, content, _⟩
      rw [found, Option.some.injEq] at there
      exact shape ⟨codes, there ▸ content⟩
/-! What the three runs come to. -/

/-- What comes of asking an object for its text, and the machine that it leaves. The object may answer with
a text, it may fail to answer with one, or the text may have no form of its own outside the interpreter. -/
inductive Renders (machine : Machine) (handle : Handle) : Option String → Machine → Prop
  | text {answer text after} (ran : (strOf call handle).on machine = (.ok answer, after))
      (tells : after.Tells answer text) : Renders machine handle (some text) after
  | raises {thrown after} (ran : (strOf call handle).on machine = (.error thrown, after)) :
      Renders machine handle none after
  | formless {answer middle thrown after}
      (ran : (strOf call handle).on machine = (.ok answer, middle))
      (silent : ∀ text, ¬ middle.Tells answer text)
      (read : (charactersOf answer).on middle = (.error thrown, after)) :
      Renders machine handle none after

/-- What the texts among some items come to, one after the other; what is no text is left out. -/
inductive Joins : Machine → List Handle → String → Machine → Prop
  | nil {machine} : Joins machine [] "" machine
  | text {machine item rest text others after} (tells : machine.Tells item text)
      (next : Joins machine rest others after) : Joins machine (item :: rest) (text ++ others) after
  | absent {machine item rest others after} (absent : item.isNull = true)
      (next : Joins machine rest others after) : Joins machine (item :: rest) others after
  | other {machine item rest others thrown middle after}
      (silent : ∀ text, ¬ machine.Tells item text)
      (read : (charactersOf item).on machine = (.error thrown, middle))
      (next : Joins middle rest others after) : Joins machine (item :: rest) others after

/-- What comes of asking for the text of the calls that an exception has passed through. The function for
that may be missing, it may raise an exception, or it may answer with any object. -/
inductive Formats (machine : Machine) (frames : List TraceFrame) : Option String → Machine → Prop
  | direct (none : frames = []) : Formats machine frames .none machine
  | raises {thrown after} (passed : frames ≠ [])
      (ran : (formatFrames frames).on machine = (.error thrown, after)) :
      Formats machine frames .none after
  | other {answer after} (passed : frames ≠ [])
      (ran : (formatFrames frames).on machine = (.ok answer, after))
      (shape : ∀ cell items, after.heap.get? answer = some cell → cell.body ≠ .list items) :
      Formats machine frames .none after
  | lines {answer cell items text middle after} (passed : frames ≠ [])
      (ran : (formatFrames frames).on machine = (.ok answer, middle))
      (found : middle.heap.get? answer = some cell) (shape : cell.body = .list items)
      (joins : Joins middle items text after) : Formats machine frames (some text) after

/-- The words for an exception whose text and whose class's text are these. -/
inductive Message (value cls : Option String) : String → Prop
  | own {text} (told : value = some text) (full : text ≠ "") : Message value cls text
  | ofClass {text} (silent : value = none ∨ value = some "") (told : cls = some text)
      (full : text ≠ "") : Message value cls text
  | unknown (silent : value = none ∨ value = some "") (nameless : cls = none ∨ cls = some "") :
      Message value cls "Unknown error"

theorem message_composeMessage (value cls : Option String) :
    Message value cls (composeMessage value cls) := by
  have empty {text : Option String} (none : text.filter (!·.isEmpty) = none) :
      text = .none ∨ text = some "" := by
    cases text with
    | none => exact .inl rfl
    | some text =>
      refine .inr (congrArg some ?_)
      rw [Option.filter_some_eq_none] at none
      simpa using none
  have full {text : Option String} {found : String} (same : text.filter (!·.isEmpty) = some found) :
      text = some found ∧ found ≠ "" := by
    obtain ⟨there, other⟩ := Option.filter_eq_some_iff.mp same
    exact ⟨there, by simpa using other⟩
  unfold composeMessage
  split
  · rename_i text same
    exact .own (full same).1 (full same).2
  · rename_i silent
    cases same : cls.filter (!·.isEmpty) with
    | none => exact .unknown (empty silent) (empty same)
    | some text => exact .ofClass (empty silent) (full same).1 (full same).2

/-- What an object that answers with a text is told of by is that text. -/
theorem Renders.of_text {machine after last : Machine} {handle answer : Handle} {text : String}
    {found : Option String} (renders : Renders machine handle found last)
    (ran : (strOf call handle).on machine = (.ok answer, after)) (tells : after.Tells answer text) :
    found = some text ∧ last = after := by
  cases renders with
  | text ranToo tellsToo =>
    obtain ⟨same, rfl⟩ := Prod.mk.inj (ranToo.symm.trans ran)
    obtain rfl := Except.ok.inj same
    exact ⟨congrArg some (tellsToo.unique tells), rfl⟩
  | raises ranToo => cases ranToo.symm.trans ran
  | formless ranToo silent _ =>
    obtain ⟨same, rfl⟩ := Prod.mk.inj (ranToo.symm.trans ran)
    obtain rfl := Except.ok.inj same
    exact (silent text tells).elim

/-- An exception that has passed through no calls has no traceback, and nothing runs for it. -/
theorem Formats.of_nil {machine after : Machine} {text : Option String}
    (formats : Formats machine [] text after) : text = none ∧ after = machine := by
  cases formats with
  | direct => exact ⟨rfl, rfl⟩
  | raises passed | other passed | lines passed => exact (passed rfl).elim

/-! What the host does with them. -/

variable {world : World} {machine after : Machine} {handle answer : Handle}

/-- What answers with a text answers with an object that is there. -/
theorem has_of_textAnswer {what : String} {found : Handle}
    (done : (Run.textAnswer what answer).on machine = (.ok found, after)) :
    after.heap.has found = true := by
  have failed {body : Body} (read : (Run.body answer).on machine = (.ok body, machine))
      (other : ∀ codes, body ≠ .text codes) : False := by
    have raised : Run.Fails (do
        Run.fail .typeError (what ++ " returned non-string (type " ++ (← Run.typeName answer) ++ ")") :
        Run Handle) := .bind fun _ => Run.fail_fails _ _
    obtain ⟨thrown, later, step⟩ := raised machine
    rw [Run.textAnswer, Run.on_bind _ read] at done
    split at done
    · rename_i codes
      exact other codes rfl
    · rw [step] at done
      cases done
  cases there : machine.heap.get? answer with
  | none => exact (failed (Run.on_body_absent there) fun _ => Body.noConfusion).elim
  | some cell =>
    by_cases shape : ∃ codes, cell.body = .text codes
    · obtain ⟨codes, shape⟩ := shape
      rw [Run.textAnswer, Run.on_bind _ (Run.on_body there), shape] at done
      cases done
      exact Option.isSome_iff_exists.mpr ⟨cell, there⟩
    · exact (failed (Run.on_body there) fun codes same => shape ⟨codes, same⟩).elim

theorem has_of_reprOf (done : (Run.reprOf call handle).on machine = (.ok answer, after)) :
    after.heap.has answer = true := by
  rw [Run.reprOf] at done
  obtain ⟨entry, middle, _, done⟩ := Run.ok_of_on_bind done
  cases entry with
  | none =>
    cases done
    exact Option.isSome_iff_exists.mpr ⟨_, Foreign.Heap.get?_add_self _ _⟩
  | some entry =>
    obtain ⟨called, last, _, done⟩ := Run.ok_of_on_bind done
    exact has_of_textAnswer done

/-- The text of an object is an object that is there. -/
theorem has_of_strOf (done : (strOf call handle).on machine = (.ok answer, after)) :
    after.heap.has answer = true := by
  rw [strOf] at done
  obtain ⟨core, middle, classed, done⟩ := Run.ok_of_on_bind done
  split at done
  · rename_i isText
    cases done
    cases found : machine.heap.get? handle with
    | none =>
      have plain : (Run.core? handle).on machine = (.ok (some .object), machine) := by
        rw [Run.core?, Run.on_bind _ (Run.on_cell_absent found)]
        exact congrArg (fun core => (Except.ok core, machine)) (Foreign.Core.ofHandle?_handle .object)
      have same := congrArg Prod.fst (plain.symm.trans classed)
      rw [isText] at same
      exact absurd (Option.some.inj (Except.ok.inj same)) (by decide)
    | some cell =>
      have same : after = machine := by
        rw [Run.core?, Run.on_bind _ (Run.on_cell found)] at classed
        exact (congrArg Prod.snd classed).symm
      exact Option.isSome_iff_exists.mpr ⟨cell, same ▸ found⟩
  · obtain ⟨entry, later, _, done⟩ := Run.ok_of_on_bind done
    cases entry with
    | none => exact has_of_reprOf done
    | some entry =>
      obtain ⟨called, last, _, done⟩ := Run.ok_of_on_bind done
      exact has_of_textAnswer done

/-- A reference that has just been taken is given back. -/
theorem giveBack_held (object : handle.isNull = false) (world : World) :
    (world.withHeld (handle :: world.held)).giveBack handle = world := by
  rw [World.giveBack, object, if_neg Bool.false_ne_true,
    if_pos (show handle ∈ (world.withHeld (handle :: world.held)).held from List.mem_cons_self ..)]
  exact congrArg world.withHeld (List.erase_cons_head ..)

/-- Asking for a text leaves the host with what it held. -/
theorem textFor_on (silent : world.pending = none) (handle : Handle) : ∃ text after,
    Renders world.machine handle text after ∧
    Act.on (textFor handle) world = (text, world.withMachine after) := by
  have cleared (machine : Machine) : { world.withMachine machine with pending := none } =
      world.withMachine machine := by
    rw [← silent]
    rfl
  cases ran : (strOf call handle).on world.machine with
  | mk result middle =>
    cases result with
    | error thrown =>
      refine ⟨none, middle, .raises ran, ?_⟩
      rw [textFor, Act.on_bind, attemptOwned_on_error ran]
      exact congrArg (Prod.mk none) (cleared middle)
    | ok answer =>
      have there := has_of_strOf ran
      obtain ⟨cell, found⟩ := Option.isSome_iff_exists.mp there
      have object := Foreign.Heap.not_isNull_of_get? found
      have asked : Act.on (textFor handle) world = Act.on (do
          let text ← textOf answer
          release answer
          if text.isNone then clear
          return text) ((world.withMachine middle).withHeld (answer :: world.held)) := by
        rw [textFor, Act.on_bind, attemptOwned_on_ok ran there]
      rw [asked, Act.on_bind, textOf, object, if_neg Bool.false_ne_true]
      obtain ⟨text, tells, read⟩ | ⟨quiet, thrown, last, read⟩ := charactersOf_on answer middle
      · refine ⟨some text, middle, .text ran tells, ?_⟩
        rw [attempt_on_ok read, Act.on_bind, release_on]
        exact congrArg (Prod.mk (some text)) (giveBack_held object (world.withMachine middle))
      · refine ⟨none, last, .formless ran quiet read, ?_⟩
        rw [attempt_on_error read, Act.on_bind, release_on]
        have back := giveBack_held object { world.withMachine last with pending := some thrown }
        exact congrArg (fun left : World => ((none : Option String), { left with pending := none }))
          back |>.trans (congrArg (Prod.mk none) (cleared last))

/-- The texts among some items may leave something pending. -/
theorem joinTexts_on (items : List Handle) (world : World) : ∃ text after pending,
    Joins world.machine items text after ∧
    Act.on (joinTexts items) world = (text, { world.withMachine after with pending }) := by
  induction items generalizing world with
  | nil => exact ⟨"", world.machine, world.pending, .nil, rfl⟩
  | cons item rest ih =>
    have step (world : World) : Act.on (joinTexts (item :: rest)) world =
        ((Act.on (textOf item) world).1.getD "" ++
          (Act.on (joinTexts rest) (Act.on (textOf item) world).2).1,
          (Act.on (joinTexts rest) (Act.on (textOf item) world).2).2) := rfl
    rw [step]
    cases null : item.isNull with
    | true =>
      have skipped : Act.on (textOf item) world = (none, world) := by
        rw [textOf, null, if_pos rfl]
        rfl
      obtain ⟨others, after, pending, joins, joined⟩ := ih world
      refine ⟨others, after, pending, .absent null joins, ?_⟩
      rw [skipped, joined]
      exact congrArg (·, _) (String.empty_append ..)
    | false =>
      rw [textOf, null, if_neg Bool.false_ne_true]
      obtain ⟨text, tells, read⟩ | ⟨quiet, thrown, last, read⟩ := charactersOf_on item world.machine
      · obtain ⟨others, after, pending, joins, joined⟩ := ih world
        refine ⟨text ++ others, after, pending, .text tells joins, ?_⟩
        rw [attempt_on_ok read, show world.withMachine world.machine = world from rfl, joined]
        rfl
      · obtain ⟨others, after, pending, joins, joined⟩ :=
          ih { world.withMachine last with pending := some thrown }
        refine ⟨others, after, pending, .other quiet read joins, ?_⟩
        rw [attempt_on_error read, joined]
        exact congrArg (·, _) (String.empty_append ..)

/-- The lines that the function for tracebacks answers with are put together if it answers with a list. -/
theorem linesText_on {frames : List TraceFrame} {cell : Cell} (passed : frames ≠ [])
    (ran : (formatFrames frames).on machine = (.ok answer, after))
    (found : after.heap.get? answer = some cell) (world : World) (here : world.machine = after) :
    ∃ text last pending, Formats machine frames text last ∧
      Act.on (linesText answer) world = (text, { world.withMachine last with pending }) := by
  subst here
  have asked : Act.on (onMachine (Run.body answer)) world = (.ok cell.body, world) := by
    rw [onMachine_on, Run.on_body found]
    rfl
  rw [linesText, Act.on_bind, asked]
  by_cases shape : ∃ items, cell.body = .list items
  · obtain ⟨items, shape⟩ := shape
    obtain ⟨text, last, pending, joins, joined⟩ := joinTexts_on items world
    refine ⟨some text, last, pending, .lines passed ran found shape joins, ?_⟩
    rw [shape]
    change Act.on (joinTexts items >>= fun text => return some text) world = _
    rw [Act.on_bind, joined]
    rfl
  · have other (same : Cell) (items : List Handle)
        (there : world.machine.heap.get? answer = some same) : same.body ≠ .list items := by
      rw [found, Option.some.injEq] at there
      exact fun list => shape ⟨items, there ▸ list⟩
    refine ⟨none, world.machine, world.pending, .other passed ran other, ?_⟩
    split
    · rename_i items list
      exact (shape ⟨items, Except.ok.inj list⟩).elim
    · rfl

/-- Asking for the text of the calls leaves the host with what it held. -/
theorem tracebackText_on (silent : world.pending = none) (frames : List TraceFrame) :
    ∃ text after, Formats world.machine frames text after ∧
    Act.on (tracebackText frames) world = (text, world.withMachine after) := by
  have cleared (machine : Machine) : { world.withMachine machine with pending := none } =
      world.withMachine machine := by
    rw [← silent]
    rfl
  cases direct : frames.isEmpty with
  | true =>
    refine ⟨none, world.machine, .direct (List.isEmpty_iff.mp direct), ?_⟩
    rw [tracebackText, direct, if_pos rfl]
    rfl
  | false =>
    have passed : frames ≠ [] := by
      rintro rfl
      cases direct
    rw [tracebackText, direct, if_neg Bool.false_ne_true]
    cases ran : (formatFrames frames).on world.machine with
    | mk result middle =>
      cases result with
      | error thrown =>
        refine ⟨none, middle, .raises passed ran, ?_⟩
        rw [Act.on_bind, attemptOwned_on_error ran]
        exact congrArg (Prod.mk none) (cleared middle)
      | ok answer =>
        cases found : middle.heap.get? answer with
        | none =>
          have absent (cell : Cell) (items : List Handle)
              (there : middle.heap.get? answer = some cell) : cell.body ≠ .list items := by
            rw [found] at there
            cases there
          refine ⟨none, middle, .other passed ran absent, ?_⟩
          rw [Act.on_bind, attemptOwned_on_absent ran found]
          exact congrArg (Prod.mk none) (cleared middle)
        | some cell =>
          have object := Foreign.Heap.not_isNull_of_get? found
          rw [Act.on_bind, attemptOwned_on_ok ran (Option.isSome_iff_exists.mpr ⟨cell, found⟩)]
          obtain ⟨text, after, pending, formats, read⟩ := linesText_on passed ran found
            ((world.withMachine middle).withHeld (answer :: world.held)) rfl
          refine ⟨text, after, formats, ?_⟩
          change Act.on (linesText answer >>= _) _ = _
          rw [Act.on_bind, read]
          have back := giveBack_held object { world.withMachine after with pending := none }
          exact congrArg (Prod.mk text) (back.trans (cleared after))

/-- An exception that is looked at becomes an error: three runs find the words for it, one after the other,
and nothing is changed but the machine. -/
theorem fetch_raised (world : World) (thrown : Thrown) :
    ∃ value cls traceback first second third,
      Renders world.machine thrown.exception value first ∧
      Renders first (world.classOf thrown.exception) cls second ∧
      Formats second thrown.frames traceback third ∧
      Act.on fetch { world with pending := some thrown } =
        (some (.foreign (composeMessage value cls) traceback),
          { world with machine := third, pending := none }) := by
  -- the world in which the words are found: the exception is held and pending no longer
  let calm : World := { world with
    pending := none
    held := if thrown.exception.isNull then world.held else thrown.exception :: world.held }
  obtain ⟨value, first, own, valueStep⟩ := @textFor_on calm rfl thrown.exception
  obtain ⟨cls, second, named, clsStep⟩ := @textFor_on (calm.withMachine first) rfl
    (world.classOf thrown.exception)
  obtain ⟨traceback, third, formats, frameStep⟩ :=
    @tracebackText_on ((calm.withMachine first).withMachine second) rfl thrown.frames
  have told : Act.on (errorOf thrown) calm =
      (.foreign (composeMessage value cls) traceback, calm.withMachine third) := by
    rw [errorOf, Act.on_get_bind, Act.on_bind, valueStep]
    refine (Act.on_bind _ _ _).trans ?_
    rw [show Act.on (textFor (calm.classOf thrown.exception)) (calm.withMachine first) = _ from clsStep]
    refine (Act.on_bind _ _ _).trans ?_
    rw [frameStep]
    rfl
  have start : Act.on fetch { world with pending := some thrown } = Act.on (do
      let error ← errorOf thrown
      release thrown.exception
      return some error) calm := by
    rw [fetch, Act.on_get_bind]
    simp only
    rw [Act.on_bind, own_on]
    rfl
  have back : (calm.withMachine third).giveBack thrown.exception =
      { world with machine := third, pending := none } := by
    cases null : thrown.exception.isNull with
    | true =>
      rw [World.giveBack, null, if_pos rfl]
      simp only [calm, null, ↓reduceIte]
      rfl
    | false =>
      simp only [calm, null, Bool.false_eq_true, ↓reduceIte]
      exact giveBack_held null { world with machine := third, pending := none }
  refine ⟨value, cls, traceback, first, second, third, own, named, formats, ?_⟩
  rw [start, Act.on_bind, told, Act.on_bind, release_on]
  exact congrArg (Prod.mk (some _)) back

/-- A pending exception becomes an error whose message is the text of the exception if that is not empty,
or else the text of its class if that is not empty, or else words for what is unknown. The texts and the
traceback are what three runs come to that start from the machine as the exception has left it and follow
one another; what they raise is dropped, and nothing is changed but the machine. -/
theorem check_raised (world : World) (thrown : Thrown) :
    ∃ value cls message traceback first second third,
      Renders world.machine thrown.exception value first ∧
      Renders first (world.classOf thrown.exception) cls second ∧
      Formats second thrown.frames traceback third ∧
      Message value cls message ∧ message ≠ "" ∧
      Bridge.on check { world with pending := some thrown } =
        (.error (.foreign message traceback), { world with machine := third, pending := none }) := by
  obtain ⟨value, cls, traceback, first, second, third, own, named, formats, fetched⟩ :=
    fetch_raised world thrown
  refine ⟨value, cls, composeMessage value cls, traceback, first, second, third, own, named, formats,
    message_composeMessage value cls, composeMessage_ne_empty value cls, ?_⟩
  rw [check_on, fetched]

end Bridge

end ForeignBridge
