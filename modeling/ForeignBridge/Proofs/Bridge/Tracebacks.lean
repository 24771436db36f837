import ForeignBridge.Proofs.Bridge.Translation
import ForeignBridge.Proofs.Foreign.Keeps
import ForeignBridge.Proofs.Foreign.Run

/-! # The text of a traceback

The calls that an exception has passed through are told of in a text that the interpreter's own module for
tracebacks makes. Code may have put anything in the place of the function that does it. Whatever that does,
there is no text unless it answers with a list, and of a list the texts are put together in order. An item
that is no text, or one whose text has no form of its own outside the interpreter, does not take the text
away: it is left out.

To raise an exception of its own the interpreter makes new objects, and it notes in exceptions that are
there what they have to do with one another. None of this makes a text of what was none, or takes the
text away from what was one.
-/

namespace ForeignBridge.Foreign

/-- The text that an object holds, if it holds one. -/
def Heap.text? (heap : Heap) (handle : Handle) : Option CodePoints :=
  match (heap.get? handle).map Cell.body with
  | some (.text codes) => some codes
  | _ => none

/-- That an object that is there holds the text afterwards that it held before, if it held one. -/
def Heap.SameTexts (before after : Heap) : Prop :=
  ∀ handle, before.has handle = true → after.text? handle = before.text? handle

namespace Heap

variable {heap first second third : Heap} {handle : Handle} {cell : Cell} {codes : CodePoints}

theorem text?_eq_some_iff : heap.text? handle = some codes ↔
    ∃ cell, heap.get? handle = some cell ∧ cell.body = .text codes := by
  unfold text?
  cases found : heap.get? handle with
  | none => simp
  | some cell => cases shape : cell.body <;> simp [shape]

theorem text?_of_get? (found : heap.get? handle = some cell) (other : ∀ codes, cell.body ≠ .text codes) :
    heap.text? handle = none := by
  rw [Option.eq_none_iff_forall_ne_some]
  intro codes text
  obtain ⟨same, there, shape⟩ := text?_eq_some_iff.mp text
  rw [found, Option.some.injEq] at there
  exact other codes (there ▸ shape)

theorem text?_congr (same : second.get? handle = first.get? handle) :
    second.text? handle = first.text? handle := by
  unfold text?
  rw [same]

namespace SameTexts

theorem refl (heap : Heap) : heap.SameTexts heap := fun _ _ => rfl

theorem trans (early : first.SameTexts second) (grown : first.Grows second)
    (late : second.SameTexts third) : first.SameTexts third :=
  fun handle present => (late handle (grown.has present)).trans (early handle present)

theorem add (heap : Heap) (cell : Cell) : heap.SameTexts (heap.add cell).2 := by
  intro handle present
  obtain ⟨old, found⟩ := Option.isSome_iff_exists.mp present
  exact text?_congr ((get?_add_of_get? found).trans found.symm)

/-- What is no text and is given other content is none if that is none. -/
theorem revise {next : Body} (found : heap.get? handle = some cell)
    (old : ∀ codes, cell.body ≠ .text codes) (new : ∀ codes, next ≠ .text codes) :
    heap.SameTexts (heap.revise handle { cell with body := next }) := by
  intro other _
  by_cases same : other = handle
  · subst same
    rw [text?_of_get? found old]
    cases fixed : cell.isFixed with
    | true =>
      have kept := (grows_revise heap other { cell with body := next }).fixed found fixed
      exact text?_of_get? kept old
    | false => exact text?_of_get? (get?_revise_self found fixed) new
  · exact text?_congr (get?_revise_of_ne same)

end SameTexts

end Heap

namespace Run

variable {α β : Type}

/-- A run after which every object that was there holds the text that it held before. -/
def KeepsTexts (run : Run α) : Prop :=
  ∀ machine : Machine, machine.heap.SameTexts (run.on machine).2.heap

namespace KeepsTexts

theorem pure (value : α) : KeepsTexts (pure value : Run α) := fun machine => .refl machine.heap

theorem throw (thrown : Thrown) : KeepsTexts (throw thrown : Run α) := fun machine => .refl machine.heap

theorem bind {first : Run α} {next : α → Run β} (head : KeepsTexts first)
    (tail : ∀ value, KeepsTexts (next value)) : KeepsTexts (first >>= next) := by
  intro machine
  have early := head machine
  have grown := Course.grows first machine
  rw [on_bind_eq]
  cases step : first.on machine with
  | mk result middle =>
    rw [step] at early
    have grown : machine.heap.Grows middle.heap := by
      rw [show middle = (first.on machine).2 from (congrArg Prod.snd step).symm]
      exact grown
    cases result with
    | ok value => exact early.trans grown (tail value middle)
    | error thrown => exact early

theorem machine : KeepsTexts Run.machine := fun machine => .refl machine.heap

theorem body (handle : Handle) : KeepsTexts (Run.body handle) :=
  .bind (.bind .machine fun _ => .pure _) fun _ => .pure _

theorem newOf (core : Core) (body : Body) : KeepsTexts (Run.newOf core body) :=
  fun machine => .add machine.heap _

theorem newText (text : CodePoints) : KeepsTexts (Run.newText text) := by
  unfold Run.newText
  split
  · exact .pure _
  · exact .newOf _ _

theorem newInt (n : ℤ) : KeepsTexts (Run.newInt n) := by
  unfold Run.newInt
  split
  · exact .pure _
  · exact .newOf _ _

theorem newTuple (items : List Handle) : KeepsTexts (Run.newTuple items) := by
  unfold Run.newTuple
  split
  · exact .pure _
  · exact .newOf _ _

theorem newExceptionWith (core : Core) (arguments : List Handle) (parts : List (String × Handle)) :
    KeepsTexts (Run.newExceptionWith core arguments parts) :=
  .bind (.newTuple arguments) fun _ => .newOf _ _

/-- A change of the parts of an exception. -/
theorem revised (exception : Handle) (change : ExceptionInfo → ExceptionInfo) :
    KeepsTexts (do
      match ← Run.body exception with
      | .exception info => setBody exception (.exception (change info))
      | _ => return) := by
  intro machine
  cases found : machine.heap.get? exception with
  | none =>
    rw [on_bind _ (on_body_absent found)]
    exact .refl _
  | some cell =>
    rw [on_bind _ (on_body found)]
    cases shape : cell.body with
    | exception info =>
      rw [on_setBody found]
      exact .revise found (fun codes text => by rw [shape] at text; cases text) fun _ => Body.noConfusion
    | _ => exact .refl _

theorem part? (exception : Handle) (name : String) : KeepsTexts (Run.part? exception name) := by
  refine .bind (.body exception) fun body => ?_
  split <;> exact .pure _

theorem cutContext (exception : Handle) (fuel : ℕ) (link : Handle) :
    KeepsTexts (Run.cutContext exception fuel link) := by
  induction fuel generalizing link with
  | zero => exact .pure ()
  | succ fuel ih =>
    refine .bind (.part? link "__context__") fun context => ?_
    split
    · exact .pure ()
    · split
      · exact .revised link _
      · exact ih _

theorem setContext (exception : Handle) : KeepsTexts (Run.setContext exception) := by
  refine .bind .machine fun machine => ?_
  split
  · exact .pure ()
  · split
    · exact .pure ()
    · exact .bind (.cutContext exception 1000 _) fun _ => .revised exception _

theorem tracebackOf (exception : Handle) : KeepsTexts (Run.tracebackOf exception) := by
  refine .bind (.body exception) fun body => ?_
  split
  · split
    · refine .bind (.body _) fun body => ?_
      split <;> exact .pure _
    · exact .pure _
  · exact .pure _

theorem raise (exception : Handle) : KeepsTexts (Run.raise exception : Run α) :=
  .bind (.setContext exception) fun _ => .bind (.tracebackOf exception) fun _ => .throw _

theorem fail (core : Core) (message : String) : KeepsTexts (Run.fail core message : Run α) :=
  .bind (.newText (.ofString message)) fun text =>
    .bind (.newExceptionWith core [text] []) fun exception => .raise exception

theorem unencodable (codes : CodePoints) : KeepsTexts (Run.unencodable codes : Run α) := by
  unfold Run.unencodable
  split
  · exact .fail .valueError "surrogates not allowed"
  · refine .bind (.newText _) fun _ => .bind (.newText _) fun _ => .bind (.newInt _) fun _ => ?_
    refine .bind (.newInt _) fun _ => .bind (.newText _) fun _ => ?_
    exact .bind (.newExceptionWith _ _ _) fun exception => .raise exception

end KeepsTexts

end Run

end ForeignBridge.Foreign

namespace ForeignBridge

open Foreign (Body Cell Machine Run Thrown TraceFrame)
open Foreign.Run (call strOf)

namespace Foreign

/-- The characters that an object tells, if it is a text that has a form of its own outside. -/
def Machine.told? (machine : Machine) (handle : Handle) : Option String :=
  (machine.heap.text? handle).bind (·.string?)

variable {machine after : Machine} {handle : Handle}

theorem Machine.tells_iff {text : String} : machine.Tells handle text ↔ machine.told? handle = some text := by
  rw [Machine.told?, Option.bind_eq_some_iff]
  constructor
  · rintro ⟨cell, codes, found, shape, string⟩
    exact ⟨codes, Heap.text?_eq_some_iff.mpr ⟨cell, found, shape⟩, string⟩
  · rintro ⟨codes, text, string⟩
    obtain ⟨cell, found, shape⟩ := Heap.text?_eq_some_iff.mp text
    exact ⟨cell, codes, found, shape, string⟩

theorem Machine.told?_of_isNull (null : handle.isNull = true) : machine.told? handle = none := by
  have absent : machine.heap.get? handle = none := by
    rw [Heap.get?, if_pos null]
  rw [Machine.told?, Heap.text?, absent]
  rfl

/-- An item of a list is an object that is there, or it is none. -/
def Machine.Lists (machine : Machine) (items : List Handle) : Prop :=
  ∀ item ∈ items, item.isNull = true ∨ machine.heap.has item = true

theorem Machine.Lists.told?_eq {items : List Handle} (lists : machine.Lists items)
    (same : machine.heap.SameTexts after.heap) {item : Handle} (member : item ∈ items) :
    machine.told? item = after.told? item := by
  obtain null | present := lists item member
  · rw [Machine.told?_of_isNull null, Machine.told?_of_isNull null]
  · exact congrArg (·.bind (·.string?)) (same item present).symm

/-- Where every item tells a text, all of them are there and these texts are told. -/
theorem Machine.filterMap_told? {items : List Handle} {texts : List String}
    (tell : List.Forall₂ machine.Tells items texts) :
    machine.Lists items ∧ items.filterMap machine.told? = texts := by
  induction tell with
  | nil => exact ⟨fun _ member => (List.not_mem_nil member).elim, rfl⟩
  | @cons item text rest others tells _ ih =>
    obtain ⟨lists, told⟩ := ih
    obtain ⟨cell, _, found, _⟩ := id tells
    refine ⟨List.forall_mem_cons.mpr ⟨.inr (Option.isSome_iff_exists.mpr ⟨cell, found⟩), lists⟩, ?_⟩
    rw [List.filterMap_cons_some (Machine.tells_iff.mp tells), told]

end Foreign

namespace Bridge

variable {machine after : Machine}

theorem keepsTexts_charactersOf (handle : Handle) : Run.KeepsTexts (charactersOf handle) := by
  refine .bind (.bind (.body handle) fun body => ?_) fun text => ?_
  · split <;> exact .pure _
  · split
    · exact .fail .typeError "bad argument type for built-in operation"
    · split
      · exact .pure _
      · exact .unencodable _

/-- The texts among some items are put together, and the items that tell none are left out. -/
theorem Joins.eq_join {items : List Handle} {text : String} (joins : Joins machine items text after)
    (lists : machine.Lists items) : text = String.join (items.filterMap machine.told?) := by
  induction joins with
  | nil => rfl
  | text tells _ ih =>
    rw [List.filterMap_cons_some (Machine.tells_iff.mp tells), String.join_cons,
      ih fun item member => lists item (List.mem_cons_of_mem _ member)]
  | absent null _ ih =>
    rw [List.filterMap_cons_none (Machine.told?_of_isNull null)]
    exact ih fun item member => lists item (List.mem_cons_of_mem _ member)
  | @other machine item rest others thrown middle _ silent read _ ih =>
    have none : machine.told? item = none := Option.eq_none_iff_forall_ne_some.mpr fun text told =>
      silent text (Machine.tells_iff.mpr told)
    have kept : machine.heap.SameTexts middle.heap := by
      rw [show middle = ((charactersOf item).on machine).2 from (congrArg Prod.snd read).symm]
      exact keepsTexts_charactersOf item machine
    have grown : machine.heap.Grows middle.heap := by
      rw [show middle = ((charactersOf item).on machine).2 from (congrArg Prod.snd read).symm]
      exact Foreign.Course.grows _ _
    have listed : machine.Lists rest := fun item member => lists item (List.mem_cons_of_mem _ member)
    rw [List.filterMap_cons_none none, List.filterMap_congr fun item => listed.told?_eq kept]
    exact ih fun item member => (listed item member).imp_right grown.has

/-- What is told of the calls that an exception has passed through. Nothing is told if it has passed
through none, if the run for it raises an exception, and if that does not answer with a list. Of a list the
texts are told, one after the other, whatever else is among its items. -/
structure Reports (machine : Machine) (frames : List TraceFrame) (traceback : Option String) : Prop where
  direct : frames = [] → traceback = none
  raised : ∀ {thrown after}, (formatFrames frames).on machine = (.error thrown, after) → traceback = none
  unlisted : ∀ {answer after}, (formatFrames frames).on machine = (.ok answer, after) →
    (∀ cell items, after.heap.get? answer = some cell → cell.body ≠ .list items) → traceback = none
  whole : ∀ {answer after cell items texts}, frames ≠ [] →
    (formatFrames frames).on machine = (.ok answer, after) → after.heap.get? answer = some cell →
    cell.body = .list items → List.Forall₂ after.Tells items texts →
    traceback = some (String.join texts)
  partly : ∀ {answer after cell items}, frames ≠ [] →
    (formatFrames frames).on machine = (.ok answer, after) → after.heap.get? answer = some cell →
    cell.body = .list items → after.Lists items →
    traceback = some (String.join (items.filterMap after.told?))

theorem Formats.reports {frames : List TraceFrame} {traceback : Option String}
    (formats : Formats machine frames traceback after) : Reports machine frames traceback := by
  have listed {answer : Handle} {last : Machine} {cell : Cell} {items : List Handle} (passed : frames ≠ [])
      (ran : (formatFrames frames).on machine = (.ok answer, last))
      (found : last.heap.get? answer = some cell) (shape : cell.body = .list items)
      (lists : last.Lists items) : traceback = some (String.join (items.filterMap last.told?)) := by
    cases formats with
    | direct none => exact (passed none).elim
    | raises _ raised =>
      rw [ran] at raised
      cases raised
    | other _ answered other =>
      rw [ran] at answered
      cases answered
      exact (other cell items found shape).elim
    | lines _ answered there list joins =>
      rw [ran] at answered
      cases answered
      rw [found, Option.some.injEq] at there
      subst there
      rw [shape, Body.list.injEq] at list
      subst list
      exact congrArg some (joins.eq_join lists)
  refine ⟨?_, ?_, ?_, ?_, fun passed ran found shape lists => listed passed ran found shape lists⟩
  · rintro rfl
    exact formats.of_nil.1
  · intro thrown last raised
    cases formats with
    | direct | raises | other => rfl
    | lines _ answered =>
      rw [raised] at answered
      cases answered
  · intro answer last ran other
    cases formats with
    | direct | raises | other => rfl
    | lines _ answered there list =>
      rw [ran] at answered
      cases answered
      exact (other _ _ there list).elim
  · intro answer last cell items texts passed ran found shape tell
    obtain ⟨lists, told⟩ := Machine.filterMap_told? tell
    rw [listed passed ran found shape lists, told]

/-- The traceback of an exception that is looked at is the text that the run for it has come to, on the
machine that the runs for the message have left: none if a step of it fails, and else the texts of the list
that it answers with, put together in order. An item of that list that tells no text is left out, so that
what is told may be a part of the list only. -/
theorem check_reports (world : World) (thrown : Thrown) :
    ∃ value cls message traceback first second third,
      Renders world.machine thrown.exception value first ∧
      Renders first (world.classOf thrown.exception) cls second ∧
      Formats second thrown.frames traceback third ∧
      Reports second thrown.frames traceback ∧
      Bridge.on check { world with pending := some thrown } =
        (.error (.foreign message traceback), { world with machine := third, pending := none }) := by
  obtain ⟨value, cls, traceback, first, second, third, own, named, formats, fetched⟩ :=
    fetch_raised world thrown
  refine ⟨value, cls, composeMessage value cls, traceback, first, second, third, own, named, formats,
    formats.reports, ?_⟩
  rw [check_on, fetched]

end Bridge

end ForeignBridge
