import ForeignBridge.Bridge.World
import ForeignBridge.Foreign.Call

/-! # Raised exceptions

An exception that the interpreter raises stays pending until the host looks at it. Looking at it
takes it away and makes an error of it: the message is the text of the exception, or else the text
of its class, or else words that say nothing; the traceback is what the interpreter's own module for
tracebacks makes of the calls. What goes wrong while an error is made is dropped.
-/

namespace ForeignBridge.Bridge

open Foreign (Run Thrown TraceFrame CodePoints)
open Foreign.Run (call)

/-- Runs the machine by itself. -/
def onMachine {α : Type} (run : Run α) : Act (Except Thrown α) := fun world =>
  match world with
  | ⟨machine, pending, held, overdrawn, session, registry, lastError, environment⟩ =>
    let (result, machine) := run.on machine
    (result, ⟨machine, pending, held, overdrawn, session, registry, lastError, environment⟩)

/-- Runs something; an exception stays pending. -/
def attempt {α : Type} (run : Run α) : Act (Option α) := do
  match ← onMachine run with
  | .ok value => return some value
  | .error thrown =>
    modify ({ · with pending := some thrown })
    return none

/-- Drops what is pending. -/
def clear : Act Unit := modify ({ · with pending := none })

/-- Runs something that has an object as its result, of which the host takes a reference. What is no
object is no result. -/
def attemptOwned (run : Run Handle) : Act (Option Handle) := do
  match ← attempt run with
  | some handle =>
    if (← get).has handle then
      own handle
      return some handle
    else return none
  | none => return none

/-- The characters of a text object. An object that is no text is a fault, and so is a text that has no
form of its own outside the interpreter. -/
def charactersOf (handle : Handle) : Run String := do
  match ← Run.text? handle with
  | none => Run.fail .typeError "bad argument type for built-in operation"
  | some codes =>
    match codes.string? with
    | some text => return text
    | none => Run.unencodable codes

/-- The characters of a text object, if they are a text. What is not one stays as an exception. -/
def textOf (handle : Handle) : Act (Option String) :=
  if handle.isNull then return none else attempt (charactersOf handle)

/-- The text of an object for readers, if it has one. -/
def textFor (handle : Handle) : Act (Option String) := do
  match ← attemptOwned (Run.strOf call handle) with
  | none =>
    clear
    return none
  | some rendered =>
    let text ← textOf rendered
    release rendered
    if text.isNone then clear
    return text

/-- The words for an exception of which nothing can be said. -/
def unknownMessage : String := "Unknown error"

/-- The error of which nothing is known. -/
def unknown : BridgeError := .foreign unknownMessage none

/-- The first of two texts that is not empty. -/
def composeMessage (value cls : Option String) : String :=
  match value.filter (!·.isEmpty) with
  | some text => text
  | none => (cls.filter (!·.isEmpty)).getD unknownMessage

/-- The texts of some items that have one, put together. -/
def joinTexts : List Handle → Act String
  | [] => return ""
  | item :: rest => do
    let text ← textOf item
    return text.getD "" ++ (← joinTexts rest)

/-- What the interpreter's own function makes of the calls an exception passed through. -/
def formatFrames (frames : List TraceFrame) : Run Handle := do
  let traceback ← Run.newOf .traceback (.traceback frames)
  let module ← Run.importNamed call "traceback"
  let format ← Run.getAttribute call module "format_tb"
  call format (.of [traceback])

/-- The items of a list that are texts, put together. -/
def linesText (lines : Handle) : Act (Option String) := do
  match ← onMachine (Run.body lines) with
  | .ok (.list items) => return some (← joinTexts items)
  | _ => return none

/-- The text of a traceback. There is none if the interpreter does not make a list of it; items that
are no texts are left out. -/
def tracebackText (frames : List TraceFrame) : Act (Option String) := do
  if frames.isEmpty then return none
  match ← attemptOwned (formatFrames frames) with
  | none =>
    clear
    return none
  | some lines =>
    let text ← linesText lines
    clear
    release lines
    return text

/-- The error that an exception is. -/
def errorOf (thrown : Thrown) : Act BridgeError := do
  let cls := (← get).classOf thrown.exception
  let message := composeMessage (← textFor thrown.exception) (← textFor cls)
  return .foreign message (← tracebackText thrown.frames)

/-- The error that is pending. It is pending no longer. -/
def fetch : Act (Option BridgeError) := do
  match (← get).pending with
  | none => return none
  | some thrown =>
    own thrown.exception
    clear
    let error ← errorOf thrown
    release thrown.exception
    return some error

/-- Fails with the error that is pending, if there is one. -/
def check : Bridge Unit := do
  match ← fetch with
  | some error => throw error
  | none => return

/-- What something has come to, unless an exception is pending: that counts for more, and the references
of what has come with it are given back. -/
def settled {α : Type} (references : α → List Handle) : Option α → Bridge α
  | some value => do
    elseRelease (references value) check
    return value
  | none => do
    check
    throw unknown

/-- An object that something has come to, unless an exception is pending. -/
def settledObject : Option Handle → Bridge Handle := settled fun handle => [handle]

/-- The error that is pending, or else another one. -/
def takeOr (fallback : BridgeError) : Act BridgeError := return (← fetch).getD fallback

/-- What something comes to; if it comes to nothing, the failure with the error that is pending, or
else with another one. -/
def orThrow {α : Type} (act : Act (Option α)) (fallback : BridgeError) : Bridge α := do
  match ← act with
  | some value => return value
  | none => throw (← takeOr fallback)

/-- Runs something, and fails with the exception it raises. -/
def perform {α : Type} (run : Run α) : Bridge α := orThrow (attempt run) unknown

/-- Runs something that has an object as its result, of which the host takes a reference, and fails
with the exception it raises. -/
def made (run : Run Handle) : Bridge Handle := orThrow (attemptOwned run) unknown

end ForeignBridge.Bridge
