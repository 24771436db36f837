import ForeignBridge.Foreign.Execution.Assign

/-! # Raising and handling

What a statement raises, the calls that an exception has passed through, and which handlers are for
it.
-/

namespace ForeignBridge.Foreign.Run

/-- The fault of a class of exceptions whose instance is none. -/
def notAnException {α : Type} (invoke : Invoke) (cls made : Handle) : Run α := do
  let type ← reprText invoke (← typeOf made)
  failText .typeError ((CodePoints.ofString "calling ").append ((← reprText invoke cls).append
    ((CodePoints.ofString " should have returned an instance of BaseException, not ").append type)))

/-- The exception for an object: the object itself, or a new instance of the class that it is. -/
def exceptionFor (invoke : Invoke) (handle : Handle) (wrong : String) : Run Handle := do
  if ← isClass handle then
    if ← isSubclass handle Core.baseException.handle then
      let made ← invoke handle (.of [])
      if ← isA made .baseException then return made else notAnException invoke handle made
    else fail .typeError wrong
  else if ← isA handle .baseException then return handle
  else fail .typeError wrong

/-- Sets the cause of an exception, which hides its context. -/
def setCause (exception cause : Handle) : Run Unit := do
  if cause = Fixed.none then dropPart exception "__cause__"
  else setPart exception "__cause__" cause
  setPart exception "__suppress_context__" Fixed.true

/-- Raises an exception for an object, with a cause if one is given. -/
def raiseFrom (invoke : Invoke) (value : Handle) (cause : Option Handle) : Run Unit := do
  let made ← exceptionFor invoke value "exceptions must derive from BaseException"
  match cause with
  | none => pure ()
  | some cause =>
    if cause = Fixed.none then setCause made cause
    else
      setCause made
        (← exceptionFor invoke cause "exception causes must derive from BaseException")
  raise made

/-- Raises the exception that is being handled once more. -/
def raiseAgain : Run Unit := do
  match (← machine).handling with
  | some exception => throw ⟨exception, ← tracebackOf exception, true⟩
  | none => fail .runtimeError "No active exception to reraise"

/-- The entry of the code that is being executed among the calls of an exception. -/
def frameEntry : Run TraceFrame := do
  let machine ← machine
  match ← body machine.frame.code with
  | .code code => return ⟨code.file, machine.line, code.name, machine.frame.references⟩
  | _ => return ⟨"<string>", machine.line, "<module>", machine.frame.references⟩

/-- An exception with the code that is being executed among its calls. -/
def recorded (thrown : Thrown) : Run Thrown := do
  if thrown.recorded then return thrown
  else return { thrown with frames := (← frameEntry) :: thrown.frames, recorded := true }

/-- Keeps the calls of an exception with it. -/
def keepTraceback (thrown : Thrown) : Run Unit := do
  let traceback ← newOf .traceback (.traceback thrown.frames)
  setPart thrown.exception "__traceback__" traceback

/-- The object that stands for the calls of an exception. -/
def tracebackObject (exception : Handle) : Run Handle := do
  return (← part? exception "__traceback__").getD Fixed.none

/-- Whether an exception is one of those that a handler names. -/
def isHandled (exception test : Handle) : Run Bool := do
  let wrong {α : Type} : Run α :=
    fail .typeError "catching classes that do not inherit from BaseException is not allowed"
  let check (cls : Handle) : Run Unit := do
    unless ← isClass cls do wrong
    unless ← isSubclass cls Core.baseException.handle do wrong
  let matches? (cls : Handle) : Run Bool := do isSubclass (← typeOf exception) cls
  match ← body test with
  | .tuple items =>
    for item in items do check item
    items.anyM matches?
  | _ =>
    check test
    matches? test

end ForeignBridge.Foreign.Run
