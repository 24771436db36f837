import ForeignBridge.Foreign.Execution.Execute
import ForeignBridge.Foreign.Linking.Link

/-! # Functions and generators

A function is called with its arguments as variables. The call of a generator only makes it; it runs
whenever a value is asked for, up to the next value that it hands out.
-/

namespace ForeignBridge.Foreign.Run

/-- The surroundings of a call of a function. -/
def functionFrame (function : Handle) (info : FunctionInfo) (code : Code)
    (arguments : Arguments) : Run Frame := do
  let bound ← bindArguments info code arguments
  let cells ← code.shared.mapM fun name => do
    return (name, ← newOf .box (.box (bound.lookup name)))
  let locals := bound.filter fun pair => !code.shared.contains pair.1
  return ⟨info.globals, .null, locals, cells ++ code.free.zip info.closure, info.code, function⟩

/-- A new generator. -/
def newGenerator (info : FunctionInfo) (code : Code) (frame : Frame) : Run Handle :=
  newOf .generator (.generator
    { name := info.name, qualifiedName := info.qualifiedName, frame, tasks := [.run code.body],
      phase := .created, handling := none })

/-- Calls a function of the language. -/
def callFunction (invoke : Invoke) (function : Handle) (info : FunctionInfo)
    (arguments : Arguments) : Run Handle := do
  match ← body info.code with
  | .code code =>
    let frame ← functionFrame function info code arguments
    match code.kind with
    | .generator => newGenerator info code frame
    | _ => runStatements invoke frame code.line code.body
  | _ => return Fixed.none

/-- The surroundings of code that sees the names of a dictionary and binds names in a mapping. -/
def textFrame (code globals names : Handle) (closure : List (String × Handle)) : Frame :=
  ⟨globals, names, [], closure, code, .null⟩

/-- Runs the code of a text with the names of a dictionary, bound in a mapping. -/
def runCode (invoke : Invoke) (code globals names : Handle) (closure : List (String × Handle)) :
    Run Handle := do
  match ← body code with
  | .code content =>
    runStatements invoke (textFrame code globals names closure) content.line content.body
  | _ => return Fixed.none

/-- Evaluates a text that is an expression with the names of a dictionary. -/
def evaluateText (invoke : Invoke) (globals names : Handle) (source : String) : Run Handle := do
  runCode invoke (← linkExpression invoke "<string>" source) globals names []

/-- Executes a text of statements with the names of a dictionary. -/
def executeText (invoke : Invoke) (globals names : Handle) (file source : String) : Run Unit := do
  let _ ← runCode invoke (← linkProgram invoke file source) globals names []
  return

/-- Runs the body of a class, whose names are bound in a mapping; the answer is the variable that
methods share to know their class, if any of them does. -/
def runClassBody (invoke : Invoke) (info : FunctionInfo) (names : Handle) :
    Run (Option Handle) := do
  match ← body info.code with
  | .code code =>
    let cells ← code.shared.mapM fun name => do return (name, ← newOf .box (.box none))
    let closure := cells ++ code.free.zip info.closure
    let _ ← runCode invoke info.code info.globals names closure
    let own := cells.lookup "__class__"
    match own with
    | some box => setItem invoke names (← internString "__classcell__") box
    | none => pure ()
    return own
  | _ => return none

/-! Generators. -/

/-- What is sent to a generator. -/
inductive Sending where
  | value (value : Handle)
  | exception (thrown : Thrown)

/-- How a generator goes on. -/
inductive Resumed where
  | handed (value : Handle)
  | ended (value : Handle)

/-- Changes what a generator keeps. -/
def setGenerator (generator : Handle) (state : Suspended) : Run Unit :=
  setBody generator (.generator state)

/-- An exception that ends the values of a generator does not leave it as it is. -/
def turnedStop (thrown : Thrown) : Run Thrown := do
  if ← isA thrown.exception .stopIteration then
    keepTraceback thrown
    let made ← newExceptionWith .runtimeError [← newString "generator raised StopIteration"]
      [("__cause__", thrown.exception), ("__context__", thrown.exception),
       ("__suppress_context__", Fixed.true)]
    return ⟨made, [], false⟩
  else return thrown

/-- Runs a generator up to the next value that it hands out. -/
def resume (invoke : Invoke) (generator : Handle) (state : Suspended) (sending : Sending) :
    Run Resumed := do
  let outer ← machine
  let handling := match state.handling with
    | some handled => some handled
    | none => outer.handling
  setGenerator generator { state with phase := .running }
  let line ← match ← body state.frame.code with
    | .code code => pure code.line
    | _ => pure outer.line
  setRegisters ({ · with frame := state.frame, handling, line })
  let (sent, flow) := match sending with
    | .value value => (some value, Flow.next)
    | .exception thrown => (none, Flow.raise thrown)
  let flow ← match flow with
    | .raise thrown =>
      match state.tasks with
      | .delegate .. :: _ => pure (Flow.raise thrown)
      | _ => do pure (Flow.raise (← recorded thrown))
    | flow => pure flow
  let result ← outcome do
    match ← outcome (runTasks invoke taskBound sent flow state.tasks) with
    | .ok ending => return ending
    | .error thrown => throw { (← turnedStop (← recorded thrown)) with recorded := false }
  let after ← machine
  setRegisters
    ({ · with frame := outer.frame, handling := outer.handling, line := outer.line })
  match result with
  | .ok (.handed value tasks) =>
    setGenerator generator { state with
      frame := after.frame, tasks, phase := .suspended,
      handling := if after.handling = outer.handling then none else after.handling }
    return .handed value
  | .ok (.done value) =>
    setGenerator generator { state with
      frame := { state.frame with locals := [], shared := [] }, tasks := [], phase := .closed }
    return .ended value
  | .error thrown =>
    setGenerator generator { state with
      frame := { state.frame with locals := [], shared := [] }, tasks := [], phase := .closed }
    throw thrown

/-- Raises that an iterator has ended with a value. -/
def stopWith {α : Type} (value : Handle) : Run α := do
  let arguments := if value = Fixed.none then [] else [value]
  raise (← newExceptionWith .stopIteration arguments [("value", value)])

/-- Sends a value to a generator; the answer is the next value that it hands out. -/
def sendTo (invoke : Invoke) (generator : Handle) (state : Suspended) (value : Handle) :
    Run Handle := do
  match state.phase with
  | .running => fail .valueError "generator already executing"
  | .closed => stopWith Fixed.none
  | .created =>
    if value ≠ Fixed.none then
      fail .typeError "can't send non-None value to a just-started generator"
    match ← resume invoke generator state (.value value) with
    | .handed item => return item
    | .ended item => stopWith item
  | .suspended =>
    match ← resume invoke generator state (.value value) with
    | .handed item => return item
    | .ended item => stopWith item

/-- Throws an exception into a generator. -/
def throwTo (invoke : Invoke) (generator : Handle) (state : Suspended) (thrown : Thrown) :
    Run Handle := do
  match state.phase with
  | .running => fail .valueError "generator already executing"
  | .closed => throw thrown
  | .created =>
    setGenerator generator { state with tasks := [], phase := .closed }
    throw thrown
  | .suspended =>
    match ← resume invoke generator state (.exception thrown) with
    | .handed item => return item
    | .ended item => stopWith item

/-- Closes a generator. -/
def closeGenerator (invoke : Invoke) (generator : Handle) (state : Suspended) : Run Unit := do
  match state.phase with
  | .running => fail .valueError "generator already executing"
  | .created => setGenerator generator { state with tasks := [], phase := .closed }
  | .closed => return
  | .suspended =>
    let exit ← newException .generatorExit []
    match ← outcome (resume invoke generator state (.exception ⟨exit, [], false⟩)) with
    | .ok (.handed _) => fail .runtimeError "generator ignored GeneratorExit"
    | .ok (.ended _) => return
    | .error thrown =>
      if (← isA thrown.exception .generatorExit) || (← isA thrown.exception .stopIteration) then
        return
      else throw thrown

end ForeignBridge.Foreign.Run
