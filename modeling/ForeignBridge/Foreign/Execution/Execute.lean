import ForeignBridge.Foreign.Execution.Raise

/-! # Execution

What is left to do in a call is a list of tasks. Performing the first task leaves others in its place,
hands out a value, or says that things go on in another way; then tasks are given up one by one,
until one of them has something to do about it.
-/

/-! ## Import statements

An import statement calls the function that imports modules and binds what it answers, or names out
of it.
-/

namespace ForeignBridge.Foreign.Run

/-- The answer of the function that imports modules. -/
def importByName (invoke : Invoke) (name : String) (names : Handle) (level : Nat) : Run Handle := do
  let frame := (← machine).frame
  match ← getName? (← builtinsFor frame.globals) "__import__" with
  | none => fail .importError "__import__ not found"
  | some importer =>
    let locals := if frame.names.isNull then Fixed.none else frame.names
    invoke importer (.of [← internString name, frame.globals, locals, names, ← newInt level])

/-- The fault of a name that a module does not have. -/
def missingName {α : Type} (invoke : Invoke) (module title : Handle) (name : String) : Run α := do
  let path ← own? module "__file__"
  let front := (CodePoints.ofString ("cannot import name '" ++ name ++ "' from ")).append
    (← reprText invoke title)
  let back ← match path with
    | some path => strText invoke path
    | none => pure (.ofString "unknown location")
  let message := front.append ((CodePoints.ofString " (").append (back.append (.ofString ")")))
  let text ← newText message
  raise (← newExceptionWith .importError [text]
    [("msg", text), ("name", title), ("path", path.getD Fixed.none)])

/-- A name out of a module, which may be a module inside it. -/
def importedName (invoke : Invoke) (module : Handle) (name : String) : Run Handle := do
  match ← getAttribute? invoke module name with
  | some found => return found
  | none =>
    match ← getAttribute? invoke module "__name__" with
    | none => missingName invoke module (← newString "<unknown module name>") name
    | some title =>
      match ← text? title with
      | none => missingName invoke module (← newString "<unknown module name>") name
      | some text =>
        let full ← newText (text.append (.ofString ("." ++ name)))
        match ← dictGet? invoke Fixed.modules full with
        | some found => return found
        | none => missingName invoke module title name

/-- The names that a module gives to an import of all of them. -/
def publicNames (invoke : Invoke) (module : Handle) : Run (List String) := do
  match ← getAttribute? invoke module "__all__" with
  | some names =>
    (← iterate invoke names).mapM fun name => do
      match ← text? name with
      | some text => return text.lossy
      | none =>
        fail .typeError ("Item in " ++ ((← ownText? module "__name__").getD "") ++
          ".__all__ must be str, not " ++ (← typeName name))
  | none =>
    match ← getAttribute? invoke module "__dict__" with
    | none => fail .importError "from-import-* object has no __dict__ and no __all__"
    | some names => return (← namesIn names).map (·.1) |>.filter fun name => !name.startsWith "_"

/-- Imports some modules and binds each. -/
def loadModules (invoke : Invoke) : List (String × Expression × Bool) → Run Unit
  | [] => return
  | (name, target, apart) :: rest => do
    let found ← importByName invoke name Fixed.none 0
    let found ←
      if apart then
        ((name.splitOn ".").drop 1).foldlM (fun module part => importedName invoke module part) found
      else pure found
    assign invoke found target
    loadModules invoke rest

/-- Imports names from a module and binds each. -/
def loadNames (invoke : Invoke) (level : Nat) (name : String) (names : List (String × Expression)) :
    Run Unit := do
  let wanted ← newTuple (← names.mapM fun (name, _) => internString name)
  let module ← importByName invoke name wanted level
  for (name, target) in names do
    if name = "*" then
      for found in ← publicNames invoke module do
        writeName invoke .named found (← getAttribute invoke module found)
    else assign invoke (← importedName invoke module name) target

end ForeignBridge.Foreign.Run

namespace ForeignBridge.Foreign

/-- What comes of performing a task. -/
inductive Progress where
  /-- Things go on, with some tasks left. -/
  | on (flow : Flow) (tasks : List Task)
  /-- A value is handed out before the tasks that are left. -/
  | hand (value : Handle) (tasks : List Task)
deriving Inhabited

/-- How tasks come to an end. -/
inductive Ending where
  | done (value : Handle)
  | handed (value : Handle) (tasks : List Task)
deriving Inhabited

namespace Run

/-- Sets the exception that is being handled. -/
def setHandling (handling : Option Handle) : Run Unit := setRegisters ({ · with handling })

/-- Puts an element into what a comprehension makes. -/
def emitElement (invoke : Invoke) (gathering : Gathering) (element : Expression) : Run Unit := do
  let made := ((← machine).frame.locals.lookup ".made").getD Fixed.none
  match gathering, element with
  | .dict, .pair key value =>
    let key ← evaluate invoke key
    let value ← evaluate invoke value
    dictSet invoke made key value
  | .set, element => setAdd invoke made (← evaluate invoke element)
  | _, element => putItem made (← evaluate invoke element)

/-- Binds a name with an annotation. -/
def annotate (invoke : Invoke) (target annotation : Expression) (value : Option Expression) :
    Run Unit := do
  match value with
  | some value => do assign invoke (← evaluate invoke value) target
  | none => pure ()
  let note ← evaluate invoke annotation
  match target with
  | .name _ _ name =>
    let names := (← machine).frame.names
    let notes ← match ← mappedName? invoke names "__annotations__" with
      | some notes => pure notes
      | none => do
        let notes ← newEmptyDict
        writeName invoke .named "__annotations__" notes
        pure notes
    setItem invoke notes (← internString name) note
  | _ => return

/-- The fault of a test that has failed. -/
def failCheck (invoke : Invoke) (message : Option Expression) : Run Unit := do
  let arguments ← match message with
    | some message => do pure [← evaluate invoke message]
    | none => pure []
  raise (← newException .assertionError arguments)

/-- The function of a managed object that is called at the end of its block, and what it gives at
the start. -/
def enterManager (invoke : Invoke) (manager : Handle) : Run (Handle × Handle) := do
  let words := "'" ++ (← typeName manager) ++ "' object does not support the context manager protocol"
  match ← typeAttribute manager "__enter__" with
  | none => fail .typeError words
  | some enter =>
    match ← typeAttribute manager "__exit__" with
    | none => fail .typeError (words ++ " (missed __exit__ method)")
    | some leave =>
      let leave ← bind invoke leave manager (← typeOf manager)
      return (leave, ← callEntry invoke enter manager [])

/-- Tasks for a list of statements in front of others. -/
def before (statements : List Statement) (rest : List Task) : List Task :=
  if statements.isEmpty then rest else .run statements :: rest

/-- Performs a statement, with some tasks left behind it. -/
def performStatement (invoke : Invoke) (rest : List Task) : Statement → Run Progress
  | .located _ statement => return .on .next (.run [statement] :: rest)
  | .expression (.yield line value) => do
    let given ← match value with
      | some value => evaluate invoke value
      | none => pure Fixed.none
    onLine line
    return .hand given (.receive [] :: rest)
  | .expression (.yieldFrom line source) => do
    let source ← evaluate invoke source
    onLine line
    return .on .next (.delegate line (← iterOf invoke source) [] :: rest)
  | .expression value => do
    let _ ← evaluate invoke value
    return .on .next rest
  | .assign targets (.yield line value) => do
    let given ← match value with
      | some value => evaluate invoke value
      | none => pure Fixed.none
    onLine line
    return .hand given (.receive targets :: rest)
  | .assign targets (.yieldFrom line source) => do
    let source ← evaluate invoke source
    onLine line
    return .on .next (.delegate line (← iterOf invoke source) targets :: rest)
  | .assign targets value => do
    let made ← evaluate invoke value
    for target in targets do assign invoke made target
    return .on .next rest
  | .update line operator target value => do
    updateTarget invoke line operator target value
    return .on .next rest
  | .annotate target annotation value => do
    annotate invoke target annotation value
    return .on .next rest
  | .delete targets => do
    unbindAll invoke targets
    return .on .next rest
  | .pass | .globals _ | .outers _ | .define .. | .declareClass .. | .handler .. =>
    return .on .next rest
  | .escape => return .on .escape rest
  | .again => return .on .again rest
  | .give none => return .on (.give Fixed.none) rest
  | .give (some (.yield line value)) => do
    let given ← match value with
      | some value => evaluate invoke value
      | none => pure Fixed.none
    onLine line
    return .hand given (.giveReceived :: rest)
  | .give (some value) => do return .on (.give (← evaluate invoke value)) rest
  | .raise none _ => do
    raiseAgain
    return .on .next rest
  | .raise (some value) cause => do
    let line := (← machine).line
    let made ← evaluate invoke value
    let cause ← match cause with
      | some cause => do pure (some (← evaluate invoke cause))
      | none => pure none
    onLine line
    raiseFrom invoke made cause
    return .on .next rest
  | .check test message => do
    let line := (← machine).line
    unless ← isTrue invoke (← evaluate invoke test) do
      onLine line
      failCheck invoke message
    return .on .next rest
  | .load modules => do
    loadModules invoke modules
    return .on .next rest
  | .loadFrom level module names => do
    loadNames invoke level module names
    return .on .next rest
  | .branch test whenTrue whenFalse => do
    if ← isTrue invoke (← evaluate invoke test) then return .on .next (before whenTrue rest)
    else return .on .next (before whenFalse rest)
  | .whilst test body otherwise => do
    return .on .next (.whilst (← machine).line test body otherwise :: rest)
  | .loop target source body otherwise => do
    let line := (← machine).line
    let source ← evaluate invoke source
    onLine line
    return .on .next (.loop line target (← iterOf invoke source) body otherwise :: rest)
  | .enter line manager target body => do
    let manager ← evaluate invoke manager
    onLine line
    let (leave, entered) ← enterManager invoke manager
    let binding : List Statement := match target with
      | some target => [.assign [target] (.object entered)]
      | none => []
    return .on .next (before (binding ++ body) (.leave line leave :: rest))
  | .shield body handlers otherwise final => do
    let rest := if final.isEmpty then rest else .final final :: rest
    return .on .next (before body
      (if handlers.isEmpty then before otherwise rest else .guard handlers otherwise :: rest))
  | .emit gathering element => do
    emitElement invoke gathering element
    return .on .next rest

/-- Goes back to the exception that was handled before a handler, and unbinds the handler's name. -/
def leaveHandler (invoke : Invoke) (handling : Option Handle) (name : Option Expression) :
    Run Unit := do
  setHandling handling
  match name with
  | some (.name _ place name) => forgetName invoke place name
  | _ => return

/-- The value that an iterator ended with, if an exception says so. -/
def endedWith? (thrown : Thrown) : Run (Option Handle) := do
  if ← isA thrown.exception .stopIteration then
    return some ((← part? thrown.exception "value").getD Fixed.none)
  else return none

/-- Asks an iterator for what it hands out next, given what has been sent to it. -/
def askDelegate (invoke : Invoke) (iterator : Handle) (sent : Option Handle) :
    Run (Except Handle Handle) := do
  let asked : Run Handle := match sent with
    | some value => do
      if value = Fixed.none then
        match ← callSpecial? invoke iterator "__next__" [] with
        | some item => return item
        | none => fail .typeError ("'" ++ (← typeName iterator) ++ "' object is not an iterator")
      else invoke (← getAttribute invoke iterator "send") (.of [value])
    | none => do
      match ← callSpecial? invoke iterator "__next__" [] with
      | some item => return item
      | none => fail .typeError ("'" ++ (← typeName iterator) ++ "' object is not an iterator")
  match ← outcome asked with
  | .ok item => return .ok item
  | .error thrown =>
    match ← endedWith? thrown with
    | some value => return .error value
    | none => throw thrown

/-- Goes on with an iterator whose values are handed out. -/
def performDelegate (invoke : Invoke) (line : Nat) (iterator : Handle) (targets : List Expression)
    (rest : List Task) (sent : Option Handle) : Run Progress := do
  onLine line
  match ← askDelegate invoke iterator sent with
  | .ok item => return .hand item (.delegate line iterator targets :: rest)
  | .error value =>
    for target in targets do assign invoke value target
    return .on .next rest

/-- Performs a task, with some tasks left behind it. What has been sent is for a task that waits. -/
def perform (invoke : Invoke) (sent : Option Handle) (rest : List Task) : Task → Run Progress
  | .run [] => return .on .next rest
  | .run (.located line statement :: more) => do
    onLine line
    performStatement invoke (before more rest) statement
  | .run (statement :: more) => performStatement invoke (before more rest) statement
  | .whilst line test body otherwise => do
    onLine line
    if ← isTrue invoke (← evaluate invoke test) then
      return .on .next (before body (.whilst line test body otherwise :: rest))
    else return .on .next (before otherwise rest)
  | .loop line target iterator body otherwise => do
    onLine line
    match ← next? invoke iterator with
    | some item =>
      assign invoke item target
      return .on .next (before body (.loop line target iterator body otherwise :: rest))
    | none => return .on .next (before otherwise rest)
  | .guard _ otherwise => return .on .next (before otherwise rest)
  | .handled handling name => do
    leaveHandler invoke handling name
    return .on .next rest
  | .final statements => do
    return .on .next (before statements (.resume .next (← machine).handling :: rest))
  | .resume flow handling => do
    setHandling handling
    return .on flow rest
  | .leave line exit => do
    onLine line
    let _ ← invoke exit (.of [Fixed.none, Fixed.none, Fixed.none])
    return .on .next rest
  | .receive targets => do
    for target in targets do assign invoke (sent.getD Fixed.none) target
    return .on .next rest
  | .giveReceived => return .on (.give (sent.getD Fixed.none)) rest
  | .delegate line iterator targets => performDelegate invoke line iterator targets rest sent

/-- The handler that is for an exception, among some of them. -/
def handlerFor? (invoke : Invoke) (exception : Handle) :
    List Statement → Run (Option (Option Expression × List Statement))
  | [] => return none
  | .located line (.handler test name body) :: rest => do
    onLine line
    match test with
    | none => return some (name, body)
    | some test =>
      let test ← evaluate invoke test
      onLine line
      if ← isHandled exception test then return some (name, body)
      else handlerFor? invoke exception rest
  | _ :: rest => handlerFor? invoke exception rest

/-- Hands an exception to the handlers of a shielded body. -/
def guardAgainst (invoke : Invoke) (thrown : Thrown) (handlers : List Statement)
    (rest : List Task) : Run Progress := do
  keepTraceback thrown
  let outer := (← machine).handling
  let line := (← machine).line
  setHandling (some thrown.exception)
  match ← outcome (handlerFor? invoke thrown.exception handlers) with
  | .error other =>
    let other ← recorded other
    setHandling outer
    throw other
  | .ok none =>
    setHandling outer
    onLine line
    return .on (.raise thrown) rest
  | .ok (some (name, body)) =>
    match name with
    | some target => assign invoke thrown.exception target
    | none => pure ()
    return .on .next (before body (.handled outer name :: rest))

/-- Tells the end of a managed block that an exception has come; it may end there. -/
def leaveAgainst (invoke : Invoke) (thrown : Thrown) (line : Nat) (exit : Handle)
    (rest : List Task) : Run Progress := do
  keepTraceback thrown
  let outer := (← machine).handling
  setHandling (some thrown.exception)
  onLine line
  let arguments := [← typeOf thrown.exception, thrown.exception, ← tracebackObject thrown.exception]
  let answer ← ensure (setHandling outer) do isTrue invoke (← invoke exit (.of arguments))
  return .on (if answer then .next else .raise thrown) rest

/-- Throws an exception into an iterator whose values are handed out. -/
def throwInto (invoke : Invoke) (thrown : Thrown) (line : Nat) (iterator : Handle)
    (targets : List Expression) (rest : List Task) : Run Progress := do
  onLine line
  if ← isA thrown.exception .generatorExit then
    match ← getAttribute? invoke iterator "close" with
    | some close =>
      let _ ← invoke close (.of [])
      return .on (.raise thrown) rest
    | none => return .on (.raise thrown) rest
  else
    match ← getAttribute? invoke iterator "throw" with
    | none => return .on (.raise thrown) rest
    | some rule =>
      match ← outcome (invoke rule (.of [thrown.exception])) with
      | .ok item => return .hand item (.delegate line iterator targets :: rest)
      | .error other =>
        match ← endedWith? other with
        | some value =>
          for target in targets do assign invoke value target
          return .on .next rest
        | none => throw other

/-- Gives up a task because things go on in another way, or does what the task has to do about it. -/
def giveUp (invoke : Invoke) (flow : Flow) (rest : List Task) : Task → Run Progress
  | .run _ | .receive _ | .giveReceived => return .on flow rest
  | .delegate line iterator targets => do
    match flow with
    | .raise thrown =>
      if thrown.recorded then return .on flow rest
      else throwInto invoke thrown line iterator targets rest
    | _ => return .on flow rest
  | .whilst line test body otherwise =>
    match flow with
    | .escape => return .on .next rest
    | .again => return .on .next (.whilst line test body otherwise :: rest)
    | _ => return .on flow rest
  | .loop line target iterator body otherwise =>
    match flow with
    | .escape => return .on .next rest
    | .again => return .on .next (.loop line target iterator body otherwise :: rest)
    | _ => return .on flow rest
  | .guard handlers _ =>
    match flow with
    | .raise thrown => guardAgainst invoke thrown handlers rest
    | _ => return .on flow rest
  | .handled handling name => do
    match flow with
    | .raise thrown => keepTraceback thrown
    | _ => pure ()
    leaveHandler invoke handling name
    return .on flow rest
  | .final statements => do
    let outer := (← machine).handling
    match flow with
    | .raise thrown =>
      keepTraceback thrown
      setHandling (some thrown.exception)
    | _ => pure ()
    return .on .next (before statements (.resume flow outer :: rest))
  | .resume _ handling => do
    setHandling handling
    return .on flow rest
  | .leave line exit => do
    match flow with
    | .raise thrown => leaveAgainst invoke thrown line exit rest
    | _ =>
      onLine line
      let _ ← invoke exit (.of [Fixed.none, Fixed.none, Fixed.none])
      return .on flow rest

/-- What comes of a task; an exception in it is a way for things to go on. -/
def attempt (rest : List Task) (run : Run Progress) : Run Progress :=
  tryCatch run fun thrown => do return .on (.raise (← recorded thrown)) rest

/-- Performs tasks until a value is given or handed out, up to a number of them. -/
def runTasks (invoke : Invoke) : Nat → Option Handle → Flow → List Task → Run Ending
  | 0, _, _, _ => fail .recursionError "maximum recursion depth exceeded"
  | _, _, .next, [] => return .done Fixed.none
  | _, _, .give value, [] => return .done value
  | _, _, .raise thrown, [] => throw thrown
  | _, _, _, [] => return .done Fixed.none
  | fuel + 1, sent, flow, task :: rest => do
    let progress ← match flow with
      | .next => attempt rest (perform invoke sent rest task)
      | flow => attempt rest (giveUp invoke flow rest task)
    match progress with
    | .on flow tasks => runTasks invoke fuel none flow tasks
    | .hand value tasks => return .handed value tasks

/-- How many tasks one call may perform. -/
def taskBound : Nat := 1000000000000

/-- Runs something in other surroundings: an exception that leaves it has the code among its calls,
and the surroundings and the line of the caller come back. -/
def inFrame {α : Type} (frame : Frame) (run : Run α) : Run α := do
  let outer ← machine
  setRegisters ({ · with frame })
  let result ← outcome run
  let result : Except Thrown α ← match result with
    | .ok value => pure (.ok value)
    | .error thrown => do pure (.error { (← recorded thrown) with recorded := false })
  setRegisters ({ · with frame := outer.frame, line := outer.line })
  match result with
  | .ok value => return value
  | .error thrown => throw thrown

/-- Runs statements to their end in some surroundings. -/
def runStatements (invoke : Invoke) (frame : Frame) (line : Nat) (statements : List Statement) :
    Run Handle :=
  inFrame frame do
    onLine line
    match ← runTasks invoke taskBound none .next [.run statements] with
    | .done value => return value
    | .handed value _ => return value

end Run

end ForeignBridge.Foreign
