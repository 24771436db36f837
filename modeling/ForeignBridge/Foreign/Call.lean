import ForeignBridge.Foreign.Importing.Import
import ForeignBridge.Foreign.Routines.Callables
import ForeignBridge.Foreign.Routines.Exceptions
import ForeignBridge.Foreign.Routines.Mathematics
import ForeignBridge.Foreign.Routines.Objects
import ForeignBridge.Foreign.Routines.System
import ForeignBridge.Foreign.Routines.Texts
import ForeignBridge.Foreign.Routines.Views

/-! # Calls

What happens when an object is called. Calls within calls go down one level each, and at the lowest
level a call is refused.
-/

namespace ForeignBridge.Foreign.Run

/-- Calls a routine of a module. -/
def callModuleRoutine (invoke : Invoke) (module name : String) (arguments : Arguments) :
    Run Handle :=
  match module, name with
  | "builtins", "__import__" => importRoutine invoke arguments
  | "builtins", _ => builtinsRoutine invoke name arguments
  | "math", _ => mathematicsRoutine invoke name arguments
  | "sys", _ => systemRoutine invoke name arguments
  | "posix", _ => pathArgument invoke arguments.first
  | _, _ => tracebackLines invoke arguments.first arguments.second

/-! Attributes that are computed. -/

/-- Sets or deletes an attribute of an object that a routine computes; the answer says whether there
is a way to. -/
def setComputed (invoke : Invoke) (core : Core) (name : String) (object value : Handle) :
    Run Bool := do
  match core, name with
  | .object, "__class__" =>
    setClassOf object value
    return true
  | .type, _ => setClassPart object name value
  | .function, _ => setFunctionPart object name value
  | .module, _ => setModulePart object name value
  | .property, "__doc__" =>
    let parts ← propertyParts object
    setProperty object { parts with documentation := orNone value }
    return true
  | .staticMethod, "__dict__" | .classMethod, "__dict__" =>
    match ← body value with
    | .dict _ =>
      update object fun content => { content with attributes := [], dictionary := some value }
      return true
    | _ =>
      fail .typeError ("__dict__ must be set to a dictionary, not a '" ++ (← typeName value) ++ "'")
  | .generator, "__name__" | .generator, "__qualname__" =>
    match ← body object, ← text? value with
    | .generator state, some text =>
      setGenerator object (if name = "__name__" then { state with name := text.lossy }
        else { state with qualifiedName := text.lossy })
      return true
    | _, _ => fail .typeError (name ++ " must be set to a string object")
  | .box, "cell_contents" =>
    setBody object (.box (if value.isNull then none else some value))
    return true
  | _, _ => if core.isException then setExceptionPart invoke name object value else return false

/-- Sets or deletes an attribute of an object that a routine computes. -/
def changeComputed (invoke : Invoke) (routine : Routine) (object value : Handle) : Run Unit := do
  requireOwner routine object
  match routine.owner with
  | .module _ => return
  | .core core =>
    unless ← setComputed invoke core routine.name object value do
      if routine.flavour = .part then fail .attributeError "readonly attribute"
      else
        fail .attributeError ("attribute '" ++ routine.name ++ "' of '" ++ core.name ++
          "' objects is not writable")

/-! Routines of built-in classes. -/

/-- Calls a routine of a built-in class on an object. -/
def callCoreRoutine (invoke : Invoke) (core : Core) (name : String) (self : Handle)
    (arguments : Arguments) : Run Handle :=
  match core with
  | .object => objectRoutine invoke name self arguments
  | .type => typeRoutine invoke name self arguments
  | .noneType | .notImplementedType | .ellipsisType => singletonRoutine core name arguments
  | .bool => boolRoutine invoke name self arguments
  | .int => intRoutine invoke name self arguments
  | .float => floatRoutine invoke name self arguments
  | .complex => complexRoutine invoke name self arguments
  | .str => strRoutine invoke name self arguments
  | .bytes => bytesRoutine invoke name self arguments
  | .byteArray => byteArrayRoutine invoke name self arguments
  | .list => listRoutine invoke name self arguments
  | .tuple => tupleRoutine invoke name self arguments
  | .dict => dictRoutine invoke name self arguments
  | .set | .frozenset => setRoutine invoke name self arguments
  | .slice => sliceRoutine invoke name self arguments
  | .range => rangeRoutine invoke name self arguments
  | .function => functionRoutine invoke name self arguments
  | .code => codeRoutine name self arguments
  | .frame => frameRoutine name self
  | .box => boxRoutine invoke name self arguments
  | .builtinFunction | .methodWrapper | .methodDescriptor | .wrapperDescriptor
  | .classMethodDescriptor => routineRoutine invoke name self arguments
  | .attributeDescriptor | .memberDescriptor => placeRoutineOf invoke name self arguments
  | .method => methodRoutine invoke name self arguments
  | .property => propertyRoutine invoke name self arguments
  | .staticMethod | .classMethod => markRoutine invoke core name self arguments
  | .module => moduleRoutine invoke name self arguments
  | .traceback => tracebackRoutine name self
  | .dictKeys | .dictValues | .dictItems => viewRoutine invoke name self arguments
  | .mappingProxy => proxyRoutine invoke name self arguments
  | .generator => generatorRoutine invoke name self arguments
  | .genericAlias => aliasRoutine invoke name self arguments
  | .unionType => unionRoutine invoke name self arguments
  | .super => superRoutine invoke name self arguments
  | core =>
    if core.isException then exceptionRoutine invoke core name self arguments
    else iteratorRoutine invoke core name self arguments

/-- What a descriptor of an attribute that is computed does for an object. An attribute is read
without a first object and with the object that it is read of as the second. -/
def callDescriptor (invoke : Invoke) (described : Routine) (name : String) (self : Handle)
    (arguments : Arguments) : Run Handle := do
  let object := if arguments.first.isNull then arguments.second else arguments.first
  match name, described.owner with
  | "__get__", .core core =>
    if arguments.first = Fixed.none then return self
    else
      requireOwner described object
      callCoreRoutine invoke core described.name object (.of [])
  | "__set__", _ =>
    changeComputed invoke described object arguments.second
    nothing
  | "__delete__", _ =>
    changeComputed invoke described object .null
    nothing
  | _, _ => routineRoutine invoke name self arguments

/-- Performs a routine of a built-in class on an object. -/
def performRoutine (invoke : Invoke) (core : Core) (name : String) (self : Handle)
    (arguments : Arguments) : Run Handle := do
  match core with
  | .attributeDescriptor | .memberDescriptor =>
    match ← body self with
    | .routine described => callDescriptor invoke described name self arguments
    | _ => callCoreRoutine invoke core name self arguments
  | core => callCoreRoutine invoke core name self arguments

/-! Constructors. -/

/-- The class at or above one whose constructor is not written in the language, going up so many steps
at most. -/
def builtInMaker (cls : Handle) : Nat → Run Handle
  | 0 => return cls
  | fuel + 1 => do
    match ← classEntry? cls "__new__", ← body cls with
    | some entry, .cls info =>
      match ← body entry with
      | .routine _ => return cls
      | _ => builtInMaker info.base fuel
    | _, _ => return cls

/-- Checks that a constructor of a built-in class may make instances of a class. -/
def checkMaker (core : Core) (cls : Handle) : Run Unit := do
  let title := core.name
  unless ← isClass cls do
    fail .typeError (title ++ ".__new__(X): X is not a type object (" ++ (← typeName cls) ++ ")")
  let name ← className cls
  unless ← isSubclass cls core.handle do
    fail .typeError (title ++ ".__new__(" ++ name ++ "): " ++ name ++ " is not a subtype of " ++
      title)
  let maker ← builtInMaker cls ((← lineage cls).length + 1)
  if (← layout maker).maker? ≠ core.maker? then
    fail .typeError (title ++ ".__new__(" ++ name ++ ") is not safe, use " ++ (← className maker) ++
      ".__new__()")

/-- Calls a constructor of a built-in class. -/
def callMaker (invoke : Invoke) (core : Core) (arguments : Arguments) : Run Handle := do
  match arguments.positional with
  | [] => fail .typeError (core.name ++ ".__new__(): not enough arguments")
  | cls :: rest =>
    checkMaker core cls
    callCoreRoutine invoke core "__new__" cls ⟨rest, arguments.keywords⟩

/-! Routines. -/

/-- The fault of a routine that is called without an object. -/
def needsObject {α : Type} (routine : Routine) (core : Core) : Run α :=
  match routine.flavour with
  | .method => fail .typeError ("unbound method " ++ routine.label ++ " needs an argument")
  | _ =>
    fail .typeError ("descriptor '" ++ routine.name ++ "' of '" ++ core.name ++
      "' object needs an argument")

/-- Checks that a routine of a built-in class may be called on an object. -/
def checkObject (routine : Routine) (core : Core) (self : Handle) : Run Unit := do
  match routine.flavour with
  | .classMethod =>
    unless ← isClass self do
      fail .typeError ("descriptor '" ++ routine.name ++ "' requires a type but received a '" ++
        (← typeName self) ++ "' instance")
    unless ← isSubclass self core.handle do
      fail .typeError ("descriptor '" ++ routine.name ++ "' requires a subtype of '" ++ core.name ++
        "' but received '" ++ (← className self) ++ "'")
  | .slot =>
    unless ← isA self core do
      fail .typeError ("descriptor '" ++ routine.name ++ "' requires a '" ++ core.name ++
        "' object but received a '" ++ (← typeName self) ++ "'")
  | _ => requireOwner routine self

/-- Calls a routine. One that belongs to the instances of a class takes its object first, which must
be of the class. -/
def callRoutine (invoke : Invoke) (self : Handle) (routine : Routine) (arguments : Arguments) :
    Run Handle := do
  match routine.owner with
  | .module module =>
    callModuleRoutine invoke module routine.name (← arrange routine routine.label arguments)
  | .core core =>
    match routine.flavour with
    | .value | .part =>
      fail .typeError ("'" ++ (← typeName self) ++ "' object is not callable")
    | .alone =>
      if routine.name = "__new__" then callMaker invoke core arguments
      else
        callCoreRoutine invoke core routine.name core.handle
          (← arrange routine routine.label arguments)
    | _ =>
      match arguments.positional with
      | [] => needsObject routine core
      | object :: rest =>
        checkObject routine core object
        performRoutine invoke core routine.name object
          (← arrange routine routine.label ⟨rest, arguments.keywords⟩)

/-- Calls a routine that is bound to an object. -/
def callBound (invoke : Invoke) (routine : Routine) (object : Handle) (arguments : Arguments) :
    Run Handle := do
  match routine.owner with
  | .module module =>
    callModuleRoutine invoke module routine.name (← arrange routine routine.label arguments)
  | .core core =>
    let label := (← routineTitle routine object) ++ "()"
    performRoutine invoke core routine.name object (← arrange routine label arguments)

/-- Calls an object. -/
def callObject (invoke : Invoke) (target : Handle) (arguments : Arguments) : Run Handle := do
  let byRule : Run Handle := do
    match ← typeAttribute target "__call__" with
    | some rule => callEntryWith invoke rule target arguments
    | none => fail .typeError ("'" ++ (← typeName target) ++ "' object is not callable")
  match ← body target with
  | .function info => callFunction invoke target info arguments
  | .routine routine => callRoutine invoke target routine arguments
  | .boundRoutine routine object => callBound invoke routine object arguments
  | .method function self => invoke function (arguments.after self)
  | .core _ => construct invoke target arguments
  | .cls _ =>
    match ← typeAttribute target "__call__" with
    | some rule =>
      match ← body rule with
      | .routine _ => construct invoke target arguments
      | _ => callEntryWith invoke rule target arguments
    | none => construct invoke target arguments
  | _ => byRule

/-! Levels. -/

/-- The fault of a call at the lowest level. -/
def tooDeep (target : Handle) : Run Handle := do
  let words ← match ← body target with
    | .routine routine | .boundRoutine routine _ =>
      pure (if routine.name = "__repr__" then " while getting the repr of an object"
        else if routine.name = "__str__" then " while getting the str of an object"
        else if (slotComparison? routine.name).isSome then " in comparison"
        else " while calling a Python object")
    | _ => pure ""
  fail .recursionError ("maximum recursion depth exceeded" ++ words)

/-- Whether an object is a routine for an operator, which takes no level of its own. -/
def isOperator (target : Handle) : Run Bool := do
  match ← body target with
  | .routine routine => return (slotOperator? routine.name).isSome
  | _ => return false

/-- Calls an object with some number of levels left. -/
def invokeWithin : Nat → Invoke
  | 0, target, arguments => do
    if ← isOperator target then callObject (fun inner _ => tooDeep inner) target arguments
    else tooDeep target
  | levels + 1, target, arguments => callObject (invokeWithin levels) target arguments

/-- Calls an object. -/
def call : Invoke := invokeWithin callLimit

/-- Calls an object for a text that is being evaluated, which takes a level itself. -/
def callWithin : Invoke := invokeWithin (callLimit - 1)

end ForeignBridge.Foreign.Run
