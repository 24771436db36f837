import ForeignBridge.Foreign.Routines.Arguments
import ForeignBridge.Foreign.Routines.Items

/-! # Routines of all objects

What every object can do unless its class does it in another way: it is shown by its class and its
address, compares by identity, and is made without arguments.
-/

namespace ForeignBridge.Foreign

namespace Core

/-- The name of the module that a built-in class belongs to. -/
def home (core : Core) : String :=
  match core.name.splitOn "." with
  | [front, _] => front
  | _ => "builtins"

/-- The built-in class whose constructor makes the instances of a class with some layout. -/
def maker? (core : Core) : Option Core :=
  core.lineage.find? fun above => (above.attribute? "__new__").isSome

/-- Whether instances can be made by calling the class. -/
def isMakeable (core : Core) : Bool := core == object || core.maker? != some object

end Core

namespace Run

/-- The name of a class with those of the classes and functions around it. -/
def qualifiedName (cls : Handle) : Run String := do
  match ← body cls with
  | .cls info => return info.qualifiedName
  | .core core => return core.title
  | _ => className cls

/-- The name of the module of a class, if it is a text. -/
def homeName? (cls : Handle) : Run (Option String) := do
  match ← body cls with
  | .core core => return some core.home
  | _ => ownText? cls "__module__"

/-- The name of a class after that of its module. -/
def fullName (cls : Handle) : Run String := do
  match ← homeName? cls with
  | some "builtins" | none => className cls
  | some home => return home ++ "." ++ (← qualifiedName cls)

/-- Whether a class has an attribute from the class of all objects. -/
def isInherited (cls : Handle) (name : String) : Run Bool := do
  return (← classEntry? cls name) == Core.attribute? .object name

/-- The name that an argument is. -/
def attributeName (handle : Handle) : Run String := do
  match ← text? handle with
  | some text => return text.lossy
  | none => fail .typeError ("attribute name must be string, not '" ++ (← typeName handle) ++ "'")

/-- The names of abstract methods that a class leaves to those below it. -/
def abstractNames (invoke : Invoke) (cls : Handle) : Run (List String) := do
  match ← body cls, ← own? cls "__abstractmethods__" with
  | .cls _, some names =>
    let found ← (← iterate invoke names).mapM strText?
    return (found.filterMap id).mergeSort
  | _, _ => return []
where
  /-- The string of a text object. -/
  strText? (handle : Handle) : Run (Option String) := do return (← text? handle).map CodePoints.lossy

/-- Makes an instance by the rule for all objects. -/
def makeObject (invoke : Invoke) (cls : Handle) (arguments : Arguments) : Run Handle := do
  if arguments.count ≠ 0 then
    if !(← isInherited cls "__new__") then
      fail .typeError "object.__new__() takes exactly one argument (the type to instantiate)"
    if ← isInherited cls "__init__" then
      fail .typeError ((← className cls) ++ "() takes no arguments")
  let names ← abstractNames invoke cls
  unless names.isEmpty do
    fail .typeError ("Can't instantiate abstract class " ++ (← className cls) ++
      " with abstract method" ++ (if names.length = 1 then " " else "s ") ++
      String.intercalate ", " names)
  newInstance cls .plain

/-- Starts an instance by the rule for all objects. -/
def startObject (self : Handle) (arguments : Arguments) : Run Unit := do
  if arguments.count ≠ 0 then
    let cls ← typeOf self
    if !(← isInherited cls "__init__") then
      fail .typeError "object.__init__() takes exactly one argument (the instance to initialize)"
    if ← isInherited cls "__new__" then
      fail .typeError ((← className cls) ++ "() takes no arguments")

/-- The names of the attributes that stand in a class. -/
def namesInClass (cls : Handle) : Run (List String) := do
  match ← body cls with
  | .core core => return (Fixed.routineTable[core.ctorIdx]?.getD []).map (·.1)
  | _ => return (← ownAll cls).map (·.1)

/-- The names of the attributes that an object has through some classes. -/
def namesInClasses (classes : List Handle) : Run (List String) := do
  return (← classes.mapM namesInClass).flatten

/-- The names of the attributes of an object. -/
def attributeNames (handle : Handle) : Run (List String) := do
  let own ← if (← isClass handle) then pure [] else do pure ((← ownAll handle).map (·.1))
  let classes ← if (← isClass handle) then lineage handle else lineage (← typeOf handle)
  return (own ++ (← namesInClasses classes)).eraseDups

/-- The documentation of the class of an object. -/
def documentation (self : Handle) : Run Handle := do
  match ← body self with
  | .core .noneType => nothing
  | _ => if self = Fixed.none then nothing else return Fixed.emptyText

/-- The answer of a comparison by the rule for all objects. -/
def compareIdentities (invoke : Invoke) (comparison : Comparison) (a b : Handle) : Run Handle := do
  match comparison with
  | .equal => return if a = b then Fixed.true else Fixed.notImplemented
  | .notEqual =>
    let answer ← compareSide invoke .equal a b
    if answer = Fixed.notImplemented then return answer
    else return truth (!(← isTrue invoke answer))
  | _ => return Fixed.notImplemented

/-- The state of an object as it is kept apart: its attributes, if it has any. -/
def stateOf (handle : Handle) : Run Handle := do
  if (← ownAll handle).isEmpty then nothing else dictionaryOf handle

/-- The routines of all objects. -/
def objectRoutine (invoke : Invoke) (name : String) (self : Handle) (arguments : Arguments) :
    Run Handle := do
  let first := arguments.first
  match name with
  | "__repr__" =>
    newString ("<" ++ (← fullName (← typeOf self)) ++ " object at " ++ shownAddress ++ ">")
  | "__str__" => reprOf invoke self
  | "__hash__" => newInt (Scalar.identityHash self)
  | "__getattribute__" =>
    let name ← attributeName first
    match ← plainAttribute? invoke self name with
    | some found => return found
    | none => noAttribute self name
  | "__setattr__" =>
    if ← isClass self then
      fail .typeError ("can't apply this __setattr__ to " ++ (← typeName self) ++ " object")
    setPlainAttribute invoke self (← attributeName first) arguments.second
    nothing
  | "__delattr__" =>
    if ← isClass self then
      fail .typeError ("can't apply this __delattr__ to " ++ (← typeName self) ++ " object")
    deletePlainAttribute invoke self (← attributeName first)
    nothing
  | "__class__" => typeOf self
  | "__doc__" => documentation self
  | "__init__" =>
    startObject self arguments
    nothing
  | "__new__" => makeObject invoke self arguments
  | "__format__" =>
    match ← text? first with
    | none => badArgument "__format__" "argument" "str" first
    | some format =>
      if format.codes.isEmpty then strOf invoke self
      else
        fail .typeError ("unsupported format string passed to " ++ (← typeName self) ++
          ".__format__")
  | "__dir__" => newList (← (← attributeNames self).mapM newString)
  | "__sizeof__" => newInt 16
  | "__getstate__" => stateOf self
  | "__reduce__" | "__reduce_ex__" =>
    newTuple [← typeOf self, Fixed.emptyTuple, ← stateOf self]
  | "__subclasshook__" => return Fixed.notImplemented
  | _ =>
    match slotComparison? name with
    | some comparison => compareIdentities invoke comparison self first
    | none => nothing

end Run

end ForeignBridge.Foreign

/-! ## Routines of singletons

The classes of the objects for nothing, for an operation that is not there and for what is left out
have one instance each.
-/

namespace ForeignBridge.Foreign.Run

/-- What a class with one instance is called where it is told of. -/
def singletonTitle : Core → String
  | .noneType => "None"
  | .notImplementedType => "NotImplemented"
  | _ => "Ellipsis"

/-- The only instance of a class. -/
def singleton : Core → Handle
  | .noneType => Fixed.none
  | .notImplementedType => Fixed.notImplemented
  | _ => Fixed.ellipsis

/-- The routines of singletons. -/
def singletonRoutine (core : Core) (name : String) (arguments : Arguments) : Run Handle := do
  match name with
  | "__repr__" | "__reduce__" => newString (singletonTitle core)
  | "__bool__" => return truth (core == .notImplementedType)
  | _ =>
    if arguments.count ≠ 0 then
      let title := if core = .ellipsisType then "EllipsisType" else core.name
      fail .typeError (title ++ " takes no arguments")
    return singleton core

end ForeignBridge.Foreign.Run
