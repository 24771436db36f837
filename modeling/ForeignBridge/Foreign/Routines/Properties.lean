import ForeignBridge.Foreign.Routines.Classes

/-! # Properties, marks on methods, and what is above a class

A property runs functions when an attribute is read, set or deleted. Marks on methods say that they
belong to the class or to nobody. An object seen from behind a class in its lineage has the attributes
of the classes above.
-/

namespace ForeignBridge.Foreign.Run

/-! Properties. -/

/-- The functions of a property, and its documentation. -/
structure PropertyParts where
  getter : Handle
  setter : Handle
  deleter : Handle
  documentation : Handle

/-- The parts of a property. -/
def propertyParts (self : Handle) : Run PropertyParts := do
  match ← body self with
  | .property getter setter deleter documentation => return ⟨getter, setter, deleter, documentation⟩
  | _ => return ⟨Fixed.none, Fixed.none, Fixed.none, Fixed.none⟩

/-- Sets the parts of a property. -/
def setProperty (self : Handle) (parts : PropertyParts) : Run Unit :=
  setBody self (.property parts.getter parts.setter parts.deleter parts.documentation)

/-- An argument, or the object for nothing if it is missing. -/
def orNone (handle : Handle) : Handle := if handle.isNull then Fixed.none else handle

/-- The place in which a property keeps its name. -/
def propertyName : String := "name"

/-- Starts a property. Without a documentation of its own it has that of its getter. -/
def startProperty (invoke : Invoke) (self : Handle) (arguments : Arguments) : Run Unit := do
  let arguments ← arrangeNamed "property" ⟨["fget", "fset", "fdel", "doc"], 0, 0, 0⟩ arguments
  let getter := orNone arguments.first
  let given := orNone (arguments.nth 3)
  let documentation ←
    if given = Fixed.none ∧ getter ≠ Fixed.none then
      do pure ((← getAttribute? invoke getter "__doc__").getD Fixed.none)
    else pure given
  setProperty self ⟨getter, orNone arguments.second, orNone arguments.third, documentation⟩

/-- A property like another one with one of its functions exchanged. -/
def copyProperty (invoke : Invoke) (self getter setter deleter : Handle) : Run Handle := do
  let parts ← propertyParts self
  let choose (given old : Handle) : Handle := if given = Fixed.none then old else given
  let getter := choose getter parts.getter
  let documentation := if getter ≠ parts.getter then Fixed.none else parts.documentation
  let made ← invoke (← typeOf self)
    (.of [getter, choose setter parts.setter, choose deleter parts.deleter, documentation])
  match (← cell self).places.lookup propertyName with
  | some title => update made fun content => { content with places := [(propertyName, title)] }
  | none => pure ()
  return made

/-- The fault of a property that lacks a function. -/
def lacksFunction {α : Type} (invoke : Invoke) (self object : Handle) (what : String) : Run α := do
  let type ← qualifiedName (← typeOf object)
  match (← cell self).places.lookup propertyName with
  | some title =>
    failText .attributeError ((CodePoints.ofString "property ").append
      ((← reprText invoke title).append
        (.ofString (" of '" ++ type ++ "' object has no " ++ what))))
  | none => fail .attributeError ("property of '" ++ type ++ "' object has no " ++ what)

/-- Whether a function leaves its work to classes below. -/
def isAbstract (invoke : Invoke) (function : Handle) : Run Bool := do
  match ← getAttribute? invoke function "__isabstractmethod__" with
  | some answer => isTrue invoke answer
  | none => return false

/-- The routines of properties. -/
def propertyRoutine (invoke : Invoke) (name : String) (self : Handle) (arguments : Arguments) :
    Run Handle := do
  let first := arguments.first
  let parts ← propertyParts self
  let none := Fixed.none
  match name with
  | "__new__" => newInstance self (.property none none none none)
  | "__init__" =>
    startProperty invoke self arguments
    nothing
  | "__get__" =>
    if orNone first = none then return self
    else if parts.getter = none then lacksFunction invoke self first "getter"
    else invoke parts.getter (.of [first])
  | "__set__" =>
    if parts.setter = none then lacksFunction invoke self first "setter"
    let _ ← invoke parts.setter (.of [first, arguments.second])
    nothing
  | "__delete__" =>
    if parts.deleter = none then lacksFunction invoke self first "deleter"
    let _ ← invoke parts.deleter (.of [first])
    nothing
  | "getter" => copyProperty invoke self first none none
  | "setter" => copyProperty invoke self none first none
  | "deleter" => copyProperty invoke self none none first
  | "__set_name__" =>
    update self fun content => { content with places := [(propertyName, arguments.second)] }
    nothing
  | "__isabstractmethod__" =>
    return truth (← [parts.getter, parts.setter, parts.deleter].anyM (isAbstract invoke))
  | "fget" => return parts.getter
  | "fset" => return parts.setter
  | "fdel" => return parts.deleter
  | "__doc__" => return parts.documentation
  | _ => nothing

/-! Marks on methods. -/

/-- The function that a mark is on. -/
def markedFunction (self : Handle) : Run Handle := do
  match ← body self with
  | .staticMethod function | .classMethod function => return function
  | _ => return Fixed.none

/-- The attributes that a mark takes over from its function. -/
def wrappedNames : List String :=
  ["__module__", "__name__", "__qualname__", "__doc__", "__annotations__"]

/-- Starts a mark on a function. -/
def startMark (invoke : Invoke) (core : Core) (self : Handle) (arguments : Arguments) : Run Unit := do
  refuseKeywords core.title arguments
  checkBetween core.title 1 1 arguments
  let function := arguments.first
  setBody self (if core = .staticMethod then .staticMethod function else .classMethod function)
  for name in wrappedNames do
    match ← getAttribute? invoke function name with
    | some found => store self name found
    | none => pure ()

/-- The routines of marks on methods. -/
def markRoutine (invoke : Invoke) (core : Core) (name : String) (self : Handle)
    (arguments : Arguments) : Run Handle := do
  match name with
  | "__new__" =>
    newInstance self (if core = .staticMethod then .staticMethod Fixed.none
      else .classMethod Fixed.none)
  | "__init__" =>
    startMark invoke core self arguments
    nothing
  | "__repr__" =>
    newText (enclosed ("<" ++ core.name ++ "(") (← reprText invoke (← markedFunction self)) ")>")
  | "__call__" => invoke (← markedFunction self) arguments
  | "__get__" =>
    let object := arguments.first
    let type ← if orNone arguments.second = Fixed.none then typeOf object
      else pure arguments.second
    bind invoke self object type
  | "__func__" | "__wrapped__" => markedFunction self
  | "__isabstractmethod__" => return truth (← isAbstract invoke (← markedFunction self))
  | "__dict__" => dictionaryOf self
  | _ => nothing

/-! What is above a class. -/

/-- The class whose lineage an object is seen in: that of the object, or the object itself. -/
def seenClass (invoke : Invoke) (start object : Handle) : Run Handle := do
  if ← isClass object then
    if ← isSubclass object start then return object
  let type ← typeOf object
  if ← isSubclass type start then return type
  let wrong : Run Handle :=
    fail .typeError "super(type, obj): obj must be an instance or subtype of type"
  match ← getAttribute? invoke object "__class__" with
  | some shown =>
    if shown ≠ type ∧ (← isClass shown) then
      if ← isSubclass shown start then return shown else wrong
    else wrong
  | none => wrong

/-- The class and the object that the code being executed belongs to. -/
def surroundings : Run (Handle × Handle) := do
  let frame := (← machine).frame
  match ← body frame.code with
  | .code code =>
    match code.positional.head?.or code.rest with
    | none => fail .runtimeError "super(): no arguments"
    | some title =>
      let boxed ← match frame.shared.lookup title with
        | some box => body box
        | none => pure (.box none)
      let object := match frame.locals.lookup title, boxed with
        | some found, _ => some found
        | none, .box content => content
        | none, _ => none
      match object with
      | none => fail .runtimeError "super(): arg[0] deleted"
      | some object =>
        match frame.shared.lookup "__class__" with
        | none => fail .runtimeError "super(): __class__ cell not found"
        | some box =>
          match ← body box with
          | .box (some cls) =>
            if ← isClass cls then return (cls, object)
            else
              fail .runtimeError ("super(): __class__ is not a type (" ++ (← typeName cls) ++ ")")
          | _ => fail .runtimeError "super(): empty __class__ cell"
  | _ => fail .runtimeError "super(): no current frame"

/-- Starts a view of an object from behind a class. -/
def startSuper (invoke : Invoke) (self : Handle) (arguments : Arguments) : Run Unit := do
  refuseKeywords "super" arguments
  let count := arguments.positional.length
  if 2 < count then
    fail .typeError ("super() takes at most 2 arguments (" ++ toString count ++ " given)")
  let (start, object) ← if count = 0 then surroundings
    else pure (arguments.first, orNone arguments.second)
  unless ← isClass start do badArgument "super" "argument 1" "type" start
  if object = Fixed.none then setBody self (.above start .null .null)
  else setBody self (.above start object (← seenClass invoke start object))

/-- The routines of objects seen from behind a class. -/
def superRoutine (invoke : Invoke) (name : String) (self : Handle) (arguments : Arguments) :
    Run Handle := do
  let (start, object, objectClass) ← match ← body self with
    | .above start object objectClass => pure (start, object, objectClass)
    | _ => pure (Handle.null, Handle.null, Handle.null)
  match name with
  | "__new__" => newInstance self (.above .null .null .null)
  | "__init__" =>
    startSuper invoke self arguments
    nothing
  | "__repr__" =>
    let title ← if start.isNull then pure "NULL" else className start
    let back ← if objectClass.isNull then pure "NULL>"
      else do pure ("<" ++ (← className objectClass) ++ " object>>")
    newString ("<super: <class '" ++ title ++ "'>, " ++ back)
  | "__getattribute__" => getAttribute invoke self (← attributeName arguments.first)
  | "__get__" =>
    let given := orNone arguments.first
    if given = Fixed.none ∨ !object.isNull then return self
    else invoke (← typeOf self) (.of [start, given])
  | "__thisclass__" => return orNone start
  | "__self__" => return orNone object
  | "__self_class__" => return orNone objectClass
  | _ => nothing

end ForeignBridge.Foreign.Run
