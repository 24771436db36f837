import ForeignBridge.Foreign.Names

/-! # Attributes

How the attributes of objects are found, set and deleted. A name is looked up in the classes of an
object and among the attributes of its own; what stands in a class is bound to the object when it is
read, and some of it comes before the object's own attributes.
-/

namespace ForeignBridge.Foreign.Run

/-- What stands under a name in one class. -/
def inClass? (cls : Handle) (name : String) : Run (Option Handle) := do
  match ← body cls with
  | .core core => return core.attribute? name
  | _ => own? cls name

/-- What stands under a name in the first of some classes that has it. -/
def lookup (name : String) : List Handle → Run (Option Handle)
  | [] => return none
  | cls :: rest => do
    match ← inClass? cls name with
    | some found => return some found
    | none => lookup name rest

/-- What stands under a name in a class or one above it. -/
def classEntry? (cls : Handle) (name : String) : Run (Option Handle) := do
  lookup name (← lineage cls)

/-- What stands under a name in the classes of an object. -/
def typeAttribute (handle : Handle) (name : String) : Run (Option Handle) := do
  classEntry? (← typeOf handle) name

/-- What stands under a name in the classes of the class of an entry, if a program declared it. -/
def declared? (entry : Handle) (name : String) : Run (Option Handle) := do
  let type ← typeOf entry
  if (Core.ofHandle? type).isSome then return none else classEntry? type name

/-- Whether an attribute of a class comes before the attributes of an instance. -/
def isData (entry : Handle) : Run Bool := do
  match ← body entry with
  | .property .. | .member .. | .attributesOf .. => return true
  | .routine routine =>
    return routine.flavour == .part || (routine.flavour == .value && routine.name != "__doc__")
  | _ => return (← declared? entry "__set__").isSome || (← declared? entry "__delete__").isSome

/-- Raises that an attribute is not there. -/
def failAttribute {α : Type} (handle : Handle) (name message : String) : Run α := do
  raise (← newExceptionWith .attributeError [← newString message]
    [("name", ← internString name), ("obj", handle)])

/-- The fault of an attribute that an object of a class does not have. -/
def noAttribute {α : Type} (handle : Handle) (name : String) : Run α := do
  match ← body handle with
  | .core core =>
    failAttribute handle name ("type object '" ++ core.name ++ "' has no attribute '" ++ name ++ "'")
  | .cls info =>
    failAttribute handle name ("type object '" ++ info.name ++ "' has no attribute '" ++ name ++ "'")
  | _ =>
    failAttribute handle name
      ("'" ++ (← typeName handle) ++ "' object has no attribute '" ++ name ++ "'")

/-- The fault of reading an attribute of a module that is not there. -/
def noModuleAttribute {α : Type} (handle : Handle) (name : String) : Run α := do
  match ← ownText? handle "__name__" with
  | some title =>
    failAttribute handle name ("module '" ++ title ++ "' has no attribute '" ++ name ++ "'")
  | none => failAttribute handle name ("module has no attribute '" ++ name ++ "'")

/-- The class of a routine that is bound to an object. -/
def boundClass : Flavour → Core
  | .slot => .methodWrapper
  | _ => .builtinFunction

/-- An attribute of a class as it is read through an object of the class, or through the class alone
if the object is missing. -/
def bind (invoke : Invoke) (entry self type : Handle) : Run Handle := do
  match ← body entry with
  | .function _ => if self.isNull then return entry else newOf .method (.method entry self)
  | .routine routine =>
    match routine.flavour with
    | .method | .slot =>
      if self.isNull then return entry
      else newOf (boundClass routine.flavour) (.boundRoutine routine self)
    | .classMethod => newOf .builtinFunction (.boundRoutine routine type)
    | .alone => return entry
    | .value | .part =>
      if self.isNull then return entry
      else
        match ← typeAttribute entry "__get__" with
        | some rule => invoke rule (.of [entry, .null, self])
        | none => return entry
  | .property getter .. =>
    if self.isNull then return entry
    else if getter = Fixed.none then
      fail .attributeError ("property of '" ++ (← className type) ++ "' object has no getter")
    else invoke getter (.of [self])
  | .member owner name =>
    if self.isNull then return entry
    else if !(← isSubclass (← typeOf self) owner) then
      fail .typeError ("descriptor '" ++ name ++ "' for '" ++ (← className owner) ++
        "' objects doesn't apply to a '" ++ (← typeName self) ++ "' object")
    else
      match (← cell self).places.lookup name with
      | some found => return found
      | none => noAttribute self name
  | .attributesOf _ name =>
    if self.isNull then return entry
    else if name = "__dict__" then dictionaryOf self
    else return Fixed.none
  | .staticMethod function => return function
  | .classMethod function =>
    match ← body function with
    | .function _ => newOf .method (.method function type)
    | .property getter .. => invoke getter (.of [type])
    | _ =>
      match ← declared? function "__get__" with
      | some getter => invoke getter (.of [function, type, type])
      | none => newOf .method (.method function type)
  | _ =>
    match ← declared? entry "__get__" with
    | some getter =>
      invoke getter (.of [entry, if self.isNull then Fixed.none else self, type])
    | none => return entry

/-- An attribute of a class as an instance reads it. A property is named by its place in the
class. -/
def bindTo (invoke : Invoke) (entry self : Handle) (name : String) : Run Handle := do
  match ← body entry with
  | .property getter .. =>
    if getter = Fixed.none then
      fail .attributeError ("property '" ++ name ++ "' of '" ++ (← typeName self) ++
        "' object has no getter")
    else invoke getter (.of [self])
  | _ => bind invoke entry self (← typeOf self)

/-- Calls what stands in a class for an operation on an object. -/
def callEntry (invoke : Invoke) (entry self : Handle) (arguments : List Handle) : Run Handle := do
  match ← body entry with
  | .function _ => invoke entry (.of (self :: arguments))
  | .routine routine =>
    match routine.flavour with
    | .method | .slot => invoke entry (.of (self :: arguments))
    | _ => invoke (← bind invoke entry self (← typeOf self)) (.of arguments)
  | _ => invoke (← bind invoke entry self (← typeOf self)) (.of arguments)

/-- Calls the operation of a name on an object, if the class of the object has it. -/
def callSpecial? (invoke : Invoke) (self : Handle) (name : String) (arguments : List Handle) :
    Run (Option Handle) := do
  match ← typeAttribute self name with
  | some entry => some <$> callEntry invoke entry self arguments
  | none => return none

/-- The attribute of an object by the rule for all objects: what comes first in a class, then the
object's own, then the rest of the class. -/
def plainAttribute? (invoke : Invoke) (handle : Handle) (name : String) : Run (Option Handle) := do
  let entry ← typeAttribute handle name
  match entry with
  | some found =>
    if ← isData found then return some (← bindTo invoke found handle name)
  | none => pure ()
  match ← own? handle name with
  | some found => return some found
  | none =>
    match entry with
    | some found => return some (← bindTo invoke found handle name)
    | none => return none

/-- The attribute of a class. -/
def classAttribute (invoke : Invoke) (cls : Handle) (name : String) : Run Handle := do
  let entry ← typeAttribute cls name
  match entry with
  | some found =>
    if ← isData found then return ← bindTo invoke found cls name
  | none => pure ()
  match ← classEntry? cls name with
  | some found => bind invoke found .null cls
  | none =>
    match entry with
    | some found => bindTo invoke found cls name
    | none => noAttribute cls name

/-- The classes after one in a lineage. -/
def beyond (start : Handle) : List Handle → List Handle
  | [] => []
  | cls :: rest => if cls = start then rest else beyond start rest

/-- The names of an alias that are not those of its origin. -/
def aliasNames : List String :=
  ["__origin__", "__args__", "__parameters__", "__mro_entries__", "__reduce_ex__", "__reduce__",
   "__copy__", "__deepcopy__", "__class__", "__repr__"]

/-- The attribute of an object by the rule of what it is, given the rule for all attributes of other
objects. -/
def ruledAttribute (invoke : Invoke) (other : Handle → String → Run Handle) (handle : Handle)
    (name : String) : Run Handle := do
  match ← body handle with
  | .core _ | .cls _ => classAttribute invoke handle name
  | .module =>
    match ← plainAttribute? invoke handle name with
    | some found => return found
    | none =>
      match ← own? handle "__getattr__" with
      | some rule => invoke rule (.of [← newString name])
      | none => noModuleAttribute handle name
  | .method function _ =>
    match ← typeAttribute handle name with
    | some entry => bindTo invoke entry handle name
    | none => other function name
  | .above start object objectClass =>
    let found ← if name = "__class__" ∨ object.isNull then pure none
      else lookup name (beyond start (← lineage objectClass))
    match found with
    | some entry =>
      bind invoke entry (if object = objectClass then .null else object) objectClass
    | none =>
      match ← plainAttribute? invoke handle name with
      | some found => return found
      | none => noAttribute handle name
  | .applied origin _ =>
    if name ∈ aliasNames then
      match ← plainAttribute? invoke handle name with
      | some found => return found
      | none => noAttribute handle name
    else other origin name
  | _ =>
    match ← plainAttribute? invoke handle name with
    | some found => return found
    | none => noAttribute handle name

/-- The attribute of an object, going through so many objects at most. A class may replace the rule,
or add one for attributes that are not there. -/
def attributeWithin (invoke : Invoke) : Nat → Handle → String → Run Handle
  | 0, handle, name => noAttribute handle name
  | fuel + 1, handle, name => do
    let plain := ruledAttribute invoke (attributeWithin invoke fuel) handle name
    if (← core? handle).isSome then plain
    else
      let own : Run Handle := do
        match ← typeAttribute handle "__getattribute__" with
        | some rule =>
          match ← body rule with
          | .routine _ => plain
          | _ => callEntry invoke rule handle [← internString name]
        | none => plain
      match ← typeAttribute handle "__getattr__" with
      | none => own
      | some rule =>
        match ← unlessRaised .attributeError own with
        | some found => return found
        | none => callEntry invoke rule handle [← internString name]

/-- The attribute of an object. -/
def getAttribute (invoke : Invoke) (handle : Handle) (name : String) : Run Handle :=
  attributeWithin invoke 100 handle name

/-- The attribute of an object, if it is there. -/
def getAttribute? (invoke : Invoke) (handle : Handle) (name : String) : Run (Option Handle) :=
  unlessRaised .attributeError (getAttribute invoke handle name)

/-- Whether an object can have attributes of any name. -/
def isOpen (handle : Handle) : Run Bool := do
  let content ← cell handle
  match content.body with
  | .function _ | .module | .exception _ | .staticMethod _ | .classMethod _ => return true
  | _ =>
    match ← body content.type with
    | .cls info => return info.open?
    | _ => return false

/-- What an entry of a class does under one of the names for setting and deleting. -/
def dataRule? (entry : Handle) (name : String) : Run (Option Handle) := do
  match ← body entry with
  | .property .. | .member .. | .attributesOf .. => typeAttribute entry name
  | .routine routine =>
    if routine.flavour = .part ∨ (routine.flavour = .value ∧ routine.name ≠ "__doc__") then
      typeAttribute entry name
    else return none
  | _ => declared? entry name

/-- The fault of changing an attribute of an object that has none of its own. -/
def fixed {α : Type} (handle : Handle) (name : String) (inClass : Bool) : Run α := do
  let type ← typeName handle
  if inClass then
    fail .attributeError ("'" ++ type ++ "' object attribute '" ++ name ++ "' is read-only")
  else failAttribute handle name ("'" ++ type ++ "' object has no attribute '" ++ name ++ "'")

/-- The fault of changing a class that no program can change. -/
def immutable {α : Type} (core : Core) (name : String) : Run α :=
  fail .typeError ("cannot set '" ++ name ++ "' attribute of immutable type '" ++ core.name ++ "'")

/-- Sets an attribute by the rule for all objects. -/
def setPlainAttribute (invoke : Invoke) (handle : Handle) (name : String) (value : Handle) :
    Run Unit := do
  match ← body handle with
  | .core core => immutable core name
  | content =>
    let entry ← typeAttribute handle name
    let rule ← match entry with
      | some found => dataRule? found "__set__"
      | none => pure none
    match entry, rule with
    | some found, some rule =>
      let _ ← invoke rule (.of [found, handle, value])
      return
    | _, _ =>
      match entry with
      | some found =>
        if (← declared? found "__delete__").isSome then fail .attributeError "__set__"
      | none => pure ()
      match content with
      | .cls _ =>
        store handle name value
        if name = "__del__" then setRegisters ({ · with finalizers := true })
      | _ => if ← isOpen handle then store handle name value else fixed handle name entry.isSome

/-- Sets an attribute of an object. A class may replace the rule. -/
def setAttribute (invoke : Invoke) (handle : Handle) (name : String) (value : Handle) :
    Run Unit := do
  if (← core? handle).isSome then setPlainAttribute invoke handle name value
  else
    match ← typeAttribute handle "__setattr__" with
    | none => setPlainAttribute invoke handle name value
    | some rule =>
      match ← body rule with
      | .routine _ => setPlainAttribute invoke handle name value
      | _ =>
        let _ ← callEntry invoke rule handle [← internString name, value]
        return

/-- Deletes an attribute by the rule for all objects. -/
def deletePlainAttribute (invoke : Invoke) (handle : Handle) (name : String) : Run Unit := do
  match ← body handle with
  | .core core => immutable core name
  | content =>
    let entry ← typeAttribute handle name
    let rule ← match entry with
      | some found => dataRule? found "__delete__"
      | none => pure none
    match entry, rule with
    | some found, some rule =>
      let _ ← invoke rule (.of [found, handle])
      return
    | _, _ =>
      let isClass := match content with
        | .cls _ => true
        | _ => false
      if isClass || (← isOpen handle) then
        unless ← dropOwn handle name do noAttribute handle name
      else fixed handle name entry.isSome

/-- Deletes an attribute of an object. A class may replace the rule. -/
def deleteAttribute (invoke : Invoke) (handle : Handle) (name : String) : Run Unit := do
  if (← core? handle).isSome then deletePlainAttribute invoke handle name
  else
    match ← typeAttribute handle "__delattr__" with
    | none => deletePlainAttribute invoke handle name
    | some rule =>
      match ← body rule with
      | .routine _ => deletePlainAttribute invoke handle name
      | _ =>
        let _ ← callEntry invoke rule handle [← internString name]
        return

end ForeignBridge.Foreign.Run
