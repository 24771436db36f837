import ForeignBridge.Foreign.Routines.Objects

/-! # Instances and subclasses

Whether an object is an instance of a class, and whether a class is below another one. A class may
have a rule of its own for both; several classes are tried one after another. Types as arguments of a
class, and several types of which any will do, stand for classes in some places.
-/

namespace ForeignBridge.Foreign.Run

/-- The bases that an object says it has, if they are a tuple. -/
def basesOf? (invoke : Invoke) (handle : Handle) : Run (Option (List Handle)) := do
  match ← getAttribute? invoke handle "__bases__" with
  | none => return none
  | some bases =>
    match ← body bases with
    | .tuple items => return some items
    | _ => return none

/-- Whether an object that is like a class is below another one, going up so many steps at most. -/
def isBelow (invoke : Invoke) : Nat → Handle → Handle → Run Bool
  | 0, _, _ => fail .recursionError "maximum recursion depth exceeded"
  | fuel + 1, cls, other => do
    if cls = other then return true
    match ← basesOf? invoke cls with
    | some bases => bases.anyM fun base => isBelow invoke fuel base other
    | none => return false

/-- How far up classes are looked at. -/
def kinshipDepth : Nat := 1000

/-- Checks that an object is like a class. -/
def requireClass (invoke : Invoke) (words : String) (handle : Handle) : Run Unit := do
  if (← basesOf? invoke handle).isNone then fail .typeError words

/-- What a second argument of a test for instances must be. -/
def notForInstances : String := "isinstance() arg 2 must be a type, a tuple of types, or a union"

/-- What a second argument of a test for subclasses must be. -/
def notForSubclasses : String :=
  "issubclass() arg 2 must be a class, a tuple of classes, or a union"

/-- Whether an object is an instance of a class by the rule for all classes. -/
def isPlainInstance (invoke : Invoke) (object cls : Handle) : Run Bool := do
  let type ← typeOf object
  if ← isClass cls then
    if ← isSubclass type cls then return true
    match ← getAttribute? invoke object "__class__" with
    | some shown =>
      if shown ≠ type ∧ (← isClass shown) then isSubclass shown cls else return false
    | none => return false
  else
    requireClass invoke notForInstances cls
    match ← getAttribute? invoke object "__class__" with
    | some shown => isBelow invoke kinshipDepth shown cls
    | none => return false

/-- Whether a class is below another one by the rule for all classes. -/
def isPlainSubclass (invoke : Invoke) (cls other : Handle) : Run Bool := do
  if (← isClass cls) && (← isClass other) then isSubclass cls other
  else
    requireClass invoke "issubclass() arg 1 must be a class" cls
    match ← body other with
    | .union _ => pure ()
    | _ => requireClass invoke notForSubclasses other
    isBelow invoke kinshipDepth cls other

/-- Whether an object is an instance of a class or of one of several, down to some depth. -/
def isInstanceWithin (invoke : Invoke) : Nat → Handle → Handle → Run Bool
  | 0, _, _ => fail .recursionError "maximum recursion depth exceeded in __instancecheck__"
  | fuel + 1, object, cls => do
    if (← typeOf object) = cls then return true
    if (← core? cls) = some .type then return ← isPlainInstance invoke object cls
    match ← body cls with
    | .tuple items => items.anyM (isInstanceWithin invoke fuel object)
    | _ =>
      match ← callSpecial? invoke cls "__instancecheck__" [object] with
      | some answer => isTrue invoke answer
      | none => isPlainInstance invoke object cls

/-- Whether an object is an instance of a class or of one of several. -/
def isInstance (invoke : Invoke) (object cls : Handle) : Run Bool :=
  isInstanceWithin invoke kinshipDepth object cls

/-- Whether a class is below another one or one of several, down to some depth. -/
def isSubclassWithin (invoke : Invoke) : Nat → Handle → Handle → Run Bool
  | 0, _, _ => fail .recursionError "maximum recursion depth exceeded in __subclasscheck__"
  | fuel + 1, cls, other => do
    if (← core? other) = some .type then
      if cls = other then return true else return ← isPlainSubclass invoke cls other
    match ← body other with
    | .tuple items => items.anyM (isSubclassWithin invoke fuel cls)
    | _ =>
      match ← callSpecial? invoke other "__subclasscheck__" [cls] with
      | some answer => isTrue invoke answer
      | none => isPlainSubclass invoke cls other

/-- Whether a class is below another one or one of several. -/
def isSubclassOf (invoke : Invoke) (cls other : Handle) : Run Bool :=
  isSubclassWithin invoke kinshipDepth cls other

/-! Types as arguments, and several types together. -/

/-- Whether an object may stand among several types. -/
def isJoinable (handle : Handle) : Run Bool := do
  if handle = Fixed.none then return true
  match ← body handle with
  | .core _ | .cls _ | .applied .. | .union _ => return true
  | _ => return false

/-- The types that an object stands for among several. -/
def joinedTypes (handle : Handle) : Run (List Handle) := do
  if handle = Fixed.none then return [Core.noneType.handle]
  match ← body handle with
  | .union members => itemsOf members
  | _ => return [handle]

/-- Whether two types are the same among several. -/
def isSameType (invoke : Invoke) (a b : Handle) : Run Bool := do
  match ← body a, ← body b with
  | .applied .., .applied .. => isSame invoke a b
  | _, _ => return a == b

/-- Some types, each once. -/
def distinctTypes (invoke : Invoke) : List Handle → List Handle → Run (List Handle)
  | found, [] => return found.reverse
  | found, type :: rest => do
    if ← found.anyM (isSameType invoke type) then distinctTypes invoke found rest
    else distinctTypes invoke (type :: found) rest

/-- Two types of which either will do. -/
def joinTypes (invoke : Invoke) (left right : Handle) : Run Handle := do
  if !(← isJoinable left) || !(← isJoinable right) then return Fixed.notImplemented
  match ← distinctTypes invoke [] ((← joinedTypes left) ++ (← joinedTypes right)) with
  | [only] => return only
  | types => newOf .unionType (.union (← newTuple types))

/-- A type as it is shown among others. -/
def typeText (invoke : Invoke) (type : Handle) : Run CodePoints := do
  if type = Fixed.ellipsis then return .ofString "..."
  if type = Core.noneType.handle then return .ofString "None"
  match ← body type with
  | .applied .. => reprText invoke type
  | _ =>
    match ← getAttribute? invoke type "__qualname__", ← getAttribute? invoke type "__module__" with
    | some title, some home =>
      let title ← strText invoke title
      if home = Fixed.none then return title
      let home ← strText invoke home
      if home = .ofString "builtins" then return title
      else return home.append ((CodePoints.ofString ".").append title)
    | _, _ => reprText invoke type

/-- The text of a class with types as its arguments. -/
def aliasText (invoke : Invoke) (origin arguments : Handle) : Run CodePoints := do
  let argumentText (type : Handle) : Run CodePoints := do
    if type = Core.noneType.handle then return .ofString "NoneType" else typeText invoke type
  let parts ← (← itemsOf arguments).mapM argumentText
  let inner := if parts.isEmpty then CodePoints.ofString "()"
    else CodePoints.join (.ofString ", ") parts
  return (← typeText invoke origin).append (enclosed "[" inner "]")

/-- The fault of type arguments for what takes none. -/
def notGeneric {α : Type} (invoke : Invoke) (self : Handle) : Run α :=
  failAbout invoke .typeError "" self " is not a generic class"

/-- The routines of classes with types as arguments. -/
def aliasRoutine (invoke : Invoke) (name : String) (self : Handle) (arguments : Arguments) :
    Run Handle := do
  let first := arguments.first
  let (origin, types) ← match ← body self with
    | .applied origin types => pure (origin, types)
    | _ => pure (Fixed.none, Fixed.emptyTuple)
  match name with
  | "__new__" =>
    refuseKeywords "GenericAlias" arguments
    checkBetween "GenericAlias" 2 2 arguments
    newAlias first arguments.second
  | "__repr__" => newText (← aliasText invoke origin types)
  | "__hash__" => newInt (← builtInHash (hashOf invoke) self)
  | "__call__" =>
    let made ← invoke origin arguments
    let _ ← unlessRaised .attributeError
      (unlessRaised .typeError (setAttribute invoke made "__orig_class__" self))
    return made
  | "__getitem__" => notGeneric invoke self
  | "__or__" => joinTypes invoke self first
  | "__ror__" => joinTypes invoke first self
  | "__mro_entries__" => newTuple [origin]
  | "__instancecheck__" =>
    fail .typeError "isinstance() argument 2 cannot be a parameterized generic"
  | "__subclasscheck__" =>
    fail .typeError "issubclass() argument 2 cannot be a parameterized generic"
  | "__origin__" => return origin
  | "__args__" => return types
  | "__parameters__" => return Fixed.emptyTuple
  | _ =>
    match slotComparison? name, ← body first with
    | some comparison, .applied other others =>
      let same ← if ← isSame invoke origin other then isSame invoke types others else pure false
      return truth (if comparison = .notEqual then !same else same)
    | _, _ => return Fixed.notImplemented

/-- The routines of several types together. -/
def unionRoutine (invoke : Invoke) (name : String) (self : Handle) (arguments : Arguments) :
    Run Handle := do
  let first := arguments.first
  let (tuple, types) ← match ← body self with
    | .union members => do pure (members, ← itemsOf members)
    | _ => pure (Fixed.emptyTuple, [])
  let plain (words : String) : Run Unit := do
    for type in types do
      match ← body type with
      | .applied .. => fail .typeError words
      | _ => pure ()
  match name with
  | "__repr__" =>
    newText (CodePoints.join (.ofString " | ") (← types.mapM (typeText invoke)))
  | "__hash__" => newInt (← builtInHash (hashOf invoke) self)
  | "__or__" => joinTypes invoke self first
  | "__ror__" => joinTypes invoke first self
  | "__getitem__" => notGeneric invoke self
  | "__instancecheck__" =>
    plain "isinstance() argument 2 cannot be a parameterized generic"
    return truth (← types.anyM (isInstance invoke first))
  | "__subclasscheck__" =>
    unless ← isClass first do fail .typeError "issubclass() arg 1 must be a class"
    plain "issubclass() argument 2 cannot be a parameterized generic"
    return truth (← types.anyM (isSubclassOf invoke first))
  | "__args__" => return tuple
  | "__parameters__" => return Fixed.emptyTuple
  | _ =>
    match slotComparison? name, ← body first with
    | some comparison, .union other =>
      let others ← itemsOf other
      let below ← types.allM fun type => others.anyM (isSameType invoke type)
      let above ← others.allM fun type => types.anyM (isSameType invoke type)
      let same := below && above
      return truth (if comparison = .notEqual then !same else same)
    | _, _ => return Fixed.notImplemented

end ForeignBridge.Foreign.Run
