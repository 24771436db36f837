import ForeignBridge.Foreign.Linking.Mentions
import ForeignBridge.Foreign.Execution.Functions
import ForeignBridge.Foreign.Routines.Encodings
import ForeignBridge.Foreign.Routines.Kinship
import ForeignBridge.Foreign.Routines.Lineage
import ForeignBridge.Foreign.Routines.Tuples

/-! # Classes

A class is made of a name, its bases and the names in its body. It may give its instances places for
attributes instead of attributes of any name. What stands in it is told its name, and the class above
is told of the new class.
-/

namespace ForeignBridge.Foreign.Run

/-- The places that a class declares for attributes of its instances. -/
structure Places where
  names : List String
  /-- Whether instances have attributes of any name besides. -/
  open? : Bool
  /-- Whether instances may be referred to without being kept. -/
  weak : Bool

/-- The name of a place, which must look like a name. -/
def placeName (cls : String) (name : Handle) : Run String := do
  match ← text? name with
  | none =>
    fail .typeError ("__slots__ items must be strings, not '" ++ (← typeName name) ++ "'")
  | some text =>
    if Characters.isName text.codes then return privateName (some cls) text.lossy
    else fail .typeError "__slots__ must be identifiers"

/-- The places that a class declares, given what stands in it and whether instances of its base have
attributes of any name and may be referred to without being kept. -/
def placesFor (invoke : Invoke) (cls : String) (base slots : Handle)
    (attributes : List (String × Handle)) (baseOpen baseWeak : Bool) : Run Places := do
  let items ← match ← body slots with
    | .text _ => pure [slots]
    | .tuple items => pure items
    | _ => gather invoke slots
  if !items.isEmpty ∧ (← layout base).isSized then
    fail .typeError ("nonempty __slots__ not supported for subtype of '" ++ (← className base) ++ "'")
  let names ← items.mapM (placeName cls)
  if 1 < names.count "__dict__" ∨ (baseOpen ∧ names.contains "__dict__") then
    fail .typeError "__dict__ slot disallowed: we already got one"
  if 1 < names.count "__weakref__" ∨ (baseWeak ∧ names.contains "__weakref__") then
    fail .typeError
      "__weakref__ slot disallowed: either we already got one, or __itemsize__ != 0"
  let own := names.filter fun name => name != "__dict__" && name != "__weakref__"
  for name in own do
    if (attributes.lookup name).isSome ∧ name ≠ "__qualname__" ∧ name ≠ "__classcell__" then
      fail .valueError ("'" ++ name ++ "' in __slots__ conflicts with class variable")
  return ⟨own.mergeSort, names.contains "__dict__", names.contains "__weakref__"⟩

/-- Whether instances of a class may be referred to without being kept. -/
def makesWeak (cls : Handle) : Run Bool := do
  match ← body cls with
  | .core core => return core.isWeak || core.isSized
  | _ => return (← layout cls).isSized || (← classEntry? cls "__weakref__").isSome ||
      (← layout cls).isWeak

/-- What stands in a class under a name that has a mark of its own in every class. -/
def marked (name : String) (value : Handle) : Run Handle := do
  match name, ← body value with
  | "__new__", .function _ => newOf .staticMethod (.staticMethod value)
  | "__init_subclass__", .function _ | "__class_getitem__", .function _ =>
    newOf .classMethod (.classMethod value)
  | _, _ => return value

/-- The name of the module that a new class belongs to: that of the code that is being executed. -/
def currentHome? : Run (Option Handle) := do
  let globals := (← machine).frame.globals
  if globals.isNull then return none else getName? globals "__name__"

/-- The name of a new class with those around it, as what stands in it says. -/
def qualifiedNameIn (name : String) (attributes : List (String × Handle)) : Run String := do
  match attributes.lookup "__qualname__" with
  | none => return name
  | some given =>
    match ← text? given with
    | some text => return text.lossy
    | none =>
      fail .typeError ("type __qualname__ must be a str, not " ++ (← typeName given))

/-- The lineage of a new class, for which the class of the class may have a rule. -/
def newLineage (invoke : Invoke) (cls metaclass : Handle) (bases : List Handle) :
    Run (List Handle) := do
  let usual := lineageFor cls bases
  if metaclass = Core.type.handle then usual
  else
    match ← classEntry? metaclass "mro" with
    | none => usual
    | some rule =>
      match ← body rule with
      | .routine _ => usual
      | _ =>
        let classes ← iterate invoke (← callEntry invoke rule cls [])
        for other in classes do
          unless ← isClass other do
            fail .typeError ("mro() returned a non-class ('" ++ (← typeName other) ++ "')")
        return classes

/-- Tells what stands in a class its name there. -/
def tellNames (invoke : Invoke) (cls : Handle) : List (String × Handle) → Run Unit
  | [] => return
  | (name, value) :: rest => do
    match ← typeAttribute value "__set_name__" with
    | none => pure ()
    | some rule =>
      let told := callEntry invoke rule value [cls, ← internString name]
      match ← outcome told with
      | .ok _ => pure ()
      | .error thrown =>
        let text ← reprText invoke (← newString name)
        let message := (CodePoints.ofString ("Error calling __set_name__ on '" ++
          (← typeName value) ++ "' instance ")).append
            (text.append (.ofString (" in '" ++ (← className cls) ++ "'")))
        let made ← newExceptionWith .runtimeError [← newText message]
          [("__cause__", thrown.exception), ("__context__", thrown.exception),
           ("__suppress_context__", Fixed.true)]
        throw ⟨made, [], false⟩
    tellNames invoke cls rest

/-- Tells the class above a new class of it. -/
def tellParent (invoke : Invoke) (cls : Handle) (keywords : List (String × Handle)) : Run Unit := do
  match ← lookup "__init_subclass__" (beyond cls (← lineage cls)) with
  | none => return
  | some rule =>
    let _ ← invoke (← bind invoke rule cls cls) ⟨[], keywords⟩
    return

/-- The shared variable by which methods know their class. -/
def classBox? (attributes : List (String × Handle)) : Run (Option Handle) := do
  match attributes.lookup "__classcell__" with
  | none => return none
  | some box =>
    match ← body box with
    | .box _ => return some box
    | _ =>
      fail .typeError ("__classcell__ must be a nonlocal cell, not <class '" ++
        (← fullName (← typeOf box)) ++ "'>")

/-- The name of a new class, which must be one that the machine can keep. -/
def checkClassName (name : CodePoints) : Run String := do
  match name.string? with
  | none =>
    let _ ← encodeText name none none
    return name.lossy
  | some text =>
    if text.contains (Char.ofNat 0) then
      fail .valueError "type name must not contain null characters"
    else return text

/-- A new class of a class of classes, with a name, bases and what stands in it. -/
def newClass (invoke : Invoke) (metaclass : Handle) (name : CodePoints) (bases : Handle)
    (attributes : List (String × Handle)) (keywords : List (String × Handle)) : Run Handle := do
  let items ← itemsOf bases
  let base ← bestBase items
  let title ← checkClassName name
  let baseOpen ← makesOpen base
  let baseWeak ← makesWeak base
  let places ← match attributes.lookup "__slots__" with
    | some slots => placesFor invoke title base slots attributes baseOpen baseWeak
    | none => pure ⟨[], !baseOpen, !baseWeak⟩
  let otherOpen ← items.anyM makesOpen
  let qualifiedName ← qualifiedNameIn title attributes
  let box ← classBox? attributes
  let kept := attributes.filter fun (name, _) => name != "__qualname__" && name != "__classcell__"
  let kept ← kept.mapM fun (name, value) => do return (name, ← marked name value)
  let home ← currentHome?
  let kept := match kept.lookup "__module__", home with
    | none, some home => kept ++ [("__module__", home)]
    | _, _ => kept
  let info : ClassInfo :=
    { name := title, qualifiedName, layout := ← layout base, bases, base, lineage := [],
      open? := baseOpen || places.open? || otherOpen, placed := !places.names.isEmpty }
  let cls ← new (.of metaclass (.cls info))
  let members ← places.names.mapM fun name => do
    return (name, ← newOf .memberDescriptor (.member cls name))
  let computed ← (if places.open? then ["__dict__"] else []) ++
      (if places.weak then ["__weakref__"] else []) |>.mapM fun name => do
    return (name, ← newOf .attributeDescriptor (.attributesOf cls name))
  let absent (name : String) : Bool := (kept.lookup name).isNone
  let documentation := if absent "__doc__" then [("__doc__", Fixed.none)] else []
  let hash := if !absent "__eq__" && absent "__hash__" then [("__hash__", Fixed.none)] else []
  update cls fun content =>
    { content with attributes := kept ++ members ++ computed ++ documentation ++ hash }
  let above ← newLineage invoke cls metaclass items
  setBody cls (.cls { info with lineage := above })
  if !absent "__del__" then setRegisters ({ · with finalizers := true })
  match box with
  | some box => setBody box (.box (some cls))
  | none => pure ()
  tellNames invoke cls kept
  tellParent invoke cls keywords
  return cls

/-- The constructor of classes. -/
def makeClass (invoke : Invoke) (metaclass : Handle) (arguments : Arguments) : Run Handle := do
  if arguments.positional.length ≠ 3 then
    fail .typeError ("type.__new__() takes exactly 3 arguments (" ++
      toString arguments.positional.length ++ " given)")
  match ← body arguments.first, ← body arguments.second, ← body arguments.third with
  | .text name, .tuple items, .dict _ =>
    for item in items do
      unless ← isClass item do
        if (← getAttribute? invoke item "__mro_entries__").isSome then
          fail .typeError
            "type() doesn't support MRO entry resolution; use types.new_class()"
    let winner ← metaclassOf metaclass items
    let maker ← classEntry? winner "__new__"
    if winner ≠ metaclass ∧ maker ≠ Core.attribute? .type "__new__" then
      invoke (← getAttribute invoke winner "__new__") (arguments.after winner)
    else
      let bases ← if items.isEmpty then newTuple [Core.object.handle] else pure arguments.second
      newClass invoke winner name bases (← namesIn arguments.third) arguments.keywords
  | .text _, .tuple _, _ =>
    badArgument "type.__new__" "argument 3" "dict" arguments.third
  | .text _, _, _ => badArgument "type.__new__" "argument 2" "tuple" arguments.second
  | _, _, _ => badArgument "type.__new__" "argument 1" "str" arguments.first

/-- Calls what stands in a class for an operation on an object, with named arguments. -/
def callEntryWith (invoke : Invoke) (entry self : Handle) (arguments : Arguments) : Run Handle := do
  match ← body entry with
  | .function _ => invoke entry (arguments.after self)
  | .routine routine =>
    match routine.flavour with
    | .method | .slot => invoke entry (arguments.after self)
    | _ => invoke (← bind invoke entry self (← typeOf self)) arguments
  | _ => invoke (← bind invoke entry self (← typeOf self)) arguments

/-- Starts a new instance with the arguments it was made with. -/
def startInstance (invoke : Invoke) (made : Handle) (arguments : Arguments) : Run Unit := do
  match ← typeAttribute made "__init__" with
  | none => return
  | some entry =>
    let result ← callEntryWith invoke entry made arguments
    unless result = Fixed.none do
      fail .typeError ("__init__() should return None, not '" ++ (← typeName result) ++ "'")

/-- Makes an instance of a class: the class makes it, and then it is told its arguments. -/
def construct (invoke : Invoke) (cls : Handle) (arguments : Arguments) : Run Handle := do
  if cls = Core.type.handle then
    if arguments.positional.length = 1 then
      refuseKeywords "type" arguments
      return ← typeOf arguments.first
    if arguments.positional.length ≠ 3 then fail .typeError "type() takes 1 or 3 arguments"
  unless (← layout cls).isMakeable do
    fail .typeError ("cannot create '" ++ (← className cls) ++ "' instances")
  let made ← match ← classEntry? cls "__new__" with
    | none => fail .typeError ("cannot create '" ++ (← className cls) ++ "' instances")
    | some entry =>
      match ← body entry with
      | .routine _ => invoke entry (arguments.after cls)
      | _ => invoke (← getAttribute invoke cls "__new__") (arguments.after cls)
  if ← isSubclass (← typeOf made) cls then startInstance invoke made arguments
  return made

/-! Attributes of classes that are computed. -/

/-- The annotations of a class, which are made when they are asked for. -/
def classAnnotations (cls : Handle) : Run Handle := do
  match ← own? cls "__annotations__", ← body cls with
  | some found, _ => return found
  | none, .cls _ =>
    let made ← newEmptyDict
    store cls "__annotations__" made
    return made
  | none, _ => noAttribute cls "__annotations__"

/-- The dictionary of the names of a built-in class. -/
def coreNames (core : Core) : Run Handle := do
  let routines := Fixed.routineTable[core.ctorIdx]?.getD []
  let hash := if core.attribute? "__hash__" = some Fixed.none then [("__hash__", Fixed.none)] else []
  newNamed (routines ++ hash)

/-- The routines of the class of classes. -/
def typeRoutine (invoke : Invoke) (name : String) (self : Handle) (arguments : Arguments) :
    Run Handle := do
  let first := arguments.first
  match name with
  | "__repr__" => newString ("<class '" ++ (← fullName self) ++ "'>")
  | "__getattribute__" => classAttribute invoke self (← attributeName first)
  | "__setattr__" =>
    setPlainAttribute invoke self (← attributeName first) arguments.second
    nothing
  | "__delattr__" =>
    deletePlainAttribute invoke self (← attributeName first)
    nothing
  | "__call__" => construct invoke self arguments
  | "__new__" => makeClass invoke self arguments
  | "__init__" =>
    let count := arguments.positional.length
    if count = 1 ∧ !arguments.keywords.isEmpty then
      fail .typeError "type.__init__() takes no keyword arguments"
    if count ≠ 1 ∧ count ≠ 3 then fail .typeError "type.__init__() takes 1 or 3 arguments"
    nothing
  | "__prepare__" => newEmptyDict
  | "__or__" => joinTypes invoke self first
  | "__ror__" => joinTypes invoke first self
  | "__instancecheck__" => return truth (← isPlainInstance invoke first self)
  | "__subclasscheck__" => return truth (← isPlainSubclass invoke first self)
  | "mro" =>
    match ← body self with
    | .cls info => newList (← lineageFor self (← itemsOf info.bases))
    | _ => newList (← lineage self)
  | "__subclasses__" => newList (← directSubclasses self)
  | "__dir__" =>
    newList (← (← namesInClasses (← lineage self)).eraseDups.mapM newString)
  | "__sizeof__" => newInt 1064
  | "__name__" =>
    match ← body self with
    | .core core => newString core.title
    | _ => newString (← className self)
  | "__qualname__" => newString (← qualifiedName self)
  | "__module__" =>
    match ← body self, ← own? self "__module__" with
    | .core core, _ => newString core.home
    | _, some found => return found
    | _, none => fail .attributeError "__module__"
  | "__bases__" =>
    match ← body self with
    | .cls info => return info.bases
    | .core .exceptionGroup =>
      newTuple [Core.baseExceptionGroup.handle, Core.exception.handle]
    | .core core => newTuple (core.parent?.toList.map Core.handle)
    | _ => return Fixed.emptyTuple
  | "__base__" =>
    match ← body self with
    | .cls info => return info.base
    | .core core => return (core.parent?.map Core.handle).getD Fixed.none
    | _ => nothing
  | "__mro__" => newTuple (← lineage self)
  | "__abstractmethods__" =>
    match ← own? self "__abstractmethods__" with
    | some found => return found
    | none => fail .attributeError "__abstractmethods__"
  | "__dict__" =>
    match ← body self with
    | .core core => newOf .mappingProxy (.proxy (← coreNames core))
    | _ => newOf .mappingProxy (.proxy (← dictionaryOf self))
  | "__doc__" =>
    match ← body self, ← own? self "__doc__" with
    | .core _, _ => documentation self
    | _, some found =>
      match ← declared? found "__get__" with
      | some rule => callEntry invoke rule found [Fixed.none, self]
      | none => return found
    | _, none => nothing
  | "__annotations__" => classAnnotations self
  | "__basicsize__" => newInt 16
  | "__itemsize__" | "__weakrefoffset__" | "__dictoffset__" | "__flags__" => newInt 0
  | _ => nothing

/-- The text that a name of a class is set to. -/
def classNameValue (cls : Handle) (what : String) (value : Handle) : Run CodePoints := do
  match ← text? value with
  | some text => return text
  | none =>
    fail .typeError ("can only assign string to " ++ (← className cls) ++ "." ++ what ++ ", not '" ++
      (← typeName value) ++ "'")

/-- Sets the bases of a class. -/
def setBases (cls value : Handle) : Run Unit := do
  let title ← className cls
  match ← body value with
  | .tuple [] =>
    fail .typeError ("can only assign non-empty tuple to " ++ title ++ ".__bases__, not ()")
  | .tuple items =>
    for item in items do
      unless ← isClass item do
        fail .typeError (title ++ ".__bases__ must be tuple of classes, not '" ++
          (← typeName item) ++ "'")
    rebase cls value
  | _ =>
    fail .typeError ("can only assign tuple to " ++ title ++ ".__bases__, not " ++
      (← typeName value))

/-- Sets an attribute of a class that is computed; the answer says whether there is a way to. -/
def setClassPart (cls : Handle) (name : String) (value : Handle) : Run Bool := do
  match ← body cls with
  | .cls info =>
    if value.isNull ∧ name ∈ ["__name__", "__qualname__", "__module__", "__bases__", "__doc__"] then
      fail .typeError ("cannot delete '" ++ name ++ "' attribute of immutable type '" ++
        info.name ++ "'")
    match name with
    | "__name__" =>
      let title ← checkClassName (← classNameValue cls name value)
      setBody cls (.cls { info with name := title })
    | "__qualname__" =>
      let text ← classNameValue cls name value
      setBody cls (.cls { info with qualifiedName := text.lossy })
    | "__bases__" => setBases cls value
    | "__module__" | "__doc__" | "__abstractmethods__" | "__annotations__" =>
      if value.isNull then
        unless ← dropOwn cls name do noAttribute cls name
      else store cls name value
    | _ => return false
    return true
  | _ => return false

/-- Gives an object another class. -/
def setClassOf (object value : Handle) : Run Unit := do
  if value.isNull then fail .typeError "can't delete __class__ attribute"
  unless ← isClass value do
    fail .typeError ("__class__ must be set to a class, not '" ++ (← typeName value) ++ "' object")
  let old ← typeOf object
  let isFixed (cls : Handle) : Bool := (Core.ofHandle? cls).isSome
  let modules := (← isSubclass old Core.module.handle) && (← isSubclass value Core.module.handle)
  if !modules ∧ (isFixed old ∨ isFixed value) then
    fail .typeError
      "__class__ assignment only supported for mutable types or ModuleType subclasses"
  let same := (← solidOf old) == (← solidOf value) && (← makesOpen old) == (← makesOpen value)
  if !same then
    fail .typeError ("__class__ assignment: '" ++ (← className value) ++
      "' object layout differs from '" ++ (← className old) ++ "'")
  update object fun content => { content with type := value }

end ForeignBridge.Foreign.Run
