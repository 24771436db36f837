import ForeignBridge.Foreign.Routines.Properties

/-! # Functions, methods and routines as objects

What functions of the language, methods, routines, code objects and shared variables tell about
themselves, and what of it can be changed.
-/

namespace ForeignBridge.Foreign

/-- The name of the class that a routine belongs to. -/
def Owner.className : Owner → String
  | .core found => found.name
  | .module _ => ""

namespace Run

/-! Functions of the language. -/

/-- What a function keeps, if an object is one. -/
def functionInfo? (handle : Handle) : Run (Option FunctionInfo) := do
  match ← body handle with
  | .function info => return some info
  | _ => return none

/-- The constructor of functions. -/
def makeFunction (arguments : Arguments) : Run Handle := do
  let arguments ← arrangeNamed "function"
    ⟨["code", "globals", "name", "argdefs", "closure"], 0, 2, 0⟩ arguments
  let code := arguments.first
  let globals := arguments.second
  match ← body code, ← body globals with
  | .code content, .dict _ =>
    let title := arguments.third
    let name ← match ← text? title with
      | some text => pure text.lossy
      | none =>
        if title.isNull ∨ title = Fixed.none then pure content.name
        else fail .typeError "arg 3 (name) must be None or string"
    let defaults := arguments.nth 3
    let closure := arguments.nth 4
    let cells ← if closure.isNull ∨ closure = Fixed.none then pure [] else itemsOf closure
    if cells.length ≠ content.free.length then
      if content.free.isEmpty then fail .typeError "arg 5 (closure) must be None or tuple"
      else
        fail .valueError (content.name ++ " requires closure of length " ++
          toString content.free.length ++ ", not " ++ toString cells.length)
    newOf .function (.function
      { name, qualifiedName := content.qualifiedName, code, globals,
        defaults := if defaults = Fixed.none then .null else defaults, keywordDefaults := .null,
        closure := cells, documentation := content.documentation.getD Fixed.none,
        module := (← getName? globals "__name__").getD Fixed.none, annotations := .null })
  | .code _, _ => badArgument "function" "argument 'globals'" "dict" globals
  | _, _ => badArgument "function" "argument 'code'" "code" code

/-- A method of a function for an object, or the function itself for none. -/
def methodFor (function object : Handle) : Run Handle := do
  if object.isNull ∨ object = Fixed.none then return function
  else newOf .method (.method function object)

/-- The annotations of a function, which are made when they are asked for. -/
def functionAnnotations (self : Handle) (info : FunctionInfo) : Run Handle := do
  if !info.annotations.isNull then return info.annotations
  else
    let made ← newEmptyDict
    setBody self (.function { info with annotations := made })
    return made

/-- The routines of functions of the language. -/
def functionRoutine (invoke : Invoke) (name : String) (self : Handle) (arguments : Arguments) :
    Run Handle := do
  if name = "__new__" then return ← makeFunction arguments
  match ← functionInfo? self with
  | none => nothing
  | some info =>
    match name with
    | "__call__" => invoke self arguments
    | "__repr__" =>
      newString ("<function " ++ info.qualifiedName ++ " at " ++ shownAddress ++ ">")
    | "__get__" => methodFor self arguments.first
    | "__name__" => newString info.name
    | "__qualname__" => newString info.qualifiedName
    | "__code__" => return info.code
    | "__defaults__" => return orNone info.defaults
    | "__kwdefaults__" => return orNone info.keywordDefaults
    | "__annotations__" => functionAnnotations self info
    | "__dict__" => dictionaryOf self
    | "__closure__" => if info.closure.isEmpty then nothing else newTuple info.closure
    | "__doc__" => return info.documentation
    | "__globals__" => return info.globals
    | "__module__" => return info.module
    | "__builtins__" => builtinsFor info.globals
    | _ => nothing

/-- Sets an attribute of a function; the answer says whether there is a way to. -/
def setFunctionPart (self : Handle) (name : String) (value : Handle) : Run Bool := do
  match ← functionInfo? self with
  | none => return false
  | some info =>
    let put (info : FunctionInfo) : Run Unit := setBody self (.function info)
    let wanted (what : String) : Run Unit :=
      fail .typeError (name ++ " must be set to a " ++ what ++ " object")
    let cleared := value.isNull || value == Fixed.none
    match name, ← body value with
    | "__name__", .text text => put { info with name := text.lossy }
    | "__qualname__", .text text => put { info with qualifiedName := text.lossy }
    | "__name__", _ | "__qualname__", _ => wanted "string"
    | "__code__", .code content =>
      if content.free.length ≠ info.closure.length then
        fail .valueError (info.name ++ "() requires a code object with " ++
          toString info.closure.length ++ " free vars, not " ++ toString content.free.length)
      put { info with code := value }
    | "__code__", _ => wanted "code"
    | "__defaults__", .tuple _ => put { info with defaults := value }
    | "__defaults__", _ =>
      if cleared then put { info with defaults := .null } else wanted "tuple"
    | "__kwdefaults__", .dict _ => put { info with keywordDefaults := value }
    | "__kwdefaults__", _ =>
      if cleared then put { info with keywordDefaults := .null } else wanted "dict"
    | "__annotations__", .dict _ => put { info with annotations := value }
    | "__annotations__", _ =>
      if cleared then put { info with annotations := .null } else wanted "dict"
    | "__dict__", .dict _ =>
      update self fun content => { content with attributes := [], dictionary := some value }
    | "__dict__", _ =>
      if value.isNull then fail .typeError "cannot delete __dict__"
      else
        fail .typeError ("__dict__ must be set to a dictionary, not a '" ++ (← typeName value) ++ "'")
    | "__doc__", _ => put { info with documentation := orNone value }
    | "__module__", _ => put { info with module := orNone value }
    | _, _ => return false
    return true

/-! Methods. -/

/-- The routines of methods. -/
def methodRoutine (invoke : Invoke) (name : String) (self : Handle) (arguments : Arguments) :
    Run Handle := do
  let first := arguments.first
  let (function, object) := match ← body self with
    | .method function object => (function, object)
    | _ => (Fixed.none, Fixed.none)
  match name with
  | "__new__" =>
    refuseKeywords "method" arguments
    checkBetween "method" 2 2 arguments
    if (← typeAttribute first "__call__").isNone then
      fail .typeError "first argument must be callable"
    if arguments.second = Fixed.none then fail .typeError "instance must not be None"
    newOf .method (.method first arguments.second)
  | "__call__" => invoke self arguments
  | "__get__" => return self
  | "__repr__" =>
    let title ← match ← getAttribute? invoke function "__qualname__" with
      | some title => pure (← text? title)
      | none =>
        match ← getAttribute? invoke function "__name__" with
        | some title => pure (← text? title)
        | none => pure none
    let front := (CodePoints.ofString "<bound method ").append (title.getD (.ofString "?"))
    newText (front.append (enclosed " of " (← reprText invoke object) ">"))
  | "__hash__" => newInt (← builtInHash (hashOf invoke) self)
  | "__self__" => return object
  | "__func__" => return function
  | "__doc__" => return (← getAttribute? invoke function "__doc__").getD Fixed.none
  | "__reduce__" => newTuple [← typeOf self, ← newTuple [function, object]]
  | _ =>
    match slotComparison? name, ← body first with
    | some comparison, .method other otherObject =>
      let same ← if object = otherObject then isSame invoke function other else pure false
      match comparison with
      | .equal => return truth same
      | .notEqual => return truth !same
      | _ => return Fixed.notImplemented
    | _, _ => return Fixed.notImplemented

/-! Routines. -/

/-- The routine that an object is or is bound to, and the object that it is bound to. -/
def routineOf? (handle : Handle) : Run (Option (Routine × Handle)) := do
  match ← body handle with
  | .routine routine => return some (routine, .null)
  | .boundRoutine routine self => return some (routine, self)
  | _ => return none

/-- The object that a routine is called on when it is called alone. -/
def routineSelf (routine : Routine) (bound : Handle) : Run Handle := do
  if !bound.isNull then return bound
  match routine.owner with
  | .core core => return core.handle
  | .module name => return (← getName? Fixed.modules name).getD Fixed.none

/-- The name of a routine after that of the class it is reached through. -/
def routineTitle (routine : Routine) (bound : Handle) : Run String := do
  match routine.owner with
  | .module _ => return routine.name
  | .core core =>
    if routine.flavour = .slot ∨ (bound.isNull ∧ routine.flavour ≠ .alone) then
      return core.title ++ "." ++ routine.name
    else
      let self ← routineSelf routine bound
      let cls ← if ← isClass self then pure self else typeOf self
      return (← qualifiedName cls) ++ "." ++ routine.name

/-- The text of a routine for programmers. -/
def routineText (routine : Routine) (bound : Handle) : Run String := do
  let about (front : String) : String :=
    "<" ++ front ++ " '" ++ routine.name ++ "' of '" ++ routine.owner.className ++ "' objects>"
  let onObject (front : String) (name : String) (self : Handle) : Run String := do
    return "<" ++ front ++ " " ++ name ++ " of " ++ (← typeName self) ++ " object at " ++
      shownAddress ++ ">"
  match routine.owner, routine.flavour with
  | .module _, _ => return "<built-in function " ++ routine.name ++ ">"
  | _, .slot =>
    if bound.isNull then return about "slot wrapper"
    else onObject "method-wrapper" ("'" ++ routine.name ++ "'") bound
  | _, .value => return about "attribute"
  | _, .part => return about "member"
  | _, .alone => onObject "built-in method" routine.name (← routineSelf routine bound)
  | _, _ =>
    if bound.isNull then return about "method"
    else onObject "built-in method" routine.name bound

/-- Checks that an object is of the class that a descriptor is for. -/
def requireOwner (routine : Routine) (object : Handle) : Run Unit := do
  match routine.owner with
  | .core core =>
    unless ← isA object core do
      fail .typeError ("descriptor '" ++ routine.name ++ "' for '" ++ core.name ++
        "' objects doesn't apply to a '" ++ (← typeName object) ++ "' object")
  | .module _ => return

/-- A routine as it is read through an object, or through a class alone. -/
def boundRoutine (self : Handle) (routine : Routine) (object type : Handle) : Run Handle := do
  match routine.flavour with
  | .classMethod =>
    let cls ← if orNone type ≠ Fixed.none then pure type
      else if orNone object ≠ Fixed.none then typeOf object
      else
        fail .typeError ("descriptor '" ++ routine.name ++ "' for type '" ++
          routine.owner.className ++ "' needs either an object or a type")
    unless ← isClass cls do
      fail .typeError ("descriptor '" ++ routine.name ++ "' for type '" ++
        routine.owner.className ++ "' needs a type, not a '" ++ (← typeName cls) ++ "' as arg 2")
    newOf .builtinFunction (.boundRoutine routine cls)
  | _ =>
    if orNone object = Fixed.none then return self
    requireOwner routine object
    newOf (boundClass routine.flavour) (.boundRoutine routine object)

/-- The routines of routines as objects. -/
def routineRoutine (invoke : Invoke) (name : String) (self : Handle) (arguments : Arguments) :
    Run Handle := do
  match ← routineOf? self with
  | none => nothing
  | some (routine, bound) =>
    match name with
    | "__call__" => invoke self arguments
    | "__repr__" => newString (← routineText routine bound)
    | "__hash__" =>
      if bound.isNull then newInt (Scalar.identityHash self)
      else newInt (← builtInHash (hashOf invoke) self)
    | "__get__" => boundRoutine self routine arguments.first arguments.second
    | "__name__" => newString routine.name
    | "__qualname__" => newString (← routineTitle routine bound)
    | "__module__" =>
      match routine.owner with
      | .module name => newString name
      | .core _ => nothing
    | "__self__" => routineSelf routine bound
    | "__objclass__" =>
      match routine.owner with
      | .core core => return core.handle
      | .module _ => nothing
    | "__doc__" => return Fixed.emptyText
    | "__text_signature__" => nothing
    | "__reduce__" => newString (← routineTitle routine bound)
    | _ =>
      match slotComparison? name, ← routineOf? arguments.first with
      | some comparison, some (other, otherBound) =>
        let same := self == arguments.first ||
          (!bound.isNull && bound == otherBound && routine == other)
        match comparison with
        | .equal => return truth same
        | .notEqual => return truth !same
        | _ => return Fixed.notImplemented
      | _, _ => return Fixed.notImplemented

/-- The routines of attributes of a class that are places in its instances. -/
def placeRoutineOf (invoke : Invoke) (name : String) (self : Handle) (arguments : Arguments) :
    Run Handle := do
  let first := arguments.first
  let (owner, title) := match ← body self with
    | .member owner title | .attributesOf owner title => (owner, title)
    | _ => (Fixed.none, "")
  let isMember := match ← body self with
    | .member .. => true
    | _ => false
  let check : Run Unit := do
    unless ← isSubclass (← typeOf first) owner do
      fail .typeError ("descriptor '" ++ title ++ "' for '" ++ (← className owner) ++
        "' objects doesn't apply to a '" ++ (← typeName first) ++ "' object")
  match name with
  | "__repr__" =>
    newString ("<" ++ (if isMember then "member" else "attribute") ++ " '" ++ title ++ "' of '" ++
      (← className owner) ++ "' objects>")
  | "__get__" =>
    if orNone first = Fixed.none then return self
    else bind invoke self first (← typeOf first)
  | "__set__" =>
    check
    if isMember then
      update first fun content =>
        { content with places := putPart title arguments.second content.places }
    else if title = "__dict__" then
      match ← body arguments.second with
      | .dict _ =>
        update first fun content =>
          { content with attributes := [], dictionary := some arguments.second }
      | _ =>
        fail .typeError ("__dict__ must be set to a dictionary, not a '" ++
          (← typeName arguments.second) ++ "'")
    else
      fail .attributeError ("attribute '" ++ title ++ "' of '" ++ (← className owner) ++
        "' objects is not writable")
    nothing
  | "__delete__" =>
    check
    if isMember then
      if ((← cell first).places.lookup title).isNone then noAttribute first title
      update first fun content =>
        { content with places := content.places.filter (·.1 != title) }
    else if title = "__dict__" then
      update first fun content => { content with attributes := [], dictionary := none }
    else
      fail .attributeError ("attribute '" ++ title ++ "' of '" ++ (← className owner) ++
        "' objects is not writable")
    nothing
  | "__name__" => newString title
  | "__qualname__" => newString ((← qualifiedName owner) ++ "." ++ title)
  | "__objclass__" => return owner
  | _ => nothing

/-! Code objects, frames and shared variables. -/

/-- The routines of code objects. -/
def codeRoutine (name : String) (self : Handle) (arguments : Arguments) : Run Handle := do
  match ← body self with
  | .code code =>
    let names (names : List String) : Run Handle := do newTuple (← names.mapM internString)
    match name with
    | "__repr__" =>
      newString ("<code object " ++ code.name ++ " at " ++ shownAddress ++ ", file \"" ++ code.file ++
        "\", line " ++ toString code.line ++ ">")
    | "co_name" => internString code.name
    | "co_qualname" => internString code.qualifiedName
    | "co_filename" => internString code.file
    | "co_firstlineno" => newInt code.line
    | "co_argcount" => newInt code.positional.length
    | "co_posonlyargcount" => newInt code.positionalOnly
    | "co_kwonlyargcount" => newInt code.keywordOnly.length
    | "co_nlocals" => newInt code.own.length
    | "co_varnames" => names code.own
    | "co_cellvars" => names code.shared
    | "co_freevars" => names code.free
    | "co_consts" => newTuple code.constants
    | "co_flags" => newInt 0
    | "__eq__" => return if self = arguments.first then Fixed.true else Fixed.notImplemented
    | _ => return Fixed.notImplemented
  | _ => nothing

/-- The routines of frames. -/
def frameRoutine (name : String) (self : Handle) : Run Handle := do
  match ← body self with
  | .frame frame =>
    match name with
    | "__repr__" =>
      newString ("<frame at " ++ shownAddress ++ ", file '" ++ frame.file ++ "', line " ++
        toString frame.line ++ ", code " ++ frame.name ++ ">")
    | "f_lineno" => newInt frame.line
    | "f_globals" => return (← machine).frame.globals
    | "f_locals" => newEmptyDict
    | "f_code" =>
      let constants := frame.holds
      let code ← constants.filterM fun held => do
        match ← body held with
        | .code _ => return true
        | _ => return false
      return code.headD Fixed.none
    | _ => nothing
  | _ => nothing

/-- The content of a shared variable. -/
def boxContent (self : Handle) : Run (Option Handle) := do
  match ← body self with
  | .box content => return content
  | _ => return none

/-- The routines of shared variables. -/
def boxRoutine (invoke : Invoke) (name : String) (self : Handle) (arguments : Arguments) :
    Run Handle := do
  let first := arguments.first
  match name with
  | "__new__" =>
    refuseKeywords "cell" arguments
    checkBetween "cell" 0 1 arguments
    newOf .box (.box (if first.isNull then none else some first))
  | "__repr__" =>
    match ← boxContent self with
    | none => newString ("<cell at " ++ shownAddress ++ ": empty>")
    | some content =>
      newString ("<cell at " ++ shownAddress ++ ": " ++ (← typeName content) ++ " object at " ++
        shownAddress ++ ">")
  | "cell_contents" =>
    match ← boxContent self with
    | some content => return content
    | none => fail .valueError "Cell is empty"
  | _ =>
    match slotComparison? name, ← core? first with
    | some comparison, some .box =>
      match ← boxContent self, ← boxContent first with
      | some a, some b => compare invoke comparison a b
      | a, b =>
        return truth (satisfies comparison (some (Ord.compare a.isSome.toNat b.isSome.toNat)))
    | _, _ => return Fixed.notImplemented

end Run

end ForeignBridge.Foreign
