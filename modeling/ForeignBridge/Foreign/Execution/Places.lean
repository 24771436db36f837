import ForeignBridge.Foreign.Operations.Operate

/-! # Names in running code

A name is looked up where its place says: among the variables of a function, in a variable shared
with other functions, in the names that the code binds, in those of the module, or among the
built-in names.
-/

namespace ForeignBridge.Foreign.Run

/-- Raises that a name stands for nothing. -/
def failName {α : Type} (name : String) : Run α := do
  raise (← newExceptionWith .nameError [← newString ("name '" ++ name ++ "' is not defined")]
    [("name", ← internString name)])

/-- Raises that a variable has no value yet. -/
def failVariable {α : Type} (name : String) : Run α :=
  fail .unboundLocalError
    ("cannot access local variable '" ++ name ++ "' where it is not associated with a value")

/-- Raises that a shared variable has no value. -/
def failShared {α : Type} (name : String) : Run α := do
  match ← body (← machine).frame.code with
  | .code code =>
    if code.free.contains name then
      raise (← newExceptionWith .nameError
        [← newString ("cannot access free variable '" ++ name ++
          "' where it is not associated with a value in enclosing scope")]
        [("name", ← internString name)])
    else failVariable name
  | _ => failVariable name

/-- The object of a name among those of the module and the built-in ones. -/
def globalName (name : String) : Run Handle := do
  let globals := (← machine).frame.globals
  match ← getName? globals name with
  | some found => return found
  | none =>
    match ← getName? (← builtinsFor globals) name with
    | some found => return found
    | none => failName name

/-- Whether an object is a plain dictionary. -/
def isPlainDict (handle : Handle) : Run Bool := do
  return (← core? handle) == some .dict

/-- The object of a name in a mapping. -/
def mappedName? (invoke : Invoke) (names : Handle) (name : String) : Run (Option Handle) := do
  if ← isPlainDict names then getName? names name
  else unlessRaised .keyError (getItem invoke names (← internString name))

/-- The content of a shared variable. -/
def sharedName? (name : String) : Run (Option Handle) := do
  match (← machine).frame.shared.lookup name with
  | none => return none
  | some box =>
    match ← body box with
    | .box content => return content
    | _ => return none

/-- The object that a name stands for. -/
def readName (invoke : Invoke) (place : Place) (name : String) : Run Handle := do
  match place with
  | .own =>
    match (← machine).frame.locals.lookup name with
    | some found => return found
    | none => failVariable name
  | .shared =>
    match ← sharedName? name with
    | some found => return found
    | none => failShared name
  | .global => globalName name
  | .named =>
    match ← mappedName? invoke (← machine).frame.names name with
    | some found => return found
    | none => globalName name
  | .around =>
    match ← mappedName? invoke (← machine).frame.names name with
    | some found => return found
    | none =>
      match ← sharedName? name with
      | some found => return found
      | none => failShared name

/-- Changes the surroundings of the code that is being executed. -/
def setFrame (change : Frame → Frame) : Run Unit :=
  setRegisters fun registers => { registers with frame := change registers.frame }

/-- Binds a name to an object. -/
def writeName (invoke : Invoke) (place : Place) (name : String) (value : Handle) : Run Unit := do
  match place with
  | .own => setFrame fun frame => { frame with locals := putPart name value frame.locals }
  | .shared =>
    match (← machine).frame.shared.lookup name with
    | some box => setBody box (.box (some value))
    | none => return
  | .global => putName (← machine).frame.globals name value
  | .named | .around =>
    let names := (← machine).frame.names
    if ← isPlainDict names then putName names name value
    else setItem invoke names (← internString name) value

/-- Unbinds a name. -/
def deleteName (invoke : Invoke) (place : Place) (name : String) : Run Unit := do
  match place with
  | .own =>
    if ((← machine).frame.locals.lookup name).isNone then failVariable name
    setFrame fun frame => { frame with locals := frame.locals.filter (·.1 != name) }
  | .shared =>
    match ← sharedName? name, (← machine).frame.shared.lookup name with
    | some _, some box => setBody box (.box none)
    | _, _ => failShared name
  | .global =>
    unless ← dropName (← machine).frame.globals name do failName name
  | .named | .around =>
    let names := (← machine).frame.names
    if ← isPlainDict names then
      unless ← dropName names name do failName name
    else
      match ← unlessRaised .keyError (deleteItem invoke names (← internString name)) with
      | some _ => return
      | none => failName name

/-- Takes a name away if it is bound. -/
def forgetName (invoke : Invoke) (place : Place) (name : String) : Run Unit := do
  let _ ← unlessRaised .nameError (deleteName invoke place name)
  return

end ForeignBridge.Foreign.Run
