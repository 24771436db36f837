import ForeignBridge.Foreign.Routines.Sorting
import ForeignBridge.Foreign.Routines.Items

/-! # Routines of modules

A module is its name and the dictionary of the names in it. What else it says about itself comes from
how it was found.
-/

namespace ForeignBridge.Foreign.Run

/-- Gives a module the usual attributes. -/
def nameModule (module name documentation : Handle) : Run Unit := do
  store module "__name__" name
  store module "__doc__" documentation
  for other in ["__package__", "__loader__", "__spec__"] do store module other Fixed.none

/-- A new module with a name. -/
def newModule (name : String) : Run Handle := do
  let module ← newOf .module .module
  nameModule module (← internString name) Fixed.none
  return module

/-- The text of a module that says how it was found. -/
def foundText (invoke : Invoke) (spec : Handle) : Run CodePoints := do
  let name ← getAttribute invoke spec "name"
  let shown ← if name = Fixed.none then pure (.ofString "'?'") else reprText invoke name
  let front := (CodePoints.ofString "<module ").append shown
  let origin ← getAttribute invoke spec "origin"
  if origin = Fixed.none then
    let loader ← getAttribute invoke spec "loader"
    if loader = Fixed.none then return front.append (.ofString ">")
    else return front.append (enclosed " (" (← reprText invoke loader) ")>")
  else if ← isTrue invoke (← getAttribute invoke spec "has_location") then
    return front.append (enclosed " from " (← reprText invoke origin) ">")
  else return front.append (enclosed " (" (← strText invoke origin) ")>")

/-- The text of a module that does not say how it was found. -/
def strayText (invoke : Invoke) (module loader : Handle) : Run CodePoints := do
  let name ← match ← getAttribute? invoke module "__name__" with
    | some name => reprText invoke name
    | none => pure (.ofString "'?'")
  let front := (CodePoints.ofString "<module ").append name
  match ← getAttribute? invoke module "__file__" with
  | some file => return front.append (enclosed " from " (← reprText invoke file) ">")
  | none =>
    if loader = Fixed.none then return front.append (.ofString ">")
    else return front.append (enclosed " (" (← reprText invoke loader) ")>")

/-- The text of a module for programmers. -/
def moduleText (invoke : Invoke) (module : Handle) : Run Handle := do
  let loader := (← getAttribute? invoke module "__loader__").getD Fixed.none
  let spec := (← getAttribute? invoke module "__spec__").getD Fixed.none
  if ← isTrue invoke spec then return ← newText (← foundText invoke spec)
  match ← getAttribute? invoke loader "module_repr" with
  | some rule =>
    match ← unlessRaised .exception (invoke rule (.of [module])) with
    | some text => return text
    | none => newText (← strayText invoke module loader)
  | none => newText (← strayText invoke module loader)

/-- The routines of modules. -/
def moduleRoutine (invoke : Invoke) (name : String) (self : Handle) (arguments : Arguments) :
    Run Handle := do
  match name with
  | "__new__" => newInstance self .module
  | "__init__" =>
    let arguments ← arrangeNamed "module" ⟨["name", "doc"], 0, 1, 0⟩ arguments
    if (← text? arguments.first).isNone then
      badArgument "module" "argument 'name'" "str" arguments.first
    nameModule self arguments.first
      (if arguments.second.isNull then Fixed.none else arguments.second)
    nothing
  | "__repr__" => moduleText invoke self
  | "__dict__" => dictionaryOf self
  | "__annotations__" =>
    match ← own? self "__annotations__" with
    | some found => return found
    | none =>
      let made ← newEmptyDict
      store self "__annotations__" made
      return made
  | "__dir__" =>
    match ← own? self "__dir__" with
    | some rule => invoke rule (.of [])
    | none => newList (← (← ownAll self).mapM fun (name, _) => internString name)
  | _ => nothing

/-- Sets the annotations of a module; the answer says whether there is a way to set an attribute. -/
def setModulePart (self : Handle) (name : String) (value : Handle) : Run Bool := do
  if name ≠ "__annotations__" then return false
  if value.isNull then
    unless ← dropOwn self name do fail .attributeError name
  else store self name value
  return true

end ForeignBridge.Foreign.Run
