import ForeignBridge.Foreign.Machine

/-! # Names and their objects

A dictionary whose keys are texts holds objects by name: the names of a module, the attributes of an
object. The attributes of an object are kept by name in its cell, until something asks for the
dictionary of them; from then on they are in that dictionary.
-/

namespace ForeignBridge.Foreign.Run

/-- The first of some entries whose key is a given text. -/
def findText (text : CodePoints) (hash : Int) : List Entry → Run (Option Entry)
  | [] => return none
  | entry :: rest => do
    if entry.hash = hash ∧ (← text? entry.key) = some text then return some entry
    else findText text hash rest

/-- The content of a dictionary. -/
def dictionary (handle : Handle) : Run Dictionary := do
  match ← body handle with
  | .dict content => return content
  | _ => return .empty

/-- The entry of a name in a dictionary. -/
def entryNamed? (dict : Handle) (name : String) : Run (Option Entry) := do
  let text := CodePoints.ofString name
  findText text (textHash text.codes) (← dictionary dict).entries

/-- The object of a name in a dictionary. -/
def getName? (dict : Handle) (name : String) : Run (Option Handle) := do
  return (← entryNamed? dict name).map (·.value)

/-- Puts an object under a name into a dictionary. -/
def putName (dict : Handle) (name : String) (value : Handle) : Run Unit := do
  match ← entryNamed? dict name with
  | some entry => setBody dict (.dict ((← dictionary dict).replace entry.place value))
  | none =>
    let text := CodePoints.ofString name
    let key ← internText text
    setBody dict (.dict ((← dictionary dict).insert (textHash text.codes) key value))

/-- Takes a name out of a dictionary; the answer says whether it was there. -/
def dropName (dict : Handle) (name : String) : Run Bool := do
  match ← entryNamed? dict name with
  | some entry =>
    setBody dict (.dict ((← dictionary dict).erase entry.place))
    return true
  | none => return false

/-- The names in a dictionary with their objects. -/
def namesIn (dict : Handle) : Run (List (String × Handle)) := do
  let found ← (← dictionary dict).entries.mapM fun entry => do
    return (← text? entry.key).map fun text => (text.lossy, entry.value)
  return found.filterMap id

/-- Puts objects under their names into a dictionary, one after the other. -/
def putNames (dict : Handle) (pairs : List (String × Handle)) : Run Unit :=
  pairs.forM fun pair => putName dict pair.1 pair.2

/-- A new dictionary of names. -/
def newNamed (pairs : List (String × Handle)) : Run Handle := do
  let dict ← newEmptyDict
  putNames dict pairs
  return dict

/-- An attribute of an object's own. -/
def own? (handle : Handle) (name : String) : Run (Option Handle) := do
  let content ← cell handle
  match content.dictionary with
  | some dict => getName? dict name
  | none => return content.attributes.lookup name

/-- The attributes of an object's own. -/
def ownAll (handle : Handle) : Run (List (String × Handle)) := do
  let content ← cell handle
  match content.dictionary with
  | some dict => namesIn dict
  | none => return content.attributes

/-- Puts a value among the attributes of an object's own. -/
def store (handle : Handle) (name : String) (value : Handle) : Run Unit := do
  match (← cell handle).dictionary with
  | some dict => putName dict name value
  | none =>
    update handle fun content =>
      { content with attributes := putPart name value content.attributes }

/-- Takes an attribute of an object's own away; the answer says whether it was there. -/
def dropOwn (handle : Handle) (name : String) : Run Bool := do
  match (← cell handle).dictionary with
  | some dict => dropName dict name
  | none =>
    let found := ((← cell handle).attributes.lookup name).isSome
    update handle fun content =>
      { content with attributes := content.attributes.filter (·.1 != name) }
    return found

/-- The dictionary of the attributes of an object's own. -/
def dictionaryOf (handle : Handle) : Run Handle := do
  let content ← cell handle
  match content.dictionary with
  | some dict => return dict
  | none =>
    let dict ← newNamed content.attributes
    update handle fun content => { content with attributes := [], dictionary := some dict }
    return dict

/-- The text in an attribute of an object's own, if it has a text there. -/
def ownText? (handle : Handle) (name : String) : Run (Option String) := do
  match ← own? handle name with
  | some found => return (← text? found).map CodePoints.lossy
  | none => return none

/-- The dictionary of the names of a module. -/
def namesOf (module : Handle) : Run Handle := dictionaryOf module

/-- The module of built-in names, as a dictionary of names sees it. -/
def builtinsFor (globals : Handle) : Run Handle := do
  match ← getName? globals "__builtins__" with
  | none => return Fixed.builtinNames
  | some found =>
    match ← body found with
    | .module => namesOf found
    | .dict _ => return found
    | _ => return Fixed.builtinNames

end ForeignBridge.Foreign.Run
