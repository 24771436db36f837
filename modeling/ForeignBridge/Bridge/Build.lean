import ForeignBridge.Bridge.Raised
import ForeignBridge.Foreign.Filling
import ForeignBridge.Value.Basic

/-! # Objects for values

Every value except a function of the host has an object of the interpreter. A container becomes a
new container, each time anew; an object stays the object it is. The host has one reference to the
object that is built, and none to its parts: the reference to an item goes over to the list, and a
dictionary takes references of its own.
-/

namespace ForeignBridge.Bridge

open Foreign.Run (call newInt newFloat newString newList newTuple newEmptyDict truth dictSet putNames)

/-- The failure for a function of the host. -/
def noFunctions : BridgeError :=
  .unsupportedConversion "host functions cannot be passed to the interpreter"

/-- Puts an object at a place of a list. The reference to it goes over to the list, and is given back if
the object cannot be put there. -/
def putPlace (list : Handle) (place : Nat) (item : Handle) : Bridge Unit :=
  thenRelease [item] (perform (Foreign.Run.setPlace list place item))

/-- Puts an object under another one in a dictionary, and gives back the references to both. -/
def putItem (dict key value : Handle) : Bridge Unit :=
  thenRelease [key, value] (perform (dictSet call dict key value))

mutual

/-- An object for a value. -/
def build : Value → Bridge Handle
  | .null => do
    own Foreign.Fixed.none
    return Foreign.Fixed.none
  | .bool b => made (return truth b)
  | .int n => made (newInt n.toInt)
  | .float x => made (newFloat x)
  | .text s => made (newString s)
  | .list items => do
    let list ← made (newList (List.replicate items.length .null))
    elseRelease [list] (buildItems list 0 items)
    return list
  | .map pairs => do
    let dict ← made (newEmptyDict)
    elseRelease [dict] (buildPairs dict pairs)
    return dict
  | .record fields => do
    let dict ← made (newEmptyDict)
    elseRelease [dict] (buildFields dict fields)
    return dict
  | .object handle => do
    own handle
    return handle
  | .function _ => throw noFunctions

/-- Puts objects for some values at the places of a list, from a place on. -/
def buildItems (list : Handle) (place : Nat) : List Value → Bridge Unit
  | [] => return
  | item :: rest => do
    let item ← build item
    putPlace list place item
    buildItems list (place + 1) rest

/-- Puts some pairs into a dictionary one by one, the key of each built before its value. -/
def buildPairs (dict : Handle) : List (Value × Value) → Bridge Unit
  | [] => return
  | (key, value) :: rest => do
    let key ← build key
    let value ← elseRelease [key] (build value)
    putItem dict key value
    buildPairs dict rest

/-- Puts some fields into a dictionary one by one. -/
def buildFields (dict : Handle) : List (String × Value) → Bridge Unit
  | [] => return
  | (name, value) :: rest => do
    let key ← made (newString name)
    let value ← elseRelease [key] (build value)
    putItem dict key value
    buildFields dict rest

end

/-- Objects for some values, one after the other; the host has a reference to each. -/
def buildAll : List Value → Bridge (List Handle)
  | [] => return []
  | value :: rest => do
    let handle ← build value
    let others ← elseRelease [handle] (buildAll rest)
    return handle :: others

/-- Objects for some values that are given by name, each name checked before its value is built. -/
def buildNamed : List (String × Value) → Bridge (List (String × Handle))
  | [] => return []
  | (name, value) :: rest => do
    requireNoNul name
    let handle ← build value
    let others ← elseRelease [handle] (buildNamed rest)
    return (name, handle) :: others

/-- A tuple of objects for some values. Nobody but the host has it before all of it is there, so it is
made then; the references to the items go over to it. -/
def buildTuple (values : List Value) : Bridge Handle := do
  let items ← buildAll values
  thenRelease items (made (newTuple items))

/-- A dictionary of objects for values that are given by name, if there are any. Like the tuple it is
made once all of them are there. It takes references of its own. Of two values with one name the later
counts, in the place of the first. -/
def buildKeywords (keywords : List (String × Value)) : Bridge (Option Handle) := do
  if keywords.isEmpty then return none
  let pairs ← buildNamed keywords
  thenRelease (pairs.map (·.2)) do
    let dict ← made newEmptyDict
    elseRelease [dict] (perform (putNames dict pairs))
    return some dict

end ForeignBridge.Bridge
