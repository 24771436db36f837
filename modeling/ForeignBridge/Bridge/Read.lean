import ForeignBridge.Bridge.Raised
import ForeignBridge.Value.Basic

/-! # Values of objects

The value of an object is read off the heap, and nothing runs in the interpreter meanwhile. Lists
and dictionaries are read with everything in them; a container that is met inside itself, or that
stands in too many others, is left as an object, and so is everything that is of no known kind.
-/

namespace ForeignBridge

open Foreign (Body CodePoints Entry)

namespace Value

/-- How many containers may stand around one that is read. -/
def depthLimit : Nat := 512

/-- The failure for an integer that no double comes near. -/
def tooLarge : BridgeError := .foreign "int too large to convert to float" none

/-- The value of an integer: of 64 bits, or else the nearest double. -/
def ofInt (n : Int) : Except BridgeError Value :=
  if FitsInt64 n then .ok (.int (Int64.ofInt n))
  else
    let x := Double.ofInt n
    if x.isFinite then .ok (.float x) else .error tooLarge

/-- The value of the characters of a text object. -/
def ofCodePoints (codes : CodePoints) : Value :=
  match codes.string? with
  | some characters => .text characters
  | none => .null

/-- The value of an object that is no container. -/
def ofScalar (handle : Handle) : Option Kind → Body → Except BridgeError Value
  | some .none, _ => .ok .null
  | some .bool, .int n => .ok (.bool (n == 1))
  | some .int, .int n => ofInt n
  | some .float, .float x => .ok (.float x)
  | some .str, .text codes => .ok (ofCodePoints codes)
  | some .str, _ => .ok .null
  | _, _ => .ok (.object handle)

end Value

namespace Bridge

/-- Takes a reference to an object and leaves it as it is. -/
def leave (handle : Handle) : Bridge Value := do
  own handle
  return .object handle

/-- The value of an object that is no container, with a reference to the object if that is its value. -/
def readScalar (handle : Handle) (kind : Option Kind) (body : Body) : Bridge Value := do
  let value ← MonadExcept.ofExcept (Value.ofScalar handle kind body)
  ownAll value.objects
  return value

/-- Does something with references to some objects taken meanwhile. -/
def holding {α : Type} (handles : List Handle) (act : Bridge α) : Bridge α := do
  ownAll handles
  thenRelease handles act

/-- What is read of some parts, one after the other. It is given back if a later part cannot be read. -/
def readEach {α β : Type} (references : β → List Handle) (read : α → Bridge β) :
    List α → Bridge (List β)
  | [] => return []
  | part :: rest => do
    let value ← read part
    let others ← elseRelease (references value) (readEach references read rest)
    return value :: others

/-- The values of the key and the value in an entry. -/
def readEntry (read : Handle → Bridge Value) (entry : Entry) : Bridge (Value × Value) := do
  let key ← read entry.key
  let value ← elseRelease key.objects (read entry.value)
  return (key, value)

/-- The value of an object, given how many containers may still be entered and those that have been
entered, the innermost first. What is no object has the value that stands for nothing. Each item of a
list is held while it is read, and all that is in a dictionary while the dictionary is. -/
def readWithin (session : Session) (room : Nat) (path : List Handle) (handle : Handle) :
    Bridge Value := do
  match (← get).machine.heap.get? handle with
  | none => return .null
  | some cell =>
    match session.kind? handle cell.type, cell.body with
    | some .list, .list items =>
      if path.contains handle then leave handle
      else
        match room with
        | 0 => leave handle
        | room + 1 =>
          let values ← readEach Value.objects
            (fun item => holding [item] (readWithin session room (handle :: path) item)) items
          return .list values
    | some .dict, .dict content =>
      if path.contains handle then leave handle
      else
        match room with
        | 0 => leave handle
        | room + 1 =>
          let pairs ← holding (Body.references (.dict content))
            (readEach (fun pair => pair.1.objects ++ pair.2.objects)
              (readEntry (readWithin session room (handle :: path))) content.entries)
          return .map pairs
    | kind, body => readScalar handle kind body

/-- The value of an object as a session sees it. The host takes a reference to each object in it. -/
def readWith (session : Session) (handle : Handle) : Bridge Value :=
  readWithin session Value.depthLimit [] handle

/-- The value of an object. -/
def valueOf (handle : Handle) : Bridge Value := do readWith (← session) handle

end Bridge

end ForeignBridge
