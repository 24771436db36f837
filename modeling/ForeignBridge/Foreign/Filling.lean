import ForeignBridge.Foreign.Names

/-! # Filling containers

The host makes a list with all its places empty and fills them one by one; an empty place has no
object in it. It calls with a tuple of the arguments, and with a dictionary of those that have a name.
-/

namespace ForeignBridge.Foreign.Run

/-- Some items with another one at a place. -/
def fillPlace (items : List Handle) (place : Nat) (item : Handle) : Run (List Handle) :=
  if place < items.length then return items.set place item
  else fail .indexError "list assignment index out of range"

/-- Puts an object at a place of a list that is being made. -/
def setPlace (list : Handle) (place : Nat) (item : Handle) : Run Unit := do
  match ← body list with
  | .list items => setBody list (.list (← fillPlace items place item))
  | _ => fail .systemError "bad argument to internal function"

/-- Calls an object with the items of a tuple, and with what is in a dictionary by name. -/
def callPacked (invoke : Invoke) (target tuple : Handle) (named : Option Handle) : Run Handle := do
  let positional ← itemsOf tuple
  let keywords ← match named with
    | some dict => namesIn dict
    | none => pure []
  invoke target ⟨positional, keywords⟩

end ForeignBridge.Foreign.Run
