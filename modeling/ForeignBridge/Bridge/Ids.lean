import ForeignBridge.Bridge.World

/-! # Integers for objects

The registry of the world. It holds one reference to an object for each integer.
-/

namespace ForeignBridge.Bridge

/-- Opens the registry, unless it is open. -/
def openRegistry : Act Unit :=
  modify fun world => { world with registry := some (world.registry.getD .empty) }

/-- Closes the registry and gives all its references back. -/
def closeRegistry : Act Unit := do
  match (← get).registry with
  | none => return
  | some registry =>
    modify ({ · with registry := none })
    releaseAll registry.handles

/-- The registry, while it is open. -/
def registry : Bridge Registry := do
  match (← get).registry with
  | some registry => return registry
  | none => throw .notInitialized

/-- Hands an integer out for an object, and the reference to the object over to the registry. -/
def register (handle : Handle) : Bridge Int :=
  elseRelease [handle] do
    let registry ← registry
    if registry.isFull then throw (.invalidArgument "id counter overflow")
    modify ({ · with registry := some (registry.insert handle) })
    return registry.next

/-- The object of an integer, with a reference of its own. -/
def resolve (id : Int) : Bridge Handle := do
  match (← registry).get? id with
  | some handle =>
    own handle
    return handle
  | none => throw (.invalidHandle id)

/-- The objects of some integers, each with a reference of its own. -/
def resolveAll : List Int → Bridge (List Handle)
  | [] => return []
  | id :: rest => do
    let handle ← resolve id
    let rest ← elseRelease [handle] (resolveAll rest)
    return handle :: rest

/-- Takes an integer back. The reference of the registry goes over to the caller. -/
def unregister (id : Int) : Bridge Handle := do
  let registry ← registry
  match registry.get? id with
  | some handle =>
    modify ({ · with registry := some (registry.erase id) })
    return handle
  | none => throw (.invalidHandle id)

/-- How many integers there are. -/
def registered : Bridge Nat := do return (← registry).size

end ForeignBridge.Bridge
