import ForeignBridge.Error
import ForeignBridge.Foreign.Settle
import ForeignBridge.Registry
import ForeignBridge.Session

/-! # The world

The world is the interpreter as the host sees it: the machine, the exception that waits to be
looked at, and what the host holds. The host holds references to objects; `held` has an object once
for each reference to it. An operation takes a reference for each object that it keeps or hands out,
and gives back every other one before it ends, whatever its outcome. A reference that is given back
though it is not held is one too many, and `overdrawn` has it.
-/

namespace ForeignBridge

open Foreign (Machine Thrown Run)

/-- The two variables of the environment that a start looks at. -/
structure Environment where
  paths : Option String
  localSymbols : Option String
deriving DecidableEq, Repr, Inhabited

/-- The interpreter and what the host holds of it. -/
structure World where
  machine : Machine
  /-- An exception that has been raised and not been looked at. -/
  pending : Option Thrown
  /-- The references of the host, the newest first. -/
  held : List Handle
  /-- The references that were given back and had not been held. -/
  overdrawn : List Handle
  session : Option Session
  registry : Option Registry
  /-- The text of the last failure, for callers that see only numbers and texts. -/
  lastError : Option String
  environment : Environment

/-- What changes the world and always has a result. -/
abbrev Act := StateM World

/-- What changes the world and may fail. -/
abbrev Bridge := ExceptT BridgeError (StateM World)

namespace World

/-- The world around a machine, in which the host holds nothing and nothing has been started. -/
def ofMachine (machine : Machine) (environment : Environment) : World where
  machine
  pending := none
  held := []
  overdrawn := []
  session := none
  registry := none
  lastError := none
  environment

/-- Whether a handle is of an object that is there. -/
def has (world : World) (handle : Handle) : Bool := world.machine.heap.has handle

/-- The class of an object. -/
def classOf (world : World) (handle : Handle) : Handle :=
  match world.machine.heap.get? handle with
  | some cell => cell.type
  | none => .null

/-- The name of the class of an object. -/
def typeName (world : World) (handle : Handle) : String :=
  if handle.isNull then "NULL"
  else
    match (Run.typeName handle).on world.machine with
    | (.ok name, _) => name
    | (.error _, _) => "object"

/-- The kind of an object, as far as the session can tell. -/
def kind? (world : World) (session : Session) (handle : Handle) : Option Kind :=
  session.kind? handle (world.classOf handle)

/-- Whether an object stands for nothing: there is none, or it is the singleton for that. -/
def isAbsent (world : World) (handle : Handle) : Bool :=
  handle.isNull || world.session.any fun session => session.none == handle

/-- The references to objects that do not come from other objects. -/
def outside (world : World) : List Handle :=
  world.pending.toList.flatMap (fun thrown =>
    thrown.exception :: thrown.frames.flatMap (·.holds)) ++ world.held

/-- How many references to an object there are. -/
def refCount (world : World) (handle : Handle) : Nat :=
  if handle.isNull then 0
  else world.machine.heap.references handle + world.outside.count handle -
    world.overdrawn.count handle

/-- The world once a reference has been given back. -/
def giveBack (world : World) (handle : Handle) : World :=
  if handle.isNull then world
  else if handle ∈ world.held then { world with held := world.held.erase handle }
  else { world with overdrawn := handle :: world.overdrawn }

/-- The world without the objects that nothing refers to. -/
def settle (world : World) : World :=
  { world with machine := world.machine.settle world.outside }

end World

namespace Bridge

/-- Takes a reference to an object. -/
def own (handle : Handle) : Act Unit :=
  if handle.isNull then pure ()
  else modify fun world => { world with held := handle :: world.held }

/-- Gives a reference back. -/
def release (handle : Handle) : Act Unit := modify (·.giveBack handle)

/-- Takes a reference to each of some objects. -/
def ownAll (handles : List Handle) : Act Unit := handles.forM own

/-- Gives a reference to each of some objects back. -/
def releaseAll (handles : List Handle) : Act Unit := handles.forM release

/-- What comes of an attempt, failure included. -/
def outcome {α : Type} (act : Bridge α) : Act (Except BridgeError α) := act.run

/-- Gives references back once something has ended, however it ended. -/
def thenRelease {α : Type} (handles : List Handle) (act : Bridge α) : Bridge α :=
  ExceptT.mk do
    let result ← outcome act
    releaseAll handles
    return result

/-- Gives references back if something fails. -/
def elseRelease {α : Type} (handles : List Handle) (act : Bridge α) : Bridge α :=
  ExceptT.mk do
    match ← outcome act with
    | .ok value => return .ok value
    | .error error =>
      releaseAll handles
      return .error error

/-- The session, once there is one. -/
def session : Bridge Session := do
  match (← get).session with
  | some session => return session
  | none => throw .notInitialized

/-- Fails on no object. -/
def requireObject (handle : Handle) : Bridge Unit := do
  if handle.isNull then throw .nullHandle

/-- Fails on a text that has a null character in it. -/
def requireNoNul (text : String) : Bridge Unit := do
  if text.contains (Char.ofNat 0) then throw (.interiorNul text)

end Bridge

end ForeignBridge
