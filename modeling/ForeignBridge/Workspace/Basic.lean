import ForeignBridge.Bridge.Start
import ForeignBridge.CAbi
import ForeignBridge.Foreign.Start
import ForeignBridge.Value.Basic

/-! # Workspaces

A workspace is a world together with what a user of it keeps by name: objects, values, and counts of
references for later comparison. An object that is kept is held by one reference, and so is each
object in a value that is kept.
-/

/-! ## Recipes

A recipe says how a value is made from what a workspace holds: the objects and the values that it
keeps by name.
-/

namespace ForeignBridge

/-- What a value is wrapped in. -/
inductive Wrapping where
  | list | map | record
deriving DecidableEq, Repr, Inhabited

/-- How a value is made. -/
inductive Recipe where
  | null
  | bool (value : Bool)
  | int (value : Int64)
  | float (value : Double)
  | text (value : String)
  | list (items : List Recipe)
  | map (pairs : List (Recipe × Recipe))
  | record (fields : List (String × Recipe))
  /-- An object that is kept by name. -/
  | object (name : String)
  /-- The handle of no object. -/
  | noObject
  | function (identity : Nat)
  /-- A value that is kept by name. -/
  | kept (name : String)
  /-- A text so many times. -/
  | repeatedText (text : String) (times : Nat)
  /-- A list of one value so many times. -/
  | repeated (item : Recipe) (times : Nat)
  /-- A list of the first integers. -/
  | range (count : Nat)
  /-- A value in so many wrappings. -/
  | nested (wrapping : Wrapping) (times : Nat) (leaf : Recipe)
deriving Inhabited

/-- A value in one wrapping. -/
def Wrapping.wrap : Wrapping → Value → Value
  | list, value => .list [value]
  | map, value => .map [(.int 0, value)]
  | record, value => .record [("k", value)]

namespace Recipe

mutual

/-- The value that a recipe makes of the objects and values kept by name. A name that is not kept
stands for no object or for nothing. -/
def make (objects : List (String × Handle)) (values : List (String × Value)) : Recipe → Value
  | null => .null
  | bool b => .bool b
  | int n => .int n
  | float x => .float x
  | text s => .text s
  | list items => .list (makeItems objects values items)
  | map pairs => .map (makePairs objects values pairs)
  | record fields => .ofFields (makeFields objects values fields)
  | object name => .object ((objects.lookup name).getD .null)
  | noObject => .object .null
  | function identity => .function identity
  | kept name => (values.lookup name).getD .null
  | repeatedText part times => .text (String.join (List.replicate times part))
  | repeated item times => .list (List.replicate times (item.make objects values))
  | range count => .list ((List.range count).map fun n => .int (Int64.ofNat n))
  | nested wrapping times leaf => Nat.repeat wrapping.wrap times (leaf.make objects values)

/-- The values that some recipes make. -/
def makeItems (objects : List (String × Handle)) (values : List (String × Value)) :
    List Recipe → List Value
  | [] => []
  | item :: rest => item.make objects values :: makeItems objects values rest

/-- The pairs that some pairs of recipes make. -/
def makePairs (objects : List (String × Handle)) (values : List (String × Value)) :
    List (Recipe × Recipe) → List (Value × Value)
  | [] => []
  | (key, value) :: rest =>
    (key.make objects values, value.make objects values) :: makePairs objects values rest

/-- The fields that some named recipes make. -/
def makeFields (objects : List (String × Handle)) (values : List (String × Value)) :
    List (String × Recipe) → List (String × Value)
  | [] => []
  | (name, value) :: rest => (name, value.make objects values) :: makeFields objects values rest

end

end Recipe

end ForeignBridge

namespace ForeignBridge

/-- A world and what is kept of it by name. -/
structure Workspace where
  world : World
  /-- The objects, in the order of their names. -/
  slots : List (String × Handle)
  values : List (String × Value)
  marks : List (String × Nat)

/-- What changes a workspace and may fail. -/
abbrev Attempt := ExceptT BridgeError (StateM Workspace)

/-- What is said of an object: the name of its class, and the first name it is kept under. -/
structure Label where
  typeName : String
  slot : Option String
deriving DecidableEq, Repr, Inhabited

/-- What a step answers. -/
inductive Answer where
  | nothing
  | truth (value : Bool)
  | number (value : Int)
  | text (value : String)
  /-- An object by the name of its class and of its kind. -/
  | held (typeName kind : String)
  /-- A value, with what is said of the objects in it. -/
  | value (value : Value) (label : Handle → Label)
  | record (fields : List (String × Answer))

/-- How a value is answered. -/
inductive View where
  | whole
  /-- The way down by the first parts. -/
  | depth
  /-- The text for diagnostics. -/
  | debug
deriving DecidableEq, Repr, Inhabited

namespace Workspace

/-- A workspace around a world, in which nothing is kept. -/
def ofWorld (world : World) : Workspace := ⟨world, [], [], []⟩

/-- A workspace in which nothing has been started. -/
def fresh (environment : Environment) : Workspace :=
  ofWorld (.ofMachine Foreign.Machine.start environment)

/-- A workspace with a session and an empty registry. -/
def started : Workspace :=
  let opened : Act Unit := do
    let _ ← Bridge.outcome (Bridge.startWith .standard)
    Bridge.openRegistry
  ofWorld (opened.run (.ofMachine Foreign.Machine.start ⟨none, none⟩)).2.settle

/-- The object that is kept under a name. -/
def slot (workspace : Workspace) (name : String) : Handle :=
  (workspace.slots.lookup name).getD .null

/-- The references of the host, as far as they are for something that is kept. -/
def references (workspace : Workspace) : List Handle :=
  workspace.slots.map (·.2) ++ workspace.values.flatMap (·.2.objects) ++
    (workspace.world.registry.map Registry.handles).getD [] ++
    (workspace.world.session.map Session.handles).getD []

/-- What is said of an object. -/
def label (workspace : Workspace) (handle : Handle) : Label :=
  ⟨workspace.world.typeName handle,
    (workspace.slots.find? fun entry => entry.2 == handle).map (·.1)⟩

/-- The answer for an object. -/
def heldAnswer (workspace : Workspace) (handle : Handle) : Answer :=
  let kind := match workspace.world.session with
    | none => "?"
    | some session => ((workspace.world.kind? session handle).map Kind.name).getD "-"
  .held (workspace.world.typeName handle) kind

/-- The answer for a value. -/
def valueAnswer (workspace : Workspace) (view : View) (value : Value) : Answer :=
  match view with
  | .whole => .value value workspace.label
  | .depth =>
    let (depth, leaf) := value.descend
    .record [("depth", .number depth), ("leaf", .value leaf workspace.label)]
  | .debug => .text (value.outline workspace.world.typeName).line

/-- Does something in the world. -/
def inWorld {α : Type} (act : Act α) : StateM Workspace α := fun workspace =>
  match workspace with
  | ⟨world, slots, values, marks⟩ =>
    let (result, world) := act.run world
    (result, ⟨world, slots, values, marks⟩)

/-- Does something in the world, in the course of something that may fail. -/
def always {α : Type} (act : Act α) : Attempt α := ExceptT.lift (inWorld act)

/-- Does something in the world that may fail. -/
def tryInWorld {α : Type} (bridge : Bridge α) : Attempt α := ExceptT.mk (inWorld (Bridge.outcome bridge))

/-- Keeps an object, whose reference goes over, under a name; the one kept before is let go. -/
def storeObject (name : String) (handle : Handle) : StateM Workspace Unit := do
  let old := (← get).slot name
  modify fun workspace => { workspace with slots := Fields.insert name handle workspace.slots }
  inWorld (Bridge.release old)

/-- Keeps a value under a name, with a reference to each object in it; the one kept before is let
go. -/
def storeValue (name : String) (value : Value) : StateM Workspace Unit := do
  let old := ((← get).values.lookup name).getD .null
  inWorld (Bridge.ownAll value.objects)
  modify fun workspace => { workspace with values := Fields.insert name value workspace.values }
  inWorld (Bridge.releaseAll old.objects)

/-- Lets the object under a name go. -/
def dropObject (name : String) : StateM Workspace Bool := do
  match (← get).slots.lookup name with
  | none => return false
  | some handle =>
    modify fun workspace =>
      { workspace with slots := workspace.slots.filter fun entry => entry.1 != name }
    inWorld (Bridge.release handle)
    return true

/-- Lets the value under a name go. -/
def dropValue (name : String) : StateM Workspace Bool := do
  match (← get).values.lookup name with
  | none => return false
  | some value =>
    modify fun workspace =>
      { workspace with values := workspace.values.filter fun entry => entry.1 != name }
    inWorld (Bridge.releaseAll value.objects)
    return true

end Workspace

end ForeignBridge
