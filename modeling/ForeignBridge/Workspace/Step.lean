import ForeignBridge.Workspace.Basic

/-! # Steps

A step is one thing that is done in a workspace, and its answer. An object or a value that it comes
to may be kept under a name; what is not kept is let go. When a step has ended, everything in the
interpreter that nothing refers to any more is freed.
-/

namespace ForeignBridge

/-- What is done. -/
inductive Action where
  | startWith (config : Config)
  | start
  | showSession
  | sameSession
  | builtins
  | noneObject
  | run (source : String)
  | eval (source : String)
  | importModule (name : String)
  | build (value : Recipe)
  | roundTrip (value : Recipe)
  | valueOf (slot : String)
  | toJson (slot : String)
  | make (value : Recipe)
  | equal (a b : Recipe)
  | lookUp (value key : Recipe)
  | forget (name : String)
  | nullObject
  | own (slot : String)
  | drop (slot : String)
  | mark (slot : String)
  | change (slot : String)
  | compare (a b : String)
  | describe (slot : String)
  | display (slot : String)
  | str (slot : String)
  | repr (slot : String)
  | getAttribute (slot name : String)
  | setAttribute (slot name : String) (value : Recipe)
  | call (slot : String) (arguments : List Recipe) (keywords : List (String × Recipe))
  | callMethod (slot name : String) (arguments : List Recipe) (keywords : List (String × Recipe))
  | member (slot : String) (key : Key)
  | invoke (slot : String) (intrinsic : Intrinsic) (arguments : List Recipe)
  | openRegistry
  | closeRegistry
  | register (slot : String)
  | resolve (id : Int)
  | unregister (id : Int)
  | registered
  | setLastError (text : String)
  | clearLastError
  | lastError
deriving Inhabited

/-- One thing that is done. -/
inductive Step where
  /-- An action, and the names under which the object and the value it comes to are kept. -/
  | act (action : Action) (slot value : Option String) (view : View)
  /-- A call of the C interface. -/
  | call (call : CAbi.Call)
deriving Inhabited

/-- The answer to a step. -/
inductive Reply where
  | answer (answer : Answer)
  | failure (error : BridgeError)
  /-- The answer to a call of the C interface, and the last error after it. -/
  | called (answer : CAbi.Answer) (lastError : Option String)

/-- What an action comes to. -/
inductive Product where
  | answer (answer : Answer)
  /-- An object, with a reference to it. -/
  | object (handle : Handle)
  /-- A value, with a reference to each object in it. -/
  | value (value : Value)
  /-- An attribute, with a reference to it. -/
  | attribute (handle : Handle)

namespace Workspace

/-- The value of a recipe. -/
def made (recipe : Recipe) : StateM Workspace Value := do
  let workspace ← get
  return recipe.make workspace.slots workspace.values

/-- The values of some recipes. -/
def madeAll (recipes : List Recipe) : StateM Workspace (List Value) := recipes.mapM made

/-- The values of some named recipes. -/
def madeNamed (recipes : List (String × Recipe)) : StateM Workspace (List (String × Value)) :=
  recipes.mapM fun (name, recipe) => do return (name, ← made recipe)

/-- A value with a reference to each object in it. -/
def ownedValue (value : Value) : StateM Workspace Product := do
  inWorld (Bridge.ownAll value.objects)
  return .value value

/-- An object with a reference to it. -/
def ownedObject (handle : Handle) : StateM Workspace Product := do
  inWorld (Bridge.own handle)
  return .object handle

/-- The answer that says nothing. -/
def done : Product := .answer .nothing

/-- What is said of an object in all its forms. -/
def description (workspace : Workspace) (handle : Handle) : Answer :=
  let world := workspace.world
  let typeName := world.typeName handle
  .record [
    ("is_null", .truth handle.isNull),
    ("is_absent", .truth (world.isAbsent handle)),
    ("null_refs", if handle.isNull then .number (world.refCount handle) else .nothing),
    ("debug", .text (handle.proxyOutline typeName).line),
    ("handle", .text handle.outline.line),
    ("owned", .text handle.ownedOutline.line),
    ("type", .text typeName)]

/-- Reads an object back and lets it go. Its text for programmers comes along if all is asked for. -/
def readBack (view : View) (handle : Handle) : Bridge (Value × Option String) :=
  Bridge.thenRelease [handle] do
    let back ← Bridge.valueOf handle
    Bridge.releaseAll back.objects
    match view with
    | .whole =>
      match ← ExceptT.lift (Bridge.outcome (Bridge.repr handle)) with
      | .ok text => return (back, some text)
      | .error error => return (back, some error.message)
    | _ => return (back, none)

/-- Builds an object for a value and reads it back. -/
def roundTrip (view : View) (value : Value) : Attempt Answer := do
  let handle ← tryInWorld (Bridge.build value)
  let (back, repr) ← tryInWorld (readBack view handle)
  let workspace ← get
  return .record [
    ("value", workspace.valueAnswer view back),
    ("equal", .truth (back.equal value)),
    ("type", .text (workspace.world.typeName handle)),
    ("repr", (repr.map Answer.text).getD .nothing)]

/-- Does what an action says. -/
def perform (view : View) : Action → Attempt Product
  | .startWith config => do
    let _ ← tryInWorld (Bridge.startWith config)
    return done
  | .start => do
    let _ ← tryInWorld Bridge.start
    return done
  | .showSession => do
    let session ← tryInWorld Bridge.session
    let world := (← get).world
    return .answer (.text (session.outline world.typeName).line)
  | .sameSession => do
    let running ← tryInWorld Bridge.session
    let started ← tryInWorld Bridge.start
    return .answer (.truth (running == started))
  | .builtins => do
    let session ← tryInWorld Bridge.session
    ownedObject session.builtins
  | .noneObject => do
    let session ← tryInWorld Bridge.session
    ownedObject session.none
  | .run source => do
    let _ ← tryInWorld Bridge.session
    tryInWorld (Bridge.run source)
    return done
  | .eval source => do
    let _ ← tryInWorld Bridge.session
    return .object (← tryInWorld (Bridge.eval source))
  | .importModule name => do
    let _ ← tryInWorld Bridge.session
    return .object (← tryInWorld (Bridge.importModule name))
  | .build value => do return .object (← tryInWorld (Bridge.build (← made value)))
  | .roundTrip value => do return .answer (← roundTrip view (← made value))
  | .valueOf slot => do return .value (← tryInWorld (Bridge.valueOf ((← get).slot slot)))
  | .toJson slot => do
    return .answer (.text (Json.write (← tryInWorld (Bridge.toJson ((← get).slot slot)))))
  | .make value => do ownedValue (← made value)
  | .equal a b => do return .answer (.truth ((← made a).equal (← made b)))
  | .lookUp value key => do
    match (← made value).get? (← made key) with
    | some found => ownedValue found
    | none => return done
  | .forget name => do return .answer (.truth (← dropValue name))
  | .nullObject => return .object .null
  | .own slot => do ownedObject ((← get).slot slot)
  | .drop slot => do return .answer (.truth (← dropObject slot))
  | .mark slot => do
    modify fun workspace =>
      { workspace with
        marks := Fields.insert slot (workspace.world.refCount (workspace.slot slot))
          workspace.marks }
    return done
  | .change slot => do
    let workspace ← get
    let count : Int := workspace.world.refCount (workspace.slot slot)
    return .answer (.number (count - ((workspace.marks.lookup slot).getD 0 : Nat)))
  | .compare a b => do
    let same := Answer.truth ((← get).slot a == (← get).slot b)
    return .answer (.record [("proxy", same), ("handle", same), ("address", same)])
  | .describe slot => do
    let workspace ← get
    return .answer (workspace.description (workspace.slot slot))
  | .display slot => do
    let handle := (← get).slot slot
    return .answer (.text (← always (Bridge.display handle)))
  | .str slot => do return .answer (.text (← tryInWorld (Bridge.str ((← get).slot slot))))
  | .repr slot => do return .answer (.text (← tryInWorld (Bridge.repr ((← get).slot slot))))
  | .getAttribute slot name => do
    let handle := (← get).slot slot
    match ← always (Bridge.getAttribute handle name) with
    | some found => return .object found
    | none => return done
  | .setAttribute slot name value => do
    let handle := (← get).slot slot
    let value ← made value
    tryInWorld (Bridge.setAttribute handle name value)
    return done
  | .call slot arguments keywords => do
    let handle := (← get).slot slot
    let arguments ← madeAll arguments
    let keywords ← madeNamed keywords
    return .object (← tryInWorld (Bridge.callWith handle arguments keywords))
  | .callMethod slot name arguments keywords => do
    let handle := (← get).slot slot
    let arguments ← madeAll arguments
    let keywords ← madeNamed keywords
    return .object (← tryInWorld (Bridge.callMethod handle name arguments keywords))
  | .member slot key => do
    let handle := (← get).slot slot
    match ← always (Bridge.member handle key) with
    | none => return done
    | some (.attribute found) => return .attribute found
    | some (.intrinsic intrinsic) =>
      return .answer (.record [("intrinsic", .text intrinsic.label)])
    | some (.handle found) => return .answer (.record [("handle", .truth (found == handle))])
    | some (.typeName name) => return .answer (.record [("type_name", .text name)])
  | .invoke slot intrinsic arguments => do
    let handle := (← get).slot slot
    let arguments ← madeAll arguments
    return .value (← tryInWorld (Bridge.invoke handle intrinsic arguments))
  | .openRegistry => do
    always Bridge.openRegistry
    return done
  | .closeRegistry => do
    always Bridge.closeRegistry
    return done
  | .register slot => do
    let handle := (← get).slot slot
    always (Bridge.own handle)
    return .answer (.number (← tryInWorld (Bridge.register handle)))
  | .resolve id => do return .object (← tryInWorld (Bridge.resolve id))
  | .unregister id => do return .object (← tryInWorld (Bridge.unregister id))
  | .registered => do return .answer (.number (← tryInWorld Bridge.registered))
  | .setLastError text => do
    always (CAbi.setLastError text)
    return done
  | .clearLastError => do
    always CAbi.clearLastError
    return done
  | .lastError => do
    return .answer (((← get).world.lastError.map Answer.text).getD .nothing)

/-- Keeps an object that an action came to, or lets it go. -/
def keepObject (slot : Option String) (handle : Handle) : StateM Workspace Unit :=
  match slot with
  | some name => storeObject name handle
  | none => inWorld (Bridge.release handle)

/-- Keeps a value that is an object under a name for objects. -/
def keepLeaf (slot : Option String) (value : Value) : StateM Workspace Unit :=
  match slot, value with
  | some name, .object handle => do
    inWorld (Bridge.own handle)
    storeObject name handle
  | _, _ => pure ()

/-- Keeps a value that an action came to, or lets it go. A value that is an object may be kept as
either. -/
def keepValue (slot kept : Option String) (value : Value) : StateM Workspace Unit := do
  keepLeaf slot value
  match kept with
  | some name => storeValue name value
  | none => pure ()
  inWorld (Bridge.releaseAll value.objects)

/-- The answer for what an action came to, which is then kept or let go. -/
def deliver (slot kept : Option String) (view : View) : Product → StateM Workspace Answer
  | .answer answer => return answer
  | .object handle => do
    let answer := (← get).heldAnswer handle
    keepObject slot handle
    return answer
  | .value value => do
    let answer := (← get).valueAnswer view value
    keepValue slot kept value
    return answer
  | .attribute handle => do
    let answer := (← get).heldAnswer handle
    keepObject slot handle
    return .record [("attribute", answer)]

/-- Frees what nothing refers to any more. -/
def settle : StateM Workspace Unit :=
  modify fun workspace => { workspace with world := workspace.world.settle }

/-- Does what a step says. -/
def answer : Step → StateM Workspace Reply
  | .act action slot kept view => do
    match ← (perform view action).run with
    | .ok product => return .answer (← deliver slot kept view product)
    | .error error => return .failure error
  | .call call => do
    let answer ← inWorld (CAbi.perform call)
    return .called answer (← get).world.lastError

/-- Takes a step. -/
def take (step : Step) : StateM Workspace Reply := do
  let reply ← answer step
  settle
  return reply

/-- Takes some steps, one after another. -/
def takeAll (steps : List Step) : StateM Workspace (List Reply) := steps.mapM take

end Workspace

end ForeignBridge
