import ForeignBridge.Bridge.Build
import ForeignBridge.Bridge.Read
import ForeignBridge.Value.Document

/-! # Objects

What the host does with an object: it looks at its attributes and sets them, calls it, and asks for
its text or its value. The result is a new reference, which the host gives back when it is done.
-/

namespace ForeignBridge

open Foreign (Run)
open Foreign.Run (call)

/-- What every object answers by itself, whatever its attributes. -/
inductive Intrinsic where
  | call | toString | valueOf
deriving DecidableEq, Repr, Inhabited

namespace Intrinsic

/-- The name of an intrinsic operation on the side of the host. -/
def name : Intrinsic → String
  | call => "call"
  | toString => "to_string"
  | valueOf => "value_of"

/-- The name of an intrinsic operation where it is told of. -/
def label : Intrinsic → String
  | call => "Call"
  | toString => "ToString"
  | valueOf => "ValueOf"

/-- The intrinsic operation of a name. -/
def ofName? (name : String) : Option Intrinsic :=
  [call, toString, valueOf].find? fun intrinsic => intrinsic.name == name

end Intrinsic

/-- What is asked of an object: an attribute by name, or something that no attribute can hide. -/
inductive Key where
  | name (name : String)
  | handle
  | typeName
deriving DecidableEq, Repr, Inhabited

/-- What is found in an object. -/
inductive Member where
  | attribute (value : Handle)
  | intrinsic (intrinsic : Intrinsic)
  | handle (handle : Handle)
  | typeName (name : String)
deriving DecidableEq, Repr, Inhabited

namespace Bridge

/-- An attribute of an object. That there is none is no failure, whatever the reason. -/
def getAttribute (handle : Handle) (name : String) : Act (Option Handle) := do
  if handle.isNull || name.contains (Char.ofNat 0) then return none
  match ← attemptOwned (Run.getAttribute call handle name) with
  | some attr => return some attr
  | none =>
    clear
    return none

/-- Sets an attribute of an object. -/
def setAttribute (handle : Handle) (name : String) (value : Value) : Bridge Unit := do
  requireObject handle
  requireNoNul name
  let value ← build value
  thenRelease [value] do
    settled (fun _ => []) (← attempt (Run.setAttribute call handle name value))

/-- Calls an object with values in order and values by name. What has been built for the call is given
back before the outcome is looked at. -/
def callWith (handle : Handle) (arguments : List Value) (keywords : List (String × Value)) :
    Bridge Handle := do
  requireObject handle
  let tuple ← buildTuple arguments
  let named ← elseRelease [tuple] (buildKeywords keywords)
  let result ← attemptOwned (Run.callPacked call handle tuple named)
  releaseAll (tuple :: named.toList)
  settledObject result

/-- Calls the attribute of a name. -/
def callMethod (handle : Handle) (name : String) (arguments : List Value)
    (keywords : List (String × Value)) : Bridge Handle := do
  match ← getAttribute handle name with
  | none => throw (.missingAttribute name)
  | some method => thenRelease [method] (callWith method arguments keywords)

/-- The characters of a text that the interpreter makes. -/
def render (run : Run Handle) : Bridge String := do
  let rendered ← made run
  thenRelease [rendered] (orThrow (textOf rendered) unknown)

/-- The text of an object for readers. -/
def str (handle : Handle) : Bridge String := do
  requireObject handle
  render (Run.strOf call handle)

/-- The text of an object for programmers. -/
def repr (handle : Handle) : Bridge String := do
  requireObject handle
  render (Run.reprOf call handle)

/-- The text of an object where there has to be one. -/
def display (handle : Handle) : Act String := do
  match ← outcome (str handle) with
  | .ok text => return text
  | .error _ => return "<unprintable " ++ (← get).typeName handle ++ " object>"

/-- What an object has for a key. Attributes come before intrinsic operations of the same name. -/
def member (handle : Handle) : Key → Act (Option Member)
  | .handle => return some (.handle handle)
  | .typeName => return some (.typeName ((← get).typeName handle))
  | .name name => do
    match ← getAttribute handle name with
    | some attr => return some (.attribute attr)
    | none => return (Intrinsic.ofName? name).map .intrinsic

/-- Performs an intrinsic operation. -/
def invoke (handle : Handle) (intrinsic : Intrinsic) (arguments : List Value) : Bridge Value :=
  match intrinsic with
  | .call => return .object (← callWith handle arguments [])
  | .toString => return .text (← str handle)
  | .valueOf => valueOf handle

/-- The document of the value of an object. -/
def toJson (handle : Handle) : Bridge Json := do
  let value ← valueOf handle
  thenRelease value.objects do
    match value.toJson (← get).typeName with
    | .ok json => return json
    | .error error => throw error

end Bridge

end ForeignBridge
