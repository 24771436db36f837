import ForeignBridge.Bridge.Ids
import ForeignBridge.Bridge.Start
import ForeignBridge.Json.Reader
import ForeignBridge.Text.Utf8

/-! # The C interface

A caller that has only numbers and texts holds objects by integers from the registry. Each call
but those for the last error itself first forgets that error. If it fails it keeps the text of its
own error, and answers with a number or a text that says so: 0 for an integer of an object, -1 for a
status, and the empty text.
-/

namespace ForeignBridge.CAbi

/-- A text argument: the bytes at a pointer, or nothing for the null pointer. -/
abbrev Bytes := Option (List UInt8)

/-- An array argument: the integers at a pointer, or nothing for the null pointer. -/
abbrev Ids := Option (List Int)

/-- A call of the interface. -/
inductive Call where
  | init
  | finalize
  | exec (code : Bytes)
  | eval (code : Bytes)
  | importModule (name : Bytes)
  | getAttribute (object : Int) (name : Bytes)
  | setAttribute (object : Int) (name : Bytes) (value : Int)
  | call (callable : Int) (arguments : Ids) (count : Nat)
  | invoke (object : Int) (method : Bytes) (arguments : Ids) (count : Nat)
  | toStr (object : Int)
  | toRepr (object : Int)
  | toJson (object : Int)
  | fromJson (text : Bytes)
  | isAbsent (object : Int)
  | drop (id : Int)
  | handleCount
  | lastError
  | clearLastError
deriving DecidableEq, Repr, Inhabited

/-- The answer to a call. -/
inductive Answer where
  | none
  | number (value : Int)
  | text (value : String)
deriving DecidableEq, Repr, Inhabited

/-- Keeps the text of an error; null characters are spelt out. -/
def setLastError (text : String) : Act Unit := modify ({ · with lastError := some (spellNuls text) })

/-- Forgets the last error. -/
def clearLastError : Act Unit := modify ({ · with lastError := none })

/-- The part of a text before its first null character. -/
def cutAtNul (text : String) : String :=
  String.ofList (text.toList.takeWhile (· != Char.ofNat 0))

/-- The text at a pointer, up to its first null character. -/
def readText (bytes : Bytes) : Except BridgeError String :=
  match bytes with
  | none => .error (.invalidArgument "null string pointer")
  | some bytes =>
    match Utf8.decode (bytes.takeWhile (· != 0)) with
    | .ok text => .ok text
    | .error fault => .error (.invalidArgument ("invalid UTF-8: " ++ fault.message))

/-- So many integers at a pointer. It is not looked at if there are none. -/
def readIds (ids : Ids) (count : Nat) : Except BridgeError (List Int) :=
  if count = 0 then .ok []
  else
    match ids with
    | none => .error (.invalidArgument "null argument array")
    | some ids => .ok (ids.take count)

/-- The text of a text argument. -/
def argumentText (bytes : Bytes) : Bridge String := MonadExcept.ofExcept (readText bytes)

/-- The objects of an array argument, each with a reference of its own. -/
def argumentObjects (ids : Ids) (count : Nat) : Bridge (List Handle) := do
  Bridge.resolveAll (← MonadExcept.ofExcept (readIds ids count))

/-- Looks at the object of an integer. -/
def withObject {α : Type} (id : Int) (look : Handle → Bridge α) : Bridge α := do
  let handle ← Bridge.resolve id
  Bridge.thenRelease [handle] (look handle)

/-- Hands an integer out for the object that something comes to. -/
def registered (result : Bridge Handle) : Bridge Int := do Bridge.register (← result)

/-- Starts the interpreter as the environment says, and opens the registry. -/
def init : Bridge Unit := do
  let _ ← Bridge.start
  Bridge.openRegistry

/-- Executes statements. -/
def exec (code : Bytes) : Bridge Unit := do
  let code ← argumentText code
  let _ ← Bridge.session
  Bridge.run code

/-- An integer for the object that an expression evaluates to. -/
def eval (code : Bytes) : Bridge Int := do
  let code ← argumentText code
  let _ ← Bridge.session
  registered (Bridge.eval code)

/-- An integer for a module. -/
def importModule (name : Bytes) : Bridge Int := do
  let name ← argumentText name
  let _ ← Bridge.session
  registered (Bridge.importModule name)

/-- An integer for an attribute, or 0 if there is none. -/
def getAttribute (object : Int) (name : Bytes) : Bridge Int := do
  let name ← argumentText name
  let found ← withObject object fun handle => Bridge.getAttribute handle name
  match found with
  | some handle => Bridge.register handle
  | none => return 0

/-- Sets an attribute to an object. -/
def setAttribute (object : Int) (name : Bytes) (value : Int) : Bridge Unit := do
  let name ← argumentText name
  withObject value fun value =>
    withObject object fun handle => Bridge.setAttribute handle name (.object value)

/-- An integer for the result of a call. -/
def call (callable : Int) (arguments : Ids) (count : Nat) : Bridge Int := do
  let arguments ← argumentObjects arguments count
  registered <| Bridge.thenRelease arguments <|
    withObject callable fun handle => Bridge.callWith handle (arguments.map .object) []

/-- An integer for the result of calling an attribute. -/
def invoke (object : Int) (method : Bytes) (arguments : Ids) (count : Nat) : Bridge Int := do
  let method ← argumentText method
  let arguments ← argumentObjects arguments count
  registered <| Bridge.thenRelease arguments <|
    withObject object fun handle => Bridge.callMethod handle method (arguments.map .object) []

/-- An integer for an object that is built from a document. -/
def fromJson (text : Bytes) : Bridge Int := do
  let text ← argumentText text
  match Json.read text with
  | .error fault => throw (.invalidArgument ("JSON: " ++ fault.message))
  | .ok json => do
    let _ ← Bridge.session
    registered (Bridge.build (.ofJson json))

/-- Answers with what something comes to, or keeps the text of its error and says that it failed. -/
def answer {α : Type} (success : α → Answer) (failure : Answer) (result : Bridge α) : Act Answer := do
  clearLastError
  match ← Bridge.outcome result with
  | .ok value => return success value
  | .error error =>
    setLastError error.display
    return failure

/-- Answers with a number, or with another one on failure. -/
def answerNumber (failure : Int) (result : Bridge Int) : Act Answer :=
  answer .number (.number failure) result

/-- Answers with 0, or with -1 on failure. -/
def answerStatus (result : Bridge Unit) : Act Answer :=
  answer (fun _ => .number 0) (.number (-1)) result

/-- Answers with a text up to its first null character, or with the empty text on failure. -/
def answerText (result : Bridge String) : Act Answer :=
  answer (fun value => .text (cutAtNul value)) (.text "") result

/-- Answers with nothing, whether or not something fails. -/
def answerNothing (result : Bridge Unit) : Act Answer := answer (fun _ => .none) .none result

/-- Performs a call. -/
def perform : Call → Act Answer
  | .init => answerStatus init
  | .finalize => answerNothing Bridge.closeRegistry
  | .exec code => answerStatus (exec code)
  | .eval code => answerNumber 0 (eval code)
  | .importModule name => answerNumber 0 (importModule name)
  | .getAttribute object name => answerNumber 0 (getAttribute object name)
  | .setAttribute object name value => answerStatus (setAttribute object name value)
  | .call callable arguments count => answerNumber 0 (call callable arguments count)
  | .invoke object method arguments count =>
    answerNumber 0 (invoke object method arguments count)
  | .toStr object => answerText (withObject object Bridge.str)
  | .toRepr object => answerText (withObject object Bridge.repr)
  | .toJson object =>
    answer (fun json => .text (cutAtNul (Json.write json))) (.text "") (withObject object Bridge.toJson)
  | .fromJson text => answerNumber 0 (fromJson text)
  | .isAbsent object =>
    answer (fun absent => .number (if absent then 1 else 0)) (.number (-1)) <|
      withObject object fun handle => return (← get).isAbsent handle
  | .drop id => answerNothing do Bridge.release (← Bridge.unregister id)
  | .handleCount => answer (fun count => .number (Int.ofNat count)) (.number (-1)) Bridge.registered
  | .lastError => return ((← get).lastError.map .text).getD .none
  | .clearLastError => do
    clearLastError
    return .none

end ForeignBridge.CAbi
