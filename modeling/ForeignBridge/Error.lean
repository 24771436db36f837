import ForeignBridge.Text.Outline

/-! # Errors

Everything that can go wrong between the host and the interpreter, with one message each. An error
that the interpreter raised also carries the text of its traceback.
-/

namespace ForeignBridge

/-- A failed operation. -/
inductive BridgeError where
  /-- The interpreter raised an exception. -/
  | foreign (message : String) (traceback : Option String)
  /-- A value has no counterpart on the other side. -/
  | unsupportedConversion (what : String)
  | missingAttribute (name : String)
  | moduleNotFound (name : String)
  /-- Statements failed; the interpreter has already reported why. -/
  | script
  | notInitialized
  | bootstrap (what : String)
  | nullHandle
  | invalidHandle (id : Int)
  | invalidArgument (what : String)
  /-- A text that must end at its first null character has one inside. -/
  | interiorNul (text : String)
deriving DecidableEq, Repr, Inhabited

namespace BridgeError

/-- The name of the kind of error. -/
def kind : BridgeError → String
  | foreign .. => "Foreign"
  | unsupportedConversion _ => "UnsupportedConversion"
  | missingAttribute _ => "MissingAttribute"
  | moduleNotFound _ => "ModuleNotFound"
  | script => "Script"
  | notInitialized => "NotInitialized"
  | bootstrap _ => "Bootstrap"
  | nullHandle => "NullHandle"
  | invalidHandle _ => "InvalidHandle"
  | invalidArgument _ => "InvalidArgument"
  | interiorNul _ => "InteriorNul"

/-- What went wrong, without a traceback. -/
def message : BridgeError → String
  | foreign message _ => message
  | unsupportedConversion what => "Unsupported conversion: " ++ what
  | missingAttribute name => "Object has no attribute '" ++ name ++ "'"
  | moduleNotFound name => "Module not found: " ++ name
  | script => "Script execution failed"
  | notInitialized => "Interpreter not initialized. Call Session::initialize() first."
  | bootstrap what => "Bootstrap failed: " ++ what
  | nullHandle => "Operation on a null handle"
  | invalidHandle id => "Invalid handle: " ++ toString id
  | invalidArgument what => "Invalid argument: " ++ what
  | interiorNul _ => "String contains an interior NUL byte"

/-- The traceback of a raised exception. -/
def traceback? : BridgeError → Option String
  | foreign _ traceback => traceback
  | _ => none

/-- The message, and below it the traceback if there is any text in it. -/
def display (error : BridgeError) : String :=
  match error.traceback? with
  | none => error.message
  | some traceback =>
    if traceback.isEmpty then error.message
    else error.message ++ "\n" ++ dropBlankEnd traceback

/-- How many bytes of a text stand before its first null character. -/
def nulPosition (text : String) : Nat :=
  (text.toUTF8.toList.takeWhile (· != 0)).length

/-- The deeper error that an error reports. -/
def cause? : BridgeError → Option String
  | interiorNul text => some ("nul byte found in provided data at position: " ++ toString (nulPosition text))
  | _ => none

/-- The structure of an error. -/
def outline (error : BridgeError) : Outline :=
  match error with
  | foreign message traceback =>
    .struct error.kind
      [("message", .ofString message), ("traceback", .ofOption (traceback.map .ofString))]
  | unsupportedConversion text | missingAttribute text | moduleNotFound text | bootstrap text
  | invalidArgument text => .tuple error.kind [.ofString text]
  | invalidHandle id => .tuple error.kind [.leaf (toString id)]
  | interiorNul text =>
    .tuple error.kind [.tuple "NulError" [.leaf (toString (nulPosition text)),
      .list (text.toUTF8.toList.map fun byte => .leaf (toString byte.toNat))]]
  | script | notInitialized | nullHandle => .leaf error.kind

end BridgeError

/-- A text as it is kept for readers that stop at a null character: each one is spelt out. -/
def spellNuls (text : String) : String :=
  String.ofList (text.toList.flatMap fun c => if c = Char.ofNat 0 then ['\\', '0'] else [c])

end ForeignBridge
