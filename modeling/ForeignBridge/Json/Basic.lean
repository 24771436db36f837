import ForeignBridge.Fields
import ForeignBridge.Number.Double
import ForeignBridge.Number.Layout

/-! # JSON documents

The members of an object are kept sorted by name, so two documents with the same members are the
same document. A number is an integer or a finite double.
-/

namespace ForeignBridge

/-- A JSON document. -/
inductive Json where
  | null
  | bool (value : Bool)
  | integer (value : Int)
  | float (value : Double)
  | string (value : String)
  | array (items : List Json)
  | object (members : List (String × Json))
deriving Repr, Inhabited

end ForeignBridge

namespace ForeignBridge.Json

/-- The integer of 64 bits that a number is. -/
def int64? : Json → Option Int64
  | integer n => if FitsInt64 n then some (Int64.ofInt n) else none
  | _ => none

/-- The double of a number, to which an integer is rounded. -/
def double? : Json → Option Double
  | integer n => some (.ofInt n)
  | float x => some x
  | _ => none

end ForeignBridge.Json

/-! ## Writing JSON

The compact text of a document: no blanks, members in the order of their names, and only the
characters escaped that must be.
-/

namespace ForeignBridge.Json

/-- Doubles from `1e-5` up to but not including `1e16` have no exponent; an exponent has its sign. -/
def numberLayout : Layout where
  least := -5
  bound := 16
  plus := "+"
  exponentWidth := 1
  notANumber := "null"
  infinite := "null"
  tie := .even

/-- A hexadecimal digit. -/
def hexDigit (n : Nat) : Char := (Nat.toDigits 16 n).headD '0'

/-- A character as it stands in a string. -/
def escape (c : Char) : List Char :=
  if c = '"' then ['\\', '"']
  else if c = '\\' then ['\\', '\\']
  else if c = '\x08' then ['\\', 'b']
  else if c = '\t' then ['\\', 't']
  else if c = '\n' then ['\\', 'n']
  else if c = '\x0c' then ['\\', 'f']
  else if c = '\r' then ['\\', 'r']
  else if c.toNat < 0x20 then
    ['\\', 'u', '0', '0', hexDigit (c.toNat / 16), hexDigit (c.toNat % 16)]
  else [c]

/-- A string in quotes. -/
def quote (text : String) : String :=
  "\"" ++ String.ofList (text.toList.flatMap escape) ++ "\""

mutual

/-- The compact text of a document. -/
def write : Json → String
  | null => "null"
  | bool true => "true"
  | bool false => "false"
  | integer n => toString n
  | float x => numberLayout.write x
  | string text => quote text
  | array items => "[" ++ String.intercalate "," (writeItems items) ++ "]"
  | object members => "\x7b" ++ String.intercalate "," (writeMembers members) ++ "\x7d"

/-- The texts of the items of an array. -/
def writeItems : List Json → List String
  | [] => []
  | item :: rest => write item :: writeItems rest

/-- The texts of the members of an object. -/
def writeMembers : List (String × Json) → List String
  | [] => []
  | (name, value) :: rest => (quote name ++ ":" ++ write value) :: writeMembers rest

end

end ForeignBridge.Json
