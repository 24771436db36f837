import ForeignBridge.Error
import ForeignBridge.Json.Basic
import ForeignBridge.Value.Outline

/-! # Values and JSON documents

Every document is a value: objects become records, and numbers follow the number rule. A value is a
document unless it holds an object, a function or a double that is no real number, or a map has a
key that is not a text or a scalar.
-/

namespace ForeignBridge.Value

/-- The value of a number of a document: an integer of 64 bits if it is written as one, and otherwise
what the number rule makes of its double. Without a double it would be no number. -/
def ofJsonNumber (number : Json) : Value :=
  match number.int64? with
  | some n => .int n
  | none => ofNumber (number.double?.getD .nan)

mutual

/-- The value of a document. -/
def ofJson : Json → Value
  | .null => .null
  | .bool b => .bool b
  | .integer n => ofJsonNumber (.integer n)
  | .float x => ofJsonNumber (.float x)
  | .string s => .text s
  | .array items => .list (ofItems items)
  | .object members => .record (ofMembers members)

/-- The values of some items. -/
def ofItems : List Json → List Value
  | [] => []
  | item :: rest => ofJson item :: ofItems rest

/-- The values of some members. -/
def ofMembers : List (String × Json) → List (String × Value)
  | [] => []
  | (name, value) :: rest => (name, ofJson value) :: ofMembers rest

end

theorem ofJson_integer (n : Int) : ofJson (.integer n) =
    if FitsInt64 n then .int (Int64.ofInt n) else ofNumber (.ofInt n) := by
  by_cases fits : FitsInt64 n
  · simp only [ofJson, ofJsonNumber, Json.int64?, if_pos fits]
  · simp only [ofJson, ofJsonNumber, Json.int64?, Json.double?, if_neg fits, Option.getD_some]

theorem ofJson_float (x : Double) : ofJson (.float x) = ofNumber x := by
  simp only [ofJson, ofJsonNumber, Json.int64?, Json.double?, Option.getD_some]

/-- A value without a document. -/
def noJson (what : String) : BridgeError := .unsupportedConversion (what ++ " has no JSON form")

/-- The number of a double. -/
def doubleJson (x : Double) : Except BridgeError Json :=
  if x.isFinite then .ok (.float x) else .error (noJson (diagnosticLayout.write x))

/-- The name under which a key stands in an object: a text itself, a scalar as its document. -/
def jsonKey (typeName : Handle → String) : Value → Except BridgeError String
  | text s => .ok s
  | null => .ok (Json.write .null)
  | bool b => .ok (Json.write (.bool b))
  | int n => .ok (Json.write (.integer n.toInt))
  | float x => (doubleJson x).map Json.write
  | key => .error (.unsupportedConversion ((key.outline typeName).line ++
      " cannot be a JSON object key"))

mutual

/-- The document of a value, given the names of the types of objects. -/
def toJson (typeName : Handle → String) : Value → Except BridgeError Json
  | null => .ok .null
  | bool b => .ok (.bool b)
  | int n => .ok (.integer n.toInt)
  | float x => doubleJson x
  | text s => .ok (.string s)
  | list items => (itemsToJson typeName items).map .array
  | map pairs => (pairsToJson typeName [] pairs).map .object
  | record fields => (fieldsToJson typeName [] fields).map .object
  | object handle => .error (noJson (typeName handle ++ " object"))
  | function _ => .error (noJson "host function")

/-- The documents of some items. -/
def itemsToJson (typeName : Handle → String) : List Value → Except BridgeError (List Json)
  | [] => .ok []
  | item :: rest => do
    let item ← item.toJson typeName
    let rest ← itemsToJson typeName rest
    pure (item :: rest)

/-- The members for some pairs, added to those there are; of two pairs under one name the later
counts. -/
def pairsToJson (typeName : Handle → String) (members : List (String × Json)) :
    List (Value × Value) → Except BridgeError (List (String × Json))
  | [] => .ok members
  | (key, value) :: rest => do
    let name ← key.jsonKey typeName
    let value ← value.toJson typeName
    pairsToJson typeName (Fields.insert name value members) rest

/-- The members for some fields, added to those there are. -/
def fieldsToJson (typeName : Handle → String) (members : List (String × Json)) :
    List (String × Value) → Except BridgeError (List (String × Json))
  | [] => .ok members
  | (name, value) :: rest => do
    let value ← value.toJson typeName
    fieldsToJson typeName (Fields.insert name value members) rest

end

end ForeignBridge.Value
