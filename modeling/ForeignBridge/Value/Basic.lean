import ForeignBridge.Fields
import ForeignBridge.Handle
import ForeignBridge.Number.Double

/-! # Host values

The values that a host program exchanges with the interpreter. A map keeps its pairs in order and
may hold a key twice; a record is kept in the order of its names. Objects of the interpreter appear
by handle, and functions of the host by their identity.
-/

namespace ForeignBridge

/-- A value of the host. -/
inductive Value where
  | null
  | bool (value : Bool)
  | int (value : Int64)
  | float (value : Double)
  | text (value : String)
  | list (items : List Value)
  | map (pairs : List (Value × Value))
  | record (fields : List (String × Value))
  | object (handle : Handle)
  | function (identity : Nat)
deriving Repr, Inhabited

namespace Value

/-- A number: an integer if it is one of 64 bits, and a double otherwise. -/
def ofNumber (x : Double) : Value := if x.isInt64 then .int x.toInt64 else .float x

/-- A record of the given fields; of two fields with one name the later counts. -/
def ofFields (fields : List (String × Value)) : Value := .record (Fields.ofList fields)

def isNull : Value → Bool
  | null => true
  | _ => false

/-- The text, if the value is one. -/
def text? : Value → Option String
  | text s => some s
  | _ => none

/-- The integer, if the value is one. -/
def int? : Value → Option Int64
  | int n => some n
  | _ => none

mutual

/-- Equality of values. Values of different kinds are never equal, doubles are compared as numbers,
and objects and functions by identity. -/
def equal : Value → Value → Bool
  | null, null => true
  | bool a, bool b => a == b
  | int a, int b => a == b
  | float a, float b => a.equal b
  | text a, text b => a == b
  | list a, list b => equalItems a b
  | map a, map b => equalPairs a b
  | record a, record b => equalFields a b
  | object a, object b => a == b
  | function a, function b => a == b
  | _, _ => false

/-- Equality item by item. -/
def equalItems : List Value → List Value → Bool
  | [], [] => true
  | a :: as, b :: bs => a.equal b && equalItems as bs
  | _, _ => false

/-- Equality pair by pair, in order. -/
def equalPairs : List (Value × Value) → List (Value × Value) → Bool
  | [], [] => true
  | (key, value) :: as, (otherKey, otherValue) :: bs =>
    key.equal otherKey && value.equal otherValue && equalPairs as bs
  | _, _ => false

/-- Equality field by field. -/
def equalFields : List (String × Value) → List (String × Value) → Bool
  | [], [] => true
  | (name, value) :: as, (otherName, otherValue) :: bs =>
    name == otherName && value.equal otherValue && equalFields as bs
  | _, _ => false

end

/-- The value under a key: of the first pair of a map with an equal key, or of the field of a
record that a text names. -/
def get? : Value → Value → Option Value
  | map pairs, key => (pairs.find? fun pair => pair.1.equal key).map (·.2)
  | record fields, text name => Fields.get? name fields
  | _, _ => none

mutual

/-- The objects in a value, one for each place they stand at. -/
def objects : Value → List Handle
  | object handle => [handle]
  | list items => itemObjects items
  | map pairs => pairObjects pairs
  | record fields => fieldObjects fields
  | null | bool _ | int _ | float _ | text _ | function _ => []

/-- The objects in some items. -/
def itemObjects : List Value → List Handle
  | [] => []
  | item :: rest => item.objects ++ itemObjects rest

/-- The objects in some pairs. -/
def pairObjects : List (Value × Value) → List Handle
  | [] => []
  | (key, value) :: rest => key.objects ++ value.objects ++ pairObjects rest

/-- The objects in some fields. -/
def fieldObjects : List (String × Value) → List Handle
  | [] => []
  | (_, value) :: rest => value.objects ++ fieldObjects rest

end

end Value

end ForeignBridge

/-! ## Depth

How far down one comes in a value by its first parts.
-/

namespace ForeignBridge.Value

/-- The way down from a value: the number of steps to the first item of a list, the value of the
first pair of a map or of the first field of a record, as long as there is one, and where it ends. -/
def descend : Value → Nat × Value
  | list (item :: _) => let (depth, leaf) := item.descend; (depth + 1, leaf)
  | map ((_, value) :: _) => let (depth, leaf) := value.descend; (depth + 1, leaf)
  | record ((_, value) :: _) => let (depth, leaf) := value.descend; (depth + 1, leaf)
  | leaf => (0, leaf)

end ForeignBridge.Value
