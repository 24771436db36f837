import ForeignBridge.Value.Basic
import ForeignBridge.Number.Layout
import ForeignBridge.Text.Outline

/-! # The structure of values

Values as diagnostics show them: the name of the kind around the content.
-/

namespace ForeignBridge.Value

/-- Doubles from `1e-4` up to but not including `1e16` have no exponent; a positive exponent has no
sign. -/
def diagnosticLayout : Layout where
  least := -4
  bound := 16
  plus := ""
  exponentWidth := 1
  notANumber := "NaN"
  infinite := "inf"
  tie := .up

mutual

/-- The structure of a value, given the names of the types of objects. -/
def outline (typeName : Handle → String) : Value → Outline
  | null => .leaf "Null"
  | bool b => .tuple "Bool" [.ofBool b]
  | int n => .tuple "Int" [.leaf (toString n.toInt)]
  | float x => .tuple "Float" [.leaf (diagnosticLayout.write x)]
  | text s => .tuple "Str" [.ofString s]
  | list items => .tuple "List" [.list (itemOutlines typeName items)]
  | map pairs => .tuple "Map" [.list (pairOutlines typeName pairs)]
  | record fields => .tuple "Record" [.map (fieldOutlines typeName fields)]
  | object handle => .tuple "Object" [handle.proxyOutline (typeName handle)]
  | function _ => .leaf "Function(..)"

/-- The structures of some items. -/
def itemOutlines (typeName : Handle → String) : List Value → List Outline
  | [] => []
  | item :: rest => item.outline typeName :: itemOutlines typeName rest

/-- The structures of some pairs. -/
def pairOutlines (typeName : Handle → String) : List (Value × Value) → List Outline
  | [] => []
  | (key, value) :: rest =>
    .tuple "" [key.outline typeName, value.outline typeName] :: pairOutlines typeName rest

/-- The structures of some fields under their quoted names. -/
def fieldOutlines (typeName : Handle → String) : List (String × Value) → List (String × Outline)
  | [] => []
  | (name, value) :: rest =>
    (Quoted.quote name, value.outline typeName) :: fieldOutlines typeName rest

end

end ForeignBridge.Value
