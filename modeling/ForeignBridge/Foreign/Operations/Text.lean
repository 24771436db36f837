import ForeignBridge.Foreign.Operations.Compare

/-! # Texts of objects

Every object has a text for programmers and one for readers, which its class composes.
-/

namespace ForeignBridge.Foreign.Run

/-- The text of an integer. The number of digits that an integer may have for that is limited. -/
def intText (n : Int) : Run CodePoints :=
  if tenTo 4300 ≤ n.natAbs then
    fail .valueError ("Exceeds the limit (4300 digits) for integer string conversion; " ++
      "use sys.set_int_max_str_digits() to increase the limit")
  else return .ofString (toString n)

/-- The address of an object as texts show it. Addresses are not told apart. -/
def shownAddress : String := "0x7f0000000000"

/-- A text object that an operation answered; anything else is a fault. -/
def textAnswer (what : String) (answer : Handle) : Run Handle := do
  match ← body answer with
  | .text _ => return answer
  | _ =>
    fail .typeError (what ++ " returned non-string (type " ++ (← typeName answer) ++ ")")

/-- The text of an object for programmers, as a text object. -/
def reprOf (invoke : Invoke) (handle : Handle) : Run Handle := do
  match ← typeAttribute handle "__repr__" with
  | none => newString "<object>"
  | some entry => textAnswer "__repr__" (← callEntry invoke entry handle [])

/-- The text of an object for readers, as a text object. -/
def strOf (invoke : Invoke) (handle : Handle) : Run Handle := do
  if (← core? handle) = some .str then return handle
  else
    match ← typeAttribute handle "__str__" with
    | none => reprOf invoke handle
    | some entry => textAnswer "__str__" (← callEntry invoke entry handle [])

/-- The code points of a text object. -/
def codePoints (handle : Handle) : Run CodePoints := do return (← text? handle).getD ⟨[]⟩

/-- The code points of the text of an object for programmers. -/
def reprText (invoke : Invoke) (handle : Handle) : Run CodePoints := do
  codePoints (← reprOf invoke handle)

/-- The code points of the text of an object for readers. -/
def strText (invoke : Invoke) (handle : Handle) : Run CodePoints := do
  codePoints (← strOf invoke handle)

/-- Raises an exception with the text of an object for programmers between two others. -/
def failAbout {α : Type} (invoke : Invoke) (core : Core) (front : String) (handle : Handle)
    (back : String) : Run α := do
  failText core ((CodePoints.ofString front).append
    ((← reprText invoke handle).append (.ofString back)))

end ForeignBridge.Foreign.Run
