import ForeignBridge.Foreign.Operations.Operate

/-! # Labels and formats

What a function is called in a fault, and the text of an object in a format.
-/

namespace ForeignBridge.Foreign

namespace CodePoints

/-- A text in quotes in which every character beyond ASCII is spelt by number. -/
def plainQuoted (text : CodePoints) : CodePoints :=
  ⟨text.quoted.codes.flatMap fun code => if code < 0x80 then [code] else numbered code⟩

/-- A text in which every character beyond ASCII is spelt by number. -/
def plain (text : CodePoints) : CodePoints :=
  ⟨text.codes.flatMap fun code => if code < 0x80 then [code] else numbered code⟩

end CodePoints

namespace Run

/-- What a function is called in a fault. -/
def functionLabel (invoke : Invoke) (handle : Handle) : Run CodePoints := do
  match ← getAttribute? invoke handle "__qualname__" with
  | none => strText invoke handle
  | some title =>
    let title ← strText invoke title
    let front ← match ← getAttribute? invoke handle "__module__" with
      | none => pure (CodePoints.mk [])
      | some module =>
        if module = Fixed.none then pure (CodePoints.mk [])
        else
          let text ← strText invoke module
          if text = .ofString "builtins" then pure (CodePoints.mk [])
          else pure (text.append (.ofString "."))
    return front.append (title.append (.ofString "()"))

/-- Raises a fault that begins with what a function is called. -/
def failCalled {α : Type} (invoke : Invoke) (handle : Handle) (message : String) : Run α := do
  failText .typeError ((← functionLabel invoke handle).append (.ofString message))

/-- The text of an object in a format. -/
def formatOf (invoke : Invoke) (handle : Handle) (format : CodePoints) : Run Handle := do
  if format.codes.isEmpty && (← core? handle) == some .str then return handle
  else
    match ← callSpecial? invoke handle "__format__" [← newText format] with
    | none =>
      fail .typeError ("Type " ++ (← typeName handle) ++ " doesn't define __format__")
    | some answer =>
      match ← body answer with
      | .text _ => return answer
      | _ =>
        fail .typeError ("__format__ must return a str, not " ++ (← typeName answer))

/-- A text object of a text, or the one it is already if it is plain. -/
def asPlainText (handle : Handle) : Run Handle := do
  if (← core? handle) = some .str then return handle else newText (← codePoints handle)

/-- The text of an object for programmers in ASCII alone. -/
def asciiOf (invoke : Invoke) (handle : Handle) : Run Handle := do
  let found ← reprOf invoke handle
  let text ← codePoints found
  if text.codes.all (· < 0x80) then return found else newText text.plain

end Run

end ForeignBridge.Foreign
