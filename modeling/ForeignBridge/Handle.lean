import ForeignBridge.Text.Outline

/-! # Handles

A handle is the address of an object in the interpreter. Address zero is no object.
-/

namespace ForeignBridge

/-- The address of an object. -/
structure Handle where
  address : Nat
deriving DecidableEq, Repr, Inhabited, Hashable

namespace Handle

/-- The handle of no object. -/
def null : Handle := ⟨0⟩

/-- Whether there is no object. -/
def isNull (handle : Handle) : Bool := handle.address == 0

/-- An address as it is shown; only the null address is told apart. -/
def shown (handle : Handle) : String := if handle.isNull then "0x0" else "0x?"

/-- The structure of a borrowed handle. -/
def outline (handle : Handle) : Outline := .leaf ("Handle(" ++ handle.shown ++ ")")

/-- The structure of a counted reference. -/
def ownedOutline (handle : Handle) : Outline := .leaf ("Owned(" ++ handle.shown ++ ")")

/-- The structure of a reference together with the name of its type. -/
def proxyOutline (handle : Handle) (typeName : String) : Outline :=
  .struct "Proxy" [("handle", handle.outline), ("type", .ofString typeName)]

end Handle

end ForeignBridge
