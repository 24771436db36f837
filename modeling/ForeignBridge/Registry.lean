import ForeignBridge.Handle

/-! # Registry

A registry hands out integers for objects. The integers are 1, 2, 3, … in order, and none is handed
out twice; zero is never handed out, so that it can stand for nothing.
-/

namespace ForeignBridge

/-- The objects that have been given an integer and not been taken back, the newest first. -/
structure Registry where
  entries : List (Int × Handle)
  /-- The integer that is handed out next. -/
  next : Int
deriving DecidableEq, Repr, Inhabited

namespace Registry

/-- The registry that has handed out nothing. -/
def empty : Registry := ⟨[], 1⟩

/-- The last integer of a machine word. No object gets it, since there has to be one after it. -/
def lastId : Int := 9223372036854775807

/-- Whether there is no integer left to hand out. -/
def isFull (registry : Registry) : Bool := registry.next == lastId

/-- The registry with one more object. -/
def insert (handle : Handle) (registry : Registry) : Registry :=
  ⟨(registry.next, handle) :: registry.entries, registry.next + 1⟩

/-- The object of an integer. -/
def get? (id : Int) (registry : Registry) : Option Handle := registry.entries.lookup id

/-- The registry without an integer. -/
def erase (id : Int) (registry : Registry) : Registry :=
  { registry with entries := registry.entries.filter fun entry => entry.1 != id }

/-- How many objects there are. -/
def size (registry : Registry) : Nat := registry.entries.length

/-- The objects, once for each integer. -/
def handles (registry : Registry) : List Handle := registry.entries.map (·.2)

end Registry

end ForeignBridge
