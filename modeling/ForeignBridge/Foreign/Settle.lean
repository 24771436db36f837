import ForeignBridge.Foreign.Call

/-! # Settling

An object that nothing refers to any more is freed. Its class may have a finalizer, which is called
once before that; it may make something refer to the object again, and then the object stays.
-/

namespace ForeignBridge.Foreign.Machine

/-- The machine without the objects that nothing refers to, given the references from outside. -/
def reclaim (machine : Machine) (outside : List Handle) : Machine :=
  let heap := machine.heap.reclaim outside
  { machine with
    heap
    interned := machine.interned.filter fun entry => (heap.get? entry.2).isSome
    finalized := machine.finalized.filter fun handle => (heap.get? handle).isSome }

/-- The finalizer of an object, unless it has been called. -/
def finalizer? (machine : Machine) (handle : Handle) : Option Handle :=
  if machine.finalized.contains handle then none
  else
    match (Run.typeAttribute handle "__del__").on machine with
    | (.ok entry, _) => entry
    | (.error _, _) => none

/-- The objects whose finalizers are still to be called. -/
def unfinalized (machine : Machine) : List Handle :=
  (machine.heap.cells.toList.zipIdx.drop machine.heap.base).filterMap fun (cell, index) =>
    let handle : Handle := ⟨index + 1⟩
    if cell.isSome ∧ (machine.finalizer? handle).isSome then some handle else none

/-- Calls the finalizer of an object. What goes wrong in it is dropped. -/
def finalize (machine : Machine) (handle : Handle) : Machine :=
  match machine.finalizer? handle with
  | none => machine
  | some entry =>
    let machine := { machine with finalized := handle :: machine.finalized }
    ((Run.callEntry Run.call entry handle []).on machine).2

/-- Frees the objects that nothing refers to, and calls so many finalizers at most before. -/
def settleWithin (outside : List Handle) : Nat → Machine → Machine
  | 0, machine => machine.reclaim outside
  | fuel + 1, machine =>
    let waiting := machine.unfinalized
    let kept := machine.reclaim (outside ++ waiting)
    let counts := kept.heap.counts outside
    match waiting.find? fun handle => counts[handle.address - 1]?.getD 0 == 0 with
    | some handle => settleWithin outside fuel (kept.finalize handle)
    | none => machine.reclaim outside

/-- The machine once nothing is left in it that nothing refers to, given the references from
outside. -/
def settle (machine : Machine) (outside : List Handle) : Machine :=
  if machine.finalizers then settleWithin outside machine.heap.cells.size machine
  else machine.reclaim outside

end ForeignBridge.Foreign.Machine
