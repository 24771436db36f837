import ForeignBridge.Foreign.Routines.Integers

/-! # Indices and slices

An index counts from the start, or from the end if it is negative. A slice stands for places at equal
steps; bounds that lie outside count as the nearest ones inside.
-/

namespace ForeignBridge.Foreign

/-- Places at equal steps. -/
structure Span where
  start : Int
  step : Int
  count : Nat
deriving Repr, Inhabited

namespace Span

/-- The places of a span in order. -/
def places (span : Span) : List Nat :=
  (List.range span.count).map fun (i : Nat) => (span.start + i * span.step).toNat

/-- Whether a span is all of a sequence in its order. -/
def isWhole (span : Span) (length : Nat) : Bool :=
  span.start == 0 && span.step == 1 && span.count == length

/-- A bound within a sequence of some length. -/
def within (length : Int) (step bound : Int) : Int :=
  let bound := if bound < 0 then bound + length else bound
  if step < 0 then max (-1) (min bound (length - 1)) else max 0 (min bound length)

/-- The span of two bounds and a step in a sequence of some length; a bound may be missing. -/
def ofBounds (length : Nat) (start stop : Option Int) (step : Int) : Int × Int × Span :=
  let length : Int := length
  let first := match start with
    | some start => within length step start
    | none => if step < 0 then length - 1 else 0
  let last := match stop with
    | some stop => within length step stop
    | none => if step < 0 then -1 else length
  let count :=
    if step < 0 then (if last < first then ((first - last - 1) / (-step) + 1).toNat else 0)
    else if first < last then ((last - first - 1) / step + 1).toNat
    else 0
  (first, last, ⟨first, step, count⟩)

end Span

/-- What an index stands for. -/
inductive Spot where
  | place (place : Nat)
  | span (span : Span)

/-- The items of a list at some places. -/
def itemsAt {α : Type} (items : List α) (places : List Nat) : List α :=
  let items := items.toArray
  places.filterMap fun place => items[place]?

/-- The items of a list in a span. -/
def itemsIn {α : Type} (items : List α) (span : Span) : List α :=
  if span.step = 1 then (items.drop span.start.toNat).take span.count
  else itemsAt items span.places

namespace Run

/-- The integer of a bound of a slice; there may be none. -/
def sliceBound? (invoke : Invoke) (bound : Handle) : Run (Option Int) := do
  if bound.isNull ∨ bound = Fixed.none then return none
  match ← givenIndex? invoke bound with
  | some n => return some n
  | none =>
    fail .typeError "slice indices must be integers or None or have an __index__ method"

/-- The span of a slice in a sequence of some length. -/
def spanOf (invoke : Invoke) (start stop step : Handle) (length : Nat) : Run (Int × Int × Span) := do
  let step := (← sliceBound? invoke step).getD 1
  if step = 0 then fail .valueError "slice step cannot be zero"
  let start ← sliceBound? invoke start
  let stop ← sliceBound? invoke stop
  return Span.ofBounds length start stop step

/-- The place of an index in a sequence, if it is in there. -/
def placeOf? (invoke : Invoke) (index : Handle) (length : Nat) : Run (Option Nat) := do
  let n ← asWord invoke .indexError index
  let place := if n < 0 then n + length else n
  return if 0 ≤ place ∧ place < length then some place.toNat else none

/-- What an index stands for in a sequence, given the faults of one that is no index and of one that
lies outside. -/
def spotOf (invoke : Invoke) (index : Handle) (length : Nat) (notIndex : String → String)
    (outside : String) : Run Spot := do
  if ← isIndex index then
    match ← placeOf? invoke index length with
    | some place => return .place place
    | none => fail .indexError outside
  else
    match ← body index with
    | .slice start stop step => return .span (← spanOf invoke start stop step length).2.2
    | _ => fail .typeError (notIndex (← typeName index))

/-- How often a sequence of some length is repeated, as an object says. -/
def repetitions (invoke : Invoke) (length : Nat) (times : Handle) : Run Nat := do
  let n ← asWord invoke .overflowError times
  if (twoTo 63 : Int) ≤ length * n ∨ (twoTo 36 : Int) ≤ length * n then failMemory
  return n.toNat

/-- A list repeated. -/
def repeated {α : Type} (items : List α) (times : Nat) : List α :=
  (List.replicate times items).flatten

/-- The part of a sequence that two optional bounds leave: where it begins, the part, and whether
the bounds are in order. -/
def window {α : Type} (invoke : Invoke) (items : List α) (start stop : Handle) :
    Run (Nat × List α × Bool) := do
  let length : Int := items.length
  let start := (← sliceBound? invoke start).getD 0
  let stop := (← sliceBound? invoke stop).getD length
  let first := if start < 0 then max 0 (start + length) else start
  let last := if stop < 0 then max 0 (stop + length) else min stop length
  return (first.toNat, (items.drop first.toNat).take (last - first).toNat, decide (first ≤ last))

/-- The numbers of a slice for a sequence of some length. -/
def sliceIndices (invoke : Invoke) (start stop step length : Handle) : Run Handle := do
  let length ← asIndex invoke length
  if length < 0 then fail .valueError "length should not be negative"
  let step := (← sliceBound? invoke step).getD 1
  if step = 0 then fail .valueError "slice step cannot be zero"
  let (first, last, _) := Span.ofBounds length.toNat (← sliceBound? invoke start)
    (← sliceBound? invoke stop) step
  newTuple [← newInt first, ← newInt last, ← newInt step]

/-- The routines of slices. -/
def sliceRoutine (invoke : Invoke) (name : String) (self : Handle) (arguments : Arguments) :
    Run Handle := do
  let (start, stop, step) := match ← body self with
    | .slice start stop step => (start, stop, step)
    | _ => (Fixed.none, Fixed.none, Fixed.none)
  match name with
  | "__new__" =>
    refuseKeywords "slice" arguments
    checkBetween "slice" 1 3 arguments
    match arguments.positional with
    | [stop] => newOf .slice (.slice Fixed.none stop Fixed.none)
    | [start, stop] => newOf .slice (.slice start stop Fixed.none)
    | _ => newOf .slice (.slice arguments.first arguments.second arguments.third)
  | "__repr__" =>
    let parts ← [start, stop, step].mapM (reprText invoke)
    newText ((CodePoints.ofString "slice(").append
      ((CodePoints.join (.ofString ", ") parts).append (.ofString ")")))
  | "start" => return start
  | "stop" => return stop
  | "step" => return step
  | "indices" => sliceIndices invoke start stop step arguments.first
  | "__reduce__" =>
    newTuple [Core.slice.handle, ← newTuple [start, stop, step]]
  | _ =>
    match slotComparison? name, ← body arguments.first with
    | some comparison, .slice a b c =>
      if self = arguments.first then
        return match comparison with
          | .equal | .lessEqual | .greaterEqual => Fixed.true
          | _ => Fixed.false
      else
        let left ← newTuple [start, stop, step]
        compareObjects invoke comparison left (← newTuple [a, b, c])
    | _, _ => return Fixed.notImplemented

end Run

end ForeignBridge.Foreign
