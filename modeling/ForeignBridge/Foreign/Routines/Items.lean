import ForeignBridge.Foreign.Operations.Iterate
import ForeignBridge.Foreign.Routines.Slices

/-! # Items of sequences

Lists and tuples are walked over item by item. An item may run code that changes the list, so the
items behind one that may do so are looked at anew.
-/

namespace ForeignBridge.Foreign.Run

/-- The result of a routine that has none. -/
def nothing : Run Handle := return Fixed.none

/-- Whether an object compares without running code. -/
def isScalar (handle : Handle) : Run Bool := do return (Scalar.ofCell? (← cell handle)).isSome

/-- The items of a sequence behind a place, at which an item stood that was looked at. -/
def itemsBehind (sequence item : Handle) (place : Nat) (rest : List Handle) : Run (List Handle) := do
  if ← isScalar item then return rest else return (← itemsOf sequence).drop (place + 1)

/-- What comes of the items of a sequence, one after another, up to a number of them. -/
def visitFrom {α : Type} (sequence : Handle) (act : Handle → Run α) :
    Nat → Nat → List α → List Handle → Run (List α)
  | 0, _, made, _ => return made.reverse
  | _, _, made, [] => return made.reverse
  | fuel + 1, place, made, item :: rest => do
    let result ← act item
    visitFrom sequence act fuel (place + 1) (result :: made) (← itemsBehind sequence item place rest)

/-- What comes of the items of a sequence, one after another. -/
def visit {α : Type} (sequence : Handle) (act : Handle → Run α) : Run (List α) := do
  visitFrom sequence act walkBound 0 [] (← itemsOf sequence)

/-- The texts of the items of a sequence with commas between them. -/
def itemTexts (invoke : Invoke) (sequence : Handle) : Run CodePoints := do
  return CodePoints.join (.ofString ", ") (← visit sequence (reprText invoke))

/-- The texts of some objects with commas between them. -/
def listTexts (invoke : Invoke) (items : List Handle) : Run CodePoints := do
  return CodePoints.join (.ofString ", ") (← items.mapM (reprText invoke))

/-- A text between two others. -/
def enclosed (front : String) (text : CodePoints) (back : String) : CodePoints :=
  (CodePoints.ofString front).append (text.append (.ofString back))

/-- The first place of an object among the items of a sequence from a place on, up to a number of
them. -/
def findFrom (invoke : Invoke) (sequence wanted : Handle) :
    Nat → Nat → List Handle → Run (Option Nat)
  | 0, _, _ => return none
  | _, _, [] => return none
  | fuel + 1, place, item :: rest => do
    if ← isSame invoke item wanted then return some place
    else findFrom invoke sequence wanted fuel (place + 1) (← itemsBehind sequence item place rest)

/-- The first place of an object in a sequence. -/
def findItem? (invoke : Invoke) (sequence wanted : Handle) : Run (Option Nat) := do
  findFrom invoke sequence wanted walkBound 0 (← itemsOf sequence)

/-- The first place of an object in a sequence between two optional bounds. -/
def findBetween? (invoke : Invoke) (sequence wanted start stop : Handle) : Run (Option Nat) := do
  let length : Int := (← itemsOf sequence).length
  let bound (given : Handle) (usual : Int) : Run Nat := do
    if given.isNull then return usual.toNat
    else if ← isIndex given then
      let n ← asClamped invoke given
      return (if n < 0 then n + length else n).toNat
    else fail .typeError "slice indices must be integers or have an __index__ method"
  let start ← bound start 0
  let stop ← bound stop (twoTo 63 - 1)
  findFrom invoke sequence wanted (stop - start) start ((← itemsOf sequence).drop start)

/-- How often an object stands in a sequence. -/
def countItem (invoke : Invoke) (sequence wanted : Handle) : Run Nat := do
  return (← visit sequence fun item => isSame invoke item wanted).count true

/-- The items of two sequences at the first place at which they differ, from a place on. -/
def firstDifference (invoke : Invoke) (a b : Handle) :
    Nat → Nat → List Handle → List Handle → Run (Option (Handle × Handle))
  | fuel + 1, place, x :: xs, y :: ys => do
    if ← isSame invoke x y then
      let live := (!(← isScalar x)) || !(← isScalar y)
      let xs ← if live then pure ((← itemsOf a).drop (place + 1)) else pure xs
      let ys ← if live then pure ((← itemsOf b).drop (place + 1)) else pure ys
      firstDifference invoke a b fuel (place + 1) xs ys
    else return some (x, y)
  | _, _, _, _ => return none

/-- The answer of a comparison of two lists or two tuples: the first items that differ decide, and
then the lengths. -/
def compareSequences (invoke : Invoke) (comparison : Comparison) (a b : Handle) : Run Handle := do
  let xs ← itemsOf a
  let ys ← itemsOf b
  let byLength := (← layoutOf a) == .list && xs.length != ys.length
  if byLength && comparison == .equal then return Fixed.false
  if byLength && comparison == .notEqual then return Fixed.true
  match ← firstDifference invoke a b walkBound 0 xs ys with
  | none =>
    let order := Ord.compare (← itemsOf a).length (← itemsOf b).length
    return truth (satisfies comparison (some order))
  | some (x, y) =>
    match comparison with
    | .equal => return Fixed.false
    | .notEqual => return Fixed.true
    | _ => compare invoke comparison x y

/-- Goes over what an iterator hands out, up to a number of objects, until a test holds. The answer
says whether it did. -/
def anyHanded (invoke : Invoke) (iterator : Handle) (test : Handle → Run Bool) : Nat → Run Bool
  | 0 => return false
  | fuel + 1 => do
    match ← next? invoke iterator with
    | none => return false
    | some item => if ← test item then return true else anyHanded invoke iterator test fuel

/-- Whether a test holds of any object that an object yields. -/
def anyYielded (invoke : Invoke) (source : Handle) (test : Handle → Run Bool) : Run Bool := do
  anyHanded invoke (← iterOf invoke source) test walkBound

/-- Does something with each object that an object yields. -/
def forEach (invoke : Invoke) (source : Handle) (act : Handle → Run Unit) : Run Unit := do
  let _ ← anyYielded invoke source fun item => do
    act item
    return false
  return

/-- The objects that an iterator still hands out, up to a number of them, and what stops it early, if
anything. -/
def drainOutcome (invoke : Invoke) (iterator : Handle) :
    Nat → List Handle → Run (List Handle × Option Thrown)
  | 0, found => return (found.reverse, none)
  | fuel + 1, found => do
    match ← outcome (next? invoke iterator) with
    | .error thrown => return (found.reverse, some thrown)
    | .ok none => return (found.reverse, none)
    | .ok (some item) => drainOutcome invoke iterator fuel (item :: found)

/-- The items of a list or a tuple, or those that another object yields; what cannot be walked over
is a fault in words of its own. -/
def fastItems (invoke : Invoke) (words : String) (source : Handle) : Run (List Handle) := do
  match Core.ofHandle? (← cell source).type, ← body source with
  | some _, .list items | some _, .tuple items => return items
  | _, _ =>
    match ← unlessRaised .typeError (iterOf invoke source) with
    | none => fail .typeError words
    | some iterator =>
      askSize invoke iterator
      drain invoke iterator

/-- Raises what has stopped something, if anything has. -/
def throwIfStopped (stopped : Option Thrown) : Run Unit :=
  match stopped with
  | some thrown => throw thrown
  | none => return

end ForeignBridge.Foreign.Run
