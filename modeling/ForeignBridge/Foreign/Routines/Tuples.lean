import ForeignBridge.Foreign.Routines.Lists

/-! # Routines of tuples and ranges

A tuple never changes, so an operation whose result would be the same tuple gives the tuple itself. A
range is known by its bounds and its step, and its numbers may be of any size.
-/

namespace ForeignBridge.Foreign

namespace Run

/-- A tuple itself if it is a plain one, or else a plain one of its items. -/
def asPlainTuple (self : Handle) : Run Handle := do
  if (← core? self) = some .tuple then return self else newTuple (← itemsOf self)

/-- The constructor of tuples. -/
def makeTuple (invoke : Invoke) (cls : Handle) (arguments : Arguments) : Run Handle := do
  refuseKeywordsFor .tuple cls arguments
  checkBetween "tuple" 0 1 arguments
  let source := arguments.first
  let made ← do
    if source.isNull then pure Fixed.emptyTuple
    else if (← core? source) = some .tuple then pure source
    else do newTuple (← gather invoke source)
  if cls = Core.tuple.handle then return made
  else newInstance cls (.tuple (← itemsOf made))

/-- The routines of tuples. -/
def tupleRoutine (invoke : Invoke) (name : String) (self : Handle) (arguments : Arguments) :
    Run Handle := do
  let first := arguments.first
  let items ← itemsOf self
  match name with
  | "__new__" => makeTuple invoke self arguments
  | "__repr__" =>
    if items.isEmpty then newString "()"
    else
      match ← writingOnce self (itemTexts invoke self) with
      | some text => newText (enclosed "(" text (if items.length = 1 then ",)" else ")"))
      | none => newString "(...)"
  | "__hash__" => newInt (← builtInHash (hashOf invoke) self)
  | "__len__" => newInt items.length
  | "__iter__" => newIterator .tupleIterator (.items self 0)
  | "__contains__" => return truth (← findItem? invoke self first).isSome
  | "__getitem__" =>
    let notIndex (type : String) := "tuple indices must be integers or slices, not " ++ type
    match ← spotOf invoke first items.length notIndex "tuple index out of range" with
    | .place place => return items[place]?.getD Fixed.none
    | .span span =>
      if span.isWhole items.length then asPlainTuple self else newTuple (itemsIn items span)
  | "__add__" =>
    match ← body first with
    | .tuple more =>
      if items.isEmpty then asPlainTuple first
      else if more.isEmpty then asPlainTuple self
      else newTuple (items ++ more)
    | _ =>
      fail .typeError
        ("can only concatenate tuple (not \"" ++ (← typeName first) ++ "\") to tuple")
  | "__mul__" | "__rmul__" =>
    let times ← repetitions invoke items.length first
    if times = 1 then asPlainTuple self else newTuple (repeated items times)
  | "__getnewargs__" => newTuple [← newTuple items]
  | "count" => newInt (← countItem invoke self first)
  | "index" =>
    match ← findBetween? invoke self first arguments.second arguments.third with
    | some place => newInt place
    | none => fail .valueError "tuple.index(x): x not in tuple"
  | "__class_getitem__" => newAlias self first
  | _ =>
    match slotComparison? name, ← body first with
    | some comparison, .tuple _ => compareSequences invoke comparison self first
    | _, _ => return Fixed.notImplemented

end Run

/-- Numbers at equal steps. -/
structure Steps where
  start : Int
  stop : Int
  step : Int
deriving Repr, Inhabited

namespace Steps

/-- How many numbers there are. -/
def count (steps : Steps) : Nat := Run.rangeCount steps.start steps.stop steps.step

/-- The number at a place, also beyond the ends. -/
def number (steps : Steps) (place : Int) : Int := steps.start + place * steps.step

/-- The place of a number. -/
def placeOf? (steps : Steps) (n : Int) : Option Int :=
  let place := (n - steps.start) / steps.step
  if steps.number place = n ∧ 0 ≤ place ∧ place < steps.count then some place else none

/-- Whether the numbers are the same. -/
def same (a b : Steps) : Bool :=
  a.count == b.count && (a.count == 0 || (a.start == b.start && (a.count == 1 || a.step == b.step)))

/-- The text of a range. -/
def text (steps : Steps) : String :=
  "range(" ++ toString steps.start ++ ", " ++ toString steps.stop ++
    (if steps.step = 1 then "" else ", " ++ toString steps.step) ++ ")"

end Steps

namespace Run

/-- The constructor of ranges. -/
def makeRange (invoke : Invoke) (arguments : Arguments) : Run Handle := do
  refuseKeywords "range" arguments
  checkBetween "range" 1 3 arguments
  let first ← asIndex invoke arguments.first
  if arguments.second.isNull then newOf .range (.range 0 first 1)
  else
    let stop ← asIndex invoke arguments.second
    let step ← if arguments.third.isNull then pure 1 else asIndex invoke arguments.third
    if step = 0 then fail .valueError "range() arg 3 must not be zero"
    newOf .range (.range first stop step)

/-- What stands in a range under an index. -/
def rangeItem (invoke : Invoke) (steps : Steps) (index : Handle) : Run Handle := do
  if ← isIndex index then
    let n ← asIndex invoke index
    let place := if n < 0 then n + steps.count else n
    if 0 ≤ place ∧ place < steps.count then newInt (steps.number place)
    else fail .indexError "range object index out of range"
  else
    match ← body index with
    | .slice start stop step =>
      let (first, last, span) ← spanOf invoke start stop step steps.count
      newOf .range (.range (steps.number first) (steps.number last) (span.step * steps.step))
    | _ =>
      fail .typeError ("range indices must be integers or slices, not " ++ (← typeName index))

/-- The integer in an object, if it is of the class of integers or of truth values itself. -/
def exactInt? (handle : Handle) : Run (Option Int) := do
  match ← core? handle with
  | some .int | some .bool => int? handle
  | _ => return none

/-- The places of an object among the numbers of a range, up to a number of them. -/
def rangePlaces (invoke : Invoke) (steps : Steps) (wanted : Handle) (all : Bool) :
    Nat → Nat → List Nat → Run (List Nat)
  | 0, _, found => return found.reverse
  | fuel + 1, place, found => do
    if ← isSame invoke (← newInt (steps.number place)) wanted then
      if all then rangePlaces invoke steps wanted all fuel (place + 1) (place :: found)
      else return [place]
    else rangePlaces invoke steps wanted all fuel (place + 1) found

/-- The routines of ranges. -/
def rangeRoutine (invoke : Invoke) (name : String) (self : Handle) (arguments : Arguments) :
    Run Handle := do
  let first := arguments.first
  let steps : Steps := match ← body self with
    | .range start stop step => ⟨start, stop, step⟩
    | _ => ⟨0, 0, 1⟩
  let count := steps.count
  match name with
  | "__new__" => makeRange invoke arguments
  | "__repr__" => newString steps.text
  | "__hash__" => newInt (← builtInHash (hashOf invoke) self)
  | "__len__" =>
    if fitsWord count then newInt count
    else fail .overflowError "Python int too large to convert to C ssize_t"
  | "__bool__" => return truth (count != 0)
  | "__iter__" =>
    newIterator (rangeIteratorClass steps.start steps.stop steps.step)
      (.numbers steps.start steps.step count)
  | "__reversed__" =>
    newIterator (rangeIteratorClass steps.start steps.stop steps.step)
      (.numbers (steps.number (count - 1)) (-steps.step) count)
  | "__getitem__" => rangeItem invoke steps first
  | "__contains__" =>
    match ← exactInt? first with
    | some n => return truth (steps.placeOf? n).isSome
    | none => return truth !(← rangePlaces invoke steps first false count 0 []).isEmpty
  | "count" =>
    match ← exactInt? first with
    | some n => newInt (if (steps.placeOf? n).isSome then 1 else 0)
    | none => newInt (← rangePlaces invoke steps first true count 0 []).length
  | "index" =>
    match ← exactInt? first with
    | some n =>
      match steps.placeOf? n with
      | some place => newInt place
      | none => failAbout invoke .valueError "" first " is not in range"
    | none =>
      match ← rangePlaces invoke steps first false count 0 [] with
      | place :: _ => newInt place
      | [] => fail .valueError "sequence.index(x): x not in sequence"
  | "start" => newInt steps.start
  | "stop" => newInt steps.stop
  | "step" => newInt steps.step
  | "__reduce__" =>
    let parts ← [steps.start, steps.stop, steps.step].mapM newInt
    newTuple [Core.range.handle, ← newTuple parts]
  | _ =>
    match slotComparison? name, ← body first with
    | some .equal, .range start stop step => return truth (steps.same ⟨start, stop, step⟩)
    | some .notEqual, .range start stop step => return truth !(steps.same ⟨start, stop, step⟩)
    | _, _ => return Fixed.notImplemented

end Run

end ForeignBridge.Foreign
