import ForeignBridge.Foreign.Operations.Keys
import ForeignBridge.Foreign.Operations.Text

/-! # Iteration

An object is walked over through an iterator, which hands out one object after another. The
interpreter's own iterators look at what they walk over each time, so that they see changes of it.
-/

namespace ForeignBridge.Foreign.Run

/-- How many objects one walk may come to. -/
def walkBound : Nat := 100000000

/-- A new iterator. -/
def newIterator (core : Core) (state : Iteration) : Run Handle := newOf core (.iterator state)

/-- The iterator class for the numbers of a range: there is one for small numbers. -/
def rangeIteratorClass (start stop step : Int) : Core :=
  let small (n : Int) : Bool := decide (-(twoTo 63 : Int) ≤ n ∧ n < twoTo 63)
  if small start && small stop && small step then .rangeIterator else .longRangeIterator

/-- The iterator class for a part of a dictionary. -/
def entryIteratorClass : ViewKind → Bool → Core
  | .keys, false => .dictKeyIterator
  | .values, false => .dictValueIterator
  | .items, false => .dictItemIterator
  | .keys, true => .dictReverseKeyIterator
  | .values, true => .dictReverseValueIterator
  | .items, true => .dictReverseItemIterator

/-- A new iterator over a part of a dictionary. -/
def entryIterator (kind : ViewKind) (back : Bool) (dict : Handle) : Run Handle := do
  let content ← dictionary dict
  let size := content.entries.length
  newIterator (entryIteratorClass kind back)
    (.entries kind back dict size (if back then content.next else 0) size)

/-- The iterator that the interpreter's own classes give for an object. -/
def builtInIterator? (handle : Handle) : Run (Option Handle) := do
  match ← body handle with
  | .list _ => some <$> newIterator .listIterator (.items handle 0)
  | .tuple _ => some <$> newIterator .tupleIterator (.items handle 0)
  | .text text =>
    some <$> newIterator (if text.codes.all (· < 128) then .asciiIterator else .textIterator)
      (.items handle 0)
  | .bytes _ =>
    let core := if (← layoutOf handle) = .byteArray then Core.byteArrayIterator else .bytesIterator
    some <$> newIterator core (.items handle 0)
  | .dict _ => some <$> entryIterator .keys false handle
  | .view kind dict => some <$> entryIterator kind false dict
  | .set members => some <$> newIterator .setIterator (.members handle members.size 0)
  | .range start stop step =>
    some <$> newIterator (rangeIteratorClass start stop step)
      (.numbers start step (rangeCount start stop step))
  | .iterator _ | .generator _ => return some handle
  | _ => return none

/-- Whether an object has items under indices. -/
def isSequence (handle : Handle) : Run Bool := do
  match ← body handle with
  | .dict _ | .proxy _ | .applied .. | .union _ => return false
  | _ => return (← typeAttribute handle "__getitem__").isSome

/-- Whether an object can be walked over at all. -/
def isIterable (handle : Handle) : Run Bool := do
  match ← typeAttribute handle "__iter__" with
  | some _ => return true
  | none => isSequence handle

/-- The fault of walking over an object that cannot be. -/
def notIterable {α : Type} (handle : Handle) : Run α := do
  fail .typeError ("'" ++ (← typeName handle) ++ "' object is not iterable")

/-- An iterator over an object. -/
def iterOf (invoke : Invoke) (handle : Handle) : Run Handle := do
  match ← typeAttribute handle "__iter__" with
  | some entry =>
    if entry = Fixed.none then notIterable handle
    else
      let made ← callEntry invoke entry handle []
      if (← typeAttribute made "__next__").isSome then return made
      else
        fail .typeError ("iter() returned non-iterator of type '" ++ (← typeName made) ++ "'")
  | none =>
    if ← isSequence handle then newIterator .sequenceIterator (.indexed handle 0)
    else notIterable handle

/-- Sets how far an iterator has come. -/
def setIteration (iterator : Handle) (state : Iteration) : Run Unit :=
  setBody iterator (.iterator state)

/-- An iterator that has nothing more to hand out. -/
def finish (iterator : Handle) : Run (Option Handle) := do
  setIteration iterator .done
  return none

/-- The item of a sequence at an index. -/
def itemAt? (sequence : Handle) (index : Nat) : Run (Option Handle) := do
  match ← body sequence with
  | .list items | .tuple items => return items[index]?
  | .text text => text.codes[index]?.mapM fun code => newText ⟨[code]⟩
  | .bytes bytes => bytes[index]?.mapM fun (byte : Nat) => newInt byte
  | _ => return none

/-- What an object has under an index; `none` if there is nothing. -/
def indexed? (invoke : Invoke) (object : Handle) (index : Nat) : Run (Option Handle) := do
  let item : Run (Option Handle) := do
    match ← callSpecial? invoke object "__getitem__" [← newInt index] with
    | some found => return some found
    | none => fail .typeError ("'" ++ (← typeName object) ++ "' object does not support indexing")
  tryCatch item fun thrown => do
    if (← isA thrown.exception .indexError) || (← isA thrown.exception .stopIteration) then
      return none
    else throw thrown

/-- A part of an entry of a dictionary. -/
def entryPart (kind : ViewKind) (entry : Entry) : Run Handle :=
  match kind with
  | .keys => return entry.key
  | .values => return entry.value
  | .items => newTuple [entry.key, entry.value]

/-- A size that no container has, for walks that have failed. -/
def spoiled : Nat := twoTo 64

/-- The next entry of a dictionary. -/
def nextEntry (iterator : Handle) (kind : ViewKind) (back : Bool) (dict : Handle)
    (size place left : Nat) : Run (Option Handle) := do
  let content ← dictionary dict
  if content.entries.length ≠ size then
    setIteration iterator (.entries kind back dict spoiled place left)
    fail .runtimeError "dictionary changed size during iteration"
  else
    let found := if back then content.entries.reverse.find? (·.place < place)
      else content.entries.find? (place ≤ ·.place)
    match found with
    | none => finish iterator
    | some entry =>
      if left = 0 ∧ !back then
        setIteration iterator .done
        fail .runtimeError "dictionary keys changed during iteration"
      else
        setIteration iterator
          (.entries kind back dict size (if back then entry.place else entry.place + 1) (left - 1))
        some <$> entryPart kind entry

/-- The next member of a set. -/
def nextMember (iterator set : Handle) (size slot : Nat) : Run (Option Handle) := do
  let members ← membersOf set
  if members.size ≠ size then
    setIteration iterator (.members set spoiled slot)
    fail .runtimeError "Set changed size during iteration"
  else
    let rest := members.slots.toList.zipIdx.drop slot
    match rest.findSome? fun (found, index) => match found with
        | .member _ key => some (key, index)
        | _ => none with
    | some (key, index) =>
      setIteration iterator (.members set size (index + 1))
      return some key
    | none => finish iterator

/-- The words for the first of some iterators. -/
def countedArguments (n : Nat) : String :=
  if n = 1 then " argument 1" else "s 1-" ++ toString n

mutual

/-- The next object of an iterator; nested iterators go down one level each. -/
def nextWithin (invoke : Invoke) : Nat → Handle → Run (Option Handle)
  | 0, _ => fail .recursionError "maximum recursion depth exceeded"
  | fuel + 1, iterator => do
    match ← body iterator with
    | .iterator state =>
      if (← core? iterator).isSome then advance invoke fuel iterator state
      else nextByMethod invoke iterator
    | _ => nextByMethod invoke iterator

/-- The next objects of several iterators; no objects if one of them has none, and then which. -/
def nextOfAll (invoke : Invoke) : Nat → List Handle → Run (Except Nat (List Handle))
  | 0, _ => return .error 0
  | _, [] => return .ok []
  | fuel + 1, iterator :: rest => do
    match ← nextWithin invoke fuel iterator with
    | none => return .error 0
    | some item =>
      match ← nextOfAll invoke fuel rest with
      | .ok items => return .ok (item :: items)
      | .error place => return .error (place + 1)

/-- The next object that passes a test. -/
def nextPassing (invoke : Invoke) (function iterator : Handle) : Nat → Run (Option Handle)
  | 0 => return none
  | fuel + 1 => do
    match ← nextWithin invoke fuel iterator with
    | none => return none
    | some item =>
      let passes ← if function = Fixed.none ∨ function = Core.bool.handle then isTrue invoke item
        else do isTrue invoke (← invoke function (.of [item]))
      if passes then return some item else nextPassing invoke function iterator fuel

/-- The next object of one of the interpreter's own iterators. -/
def advance (invoke : Invoke) : Nat → Handle → Iteration → Run (Option Handle)
  | 0, _, _ => fail .recursionError "maximum recursion depth exceeded"
  | fuel + 1, iterator, state => do
    match state with
    | .done => return none
    | .items sequence index =>
      match ← itemAt? sequence index with
      | some item =>
        setIteration iterator (.items sequence (index + 1))
        return some item
      | none => finish iterator
    | .itemsBack sequence left =>
      match left with
      | 0 => finish iterator
      | left + 1 =>
        match ← itemAt? sequence left with
        | some item =>
          setIteration iterator (.itemsBack sequence left)
          return some item
        | none => finish iterator
    | .indexed object index =>
      match ← indexed? invoke object index with
      | some item =>
        setIteration iterator (.indexed object (index + 1))
        return some item
      | none => finish iterator
    | .indexedBack object left =>
      match left with
      | 0 => finish iterator
      | left + 1 =>
        match ← indexed? invoke object left with
        | some item =>
          setIteration iterator (.indexedBack object left)
          return some item
        | none => finish iterator
    | .calls function sentinel =>
      match ← unlessRaised .stopIteration (invoke function (.of [])) with
      | none => finish iterator
      | some answer =>
        if ← isSame invoke sentinel answer then finish iterator else return some answer
    | .numbers next step left =>
      match left with
      | 0 => return none
      | left + 1 =>
        setIteration iterator (.numbers (next + step) step left)
        some <$> newInt next
    | .entries kind back dict size place left =>
      nextEntry iterator kind back dict size place left
    | .members set size slot => nextMember iterator set size slot
    | .enumerate inner count =>
      match ← nextWithin invoke fuel inner with
      | none => return none
      | some item =>
        setIteration iterator (.enumerate inner (count + 1))
        return some (← newTuple [← newInt count, item])
    | .zip iterators strict =>
      if iterators.isEmpty then return none
      match ← nextOfAll invoke fuel iterators with
      | .ok items => some <$> newTuple items
      | .error place =>
        if !strict then return none
        else if place ≠ 0 then
          fail .valueError ("zip() argument " ++ toString (place + 1) ++ " is shorter than argument" ++
            countedArguments place)
        else
          match ← firstLonger invoke fuel 1 iterators.tail with
          | some longer =>
            fail .valueError ("zip() argument " ++ toString (longer + 1) ++
              " is longer than argument" ++ countedArguments longer)
          | none => return none
    | .map function iterators =>
      match ← nextOfAll invoke fuel iterators with
      | .ok items => some <$> invoke function (.of items)
      | .error _ => return none
    | .filter function inner => nextPassing invoke function inner fuel

/-- The place of the first of some iterators that still has an object. -/
def firstLonger (invoke : Invoke) : Nat → Nat → List Handle → Run (Option Nat)
  | 0, _, _ => return none
  | _, _, [] => return none
  | fuel + 1, place, iterator :: rest => do
    match ← nextWithin invoke fuel iterator with
    | some _ => return some place
    | none => firstLonger invoke fuel (place + 1) rest

/-- The next object of an iterator of a class of its own. -/
def nextByMethod (invoke : Invoke) (iterator : Handle) : Run (Option Handle) := do
  match ← typeAttribute iterator "__next__" with
  | none => fail .typeError ("'" ++ (← typeName iterator) ++ "' object is not an iterator")
  | some entry => unlessRaised .stopIteration (callEntry invoke entry iterator [])

end

/-- The next object of an iterator. -/
def next? (invoke : Invoke) (iterator : Handle) : Run (Option Handle) :=
  nextWithin invoke walkBound iterator

/-- All objects that an iterator still hands out, up to a number of them. -/
def drainWithin (invoke : Invoke) (iterator : Handle) : Nat → List Handle → Run (List Handle)
  | 0, found => return found.reverse
  | fuel + 1, found => do
    match ← next? invoke iterator with
    | none => return found.reverse
    | some item => drainWithin invoke iterator fuel (item :: found)

/-- All objects that an iterator still hands out. -/
def drain (invoke : Invoke) (iterator : Handle) : Run (List Handle) :=
  drainWithin invoke iterator walkBound []

/-- The objects that an object of one of the interpreter's plain classes holds, if it is one. -/
def plainItems? (handle : Handle) : Run (Option (List Handle)) := do
  let content ← cell handle
  match Core.ofHandle? content.type, content.body with
  | some _, .list items | some _, .tuple items => return some items
  | some _, .dict content => return some (content.entries.map (·.key))
  | some _, .set members => return some members.keys
  | _, _ => return none

/-- The objects that an object yields when it is walked over. -/
def iterate (invoke : Invoke) (handle : Handle) : Run (List Handle) := do
  match ← plainItems? handle with
  | some items => return items
  | none => drain invoke (← iterOf invoke handle)

/-- Asks an object for its size before it is walked over; that it has none is no fault. -/
def askSize (invoke : Invoke) (handle : Handle) : Run Unit := do
  if (← core? handle).isSome then return
  let ask (name : String) : Run (Option Handle) := do
    return (← unlessRaised .typeError (callSpecial? invoke handle name [])).join
  match ← ask "__len__" with
  | some _ => return
  | none =>
    let _ ← ask "__length_hint__"
    return

/-- The objects that an object yields, for a new container of them. -/
def gather (invoke : Invoke) (handle : Handle) : Run (List Handle) := do
  match ← plainItems? handle with
  | some items => return items
  | none =>
    let iterator ← iterOf invoke handle
    askSize invoke handle
    drain invoke iterator

/-- Whether any of the objects that an iterator hands out is an object, up to a number of them. -/
def searchWithin (invoke : Invoke) (iterator wanted : Handle) : Nat → Run Bool
  | 0 => return false
  | fuel + 1 => do
    match ← next? invoke iterator with
    | none => return false
    | some item =>
      if ← isSame invoke item wanted then return true
      else searchWithin invoke iterator wanted fuel

/-- Whether an object is in another. -/
def contains (invoke : Invoke) (container item : Handle) : Run Bool := do
  match ← typeAttribute container "__contains__" with
  | some entry =>
    if entry = Fixed.none then
      fail .typeError ("'" ++ (← typeName container) ++ "' object is not a container")
    else isTrue invoke (← callEntry invoke entry container [item])
  | none =>
    match ← unlessRaised .typeError (iterOf invoke container) with
    | some iterator => searchWithin invoke iterator item walkBound
    | none =>
      fail .typeError ("argument of type '" ++ (← typeName container) ++ "' is not iterable")

end ForeignBridge.Foreign.Run
