import ForeignBridge.Foreign.Routines.Doubles
import ForeignBridge.Foreign.Routines.Sorting

/-! # Routines of lists

A list changes in place. What goes wrong while items are added leaves those that came before it.
-/

namespace ForeignBridge.Foreign.Run

/-- Adds what an object yields to the end of a list. -/
def extendList (invoke : Invoke) (list source : Handle) : Run Unit := do
  let plain ← match Core.ofHandle? (← cell source).type, ← body source with
    | some _, .list items | some _, .tuple items => pure (some items)
    | _, .list items => pure (if source = list then some items else none)
    | _, _ => pure none
  match plain with
  | some more => setBody list (.list ((← itemsOf list) ++ more))
  | none =>
    let iterator ← iterOf invoke source
    askSize invoke source
    let (more, stopped) ← drainOutcome invoke iterator walkBound []
    setBody list (.list ((← itemsOf list) ++ more))
    throwIfStopped stopped

/-- Puts values into a list in place of the items between two places. -/
def replaceItems (list : Handle) (start stop : Nat) (values : List Handle) : Run Unit := do
  let items ← itemsOf list
  setBody list (.list (items.take start ++ values ++ items.drop (max start stop)))

/-- Puts values into a list at some places. -/
def putItems (list : Handle) (places : List Nat) (values : List Handle) : Run Unit := do
  let items := (← itemsOf list).toArray
  let changed := (places.zip values).foldl (fun items (place, value) =>
    items.setIfInBounds place value) items
  setBody list (.list changed.toList)

/-- Puts what an object yields into a slice of a list. -/
def setSlice (invoke : Invoke) (list start stop step value : Handle) : Run Unit := do
  let (first, last, span) ← spanOf invoke start stop step (← itemsOf list).length
  if span.step = 1 then
    let values ← fastItems invoke "can only assign an iterable" value
    replaceItems list first.toNat last.toNat values
  else
    let values ← fastItems invoke "must assign iterable to extended slice" value
    if values.length ≠ span.count then
      fail .valueError ("attempt to assign sequence of size " ++ toString values.length ++
        " to extended slice of size " ++ toString span.count)
    else putItems list span.places values

/-- Items without those at some places. -/
def without (items : List Handle) (places : List Nat) : List Handle :=
  let kept := places.foldl (fun kept place => kept.setIfInBounds place none)
    (items.map some).toArray
  kept.toList.filterMap id

/-- The fault of an index that is no index of a list. -/
def notListIndex (type : String) : String := "list indices must be integers or slices, not " ++ type

/-- The fault of a place that is not in a list, for changes of it. -/
def outsideList : String := "list assignment index out of range"

/-- Changes what stands in a list under an index. -/
def setListItem (invoke : Invoke) (list index value : Handle) : Run Unit := do
  match ← body index with
  | .slice start stop step => setSlice invoke list start stop step value
  | _ =>
    match ← spotOf invoke index (← itemsOf list).length notListIndex outsideList with
    | .place place => putItems list [place] [value]
    | .span _ => return

/-- Takes what stands in a list under an index out of it. -/
def deleteListItem (invoke : Invoke) (list index : Handle) : Run Unit := do
  match ← spotOf invoke index (← itemsOf list).length notListIndex outsideList with
  | .place place => setBody list (.list ((← itemsOf list).eraseIdx place))
  | .span span => setBody list (.list (without (← itemsOf list) span.places))

/-- Takes an item out of a list, the last one unless a place is given. -/
def popItem (invoke : Invoke) (list index : Handle) : Run Handle := do
  let index ← if index.isNull then pure (-1) else asSize invoke index
  let items ← itemsOf list
  if items.isEmpty then fail .indexError "pop from empty list"
  let place := if index < 0 then index + items.length else index
  if place < 0 then fail .indexError "pop index out of range"
  match items[place.toNat]? with
  | none => fail .indexError "pop index out of range"
  | some item =>
    setBody list (.list (items.eraseIdx place.toNat))
    return item

/-- Puts an item into a list in front of a place. -/
def insertItem (invoke : Invoke) (list index item : Handle) : Run Unit := do
  let index ← asSize invoke index
  let items ← itemsOf list
  let place := (if index < 0 then index + items.length else index).toNat
  setBody list (.list (items.take place ++ item :: items.drop place))

/-- The routines of lists. -/
def listRoutine (invoke : Invoke) (name : String) (self : Handle) (arguments : Arguments) :
    Run Handle := do
  let first := arguments.first
  let items ← itemsOf self
  match name with
  | "__new__" => newInstance self (.list [])
  | "__init__" =>
    refuseKeywordsMade .list self arguments
    checkBetween "list" 0 1 arguments
    setBody self (.list [])
    unless first.isNull do extendList invoke self first
    nothing
  | "__repr__" =>
    if items.isEmpty then newString "[]"
    else
      match ← writingOnce self (itemTexts invoke self) with
      | some text => newText (enclosed "[" text "]")
      | none => newString "[...]"
  | "__len__" => newInt items.length
  | "__iter__" => newIterator .listIterator (.items self 0)
  | "__reversed__" => newIterator .listReverseIterator (.itemsBack self items.length)
  | "__contains__" => return truth (← findItem? invoke self first).isSome
  | "__getitem__" =>
    match ← spotOf invoke first items.length notListIndex "list index out of range" with
    | .place place => return items[place]?.getD Fixed.none
    | .span span => newList (itemsIn items span)
  | "__setitem__" =>
    setListItem invoke self first arguments.second
    nothing
  | "__delitem__" =>
    deleteListItem invoke self first
    nothing
  | "__add__" =>
    match ← body first with
    | .list more => newList (items ++ more)
    | _ =>
      fail .typeError ("can only concatenate list (not \"" ++ (← typeName first) ++ "\") to list")
  | "__iadd__" =>
    extendList invoke self first
    return self
  | "__mul__" | "__rmul__" =>
    newList (repeated items (← repetitions invoke items.length first))
  | "__imul__" =>
    setBody self (.list (repeated items (← repetitions invoke items.length first)))
    return self
  | "append" =>
    setBody self (.list (items ++ [first]))
    nothing
  | "extend" =>
    extendList invoke self first
    nothing
  | "insert" =>
    insertItem invoke self first arguments.second
    nothing
  | "pop" => popItem invoke self first
  | "remove" =>
    match ← findItem? invoke self first with
    | some place =>
      setBody self (.list ((← itemsOf self).eraseIdx place))
      nothing
    | none => fail .valueError "list.remove(x): x not in list"
  | "clear" =>
    setBody self (.list [])
    nothing
  | "copy" => newList items
  | "reverse" =>
    setBody self (.list items.reverse)
    nothing
  | "count" => newInt (← countItem invoke self first)
  | "index" =>
    match ← findBetween? invoke self first arguments.second arguments.third with
    | some place => newInt place
    | none => failAbout invoke .valueError "" first " is not in list"
  | "sort" =>
    sortList invoke self first (← isNonzero invoke arguments.second)
    nothing
  | "__sizeof__" => newInt (40 + 8 * items.length)
  | "__class_getitem__" => newAlias self first
  | _ =>
    match slotComparison? name, ← body first with
    | some comparison, .list _ => compareSequences invoke comparison self first
    | _, _ => return Fixed.notImplemented

end ForeignBridge.Foreign.Run
