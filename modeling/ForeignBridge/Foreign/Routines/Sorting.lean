import ForeignBridge.Foreign.Routines.Items

/-! # Sorting

A list is sorted by keys of its items, and items with equal keys stay in their order. Short lists are
sorted by insertion: the items that stand in order already are kept, and each of the others is put
into its place, which is found by halving. A comparison that raises an exception ends the sort, and
the items are left as far as they have come.
-/

namespace ForeignBridge.Foreign

/-- An item with the key by which it is sorted. -/
structure Keyed where
  key : Handle
  item : Handle
deriving Repr, Inhabited

namespace Run

/-- Whether an item belongs before another one. -/
def precedes (invoke : Invoke) (a b : Keyed) : Run Bool := do
  isTrue invoke (← compare invoke .less a.key b.key)

/-- How many of the first items are in falling order, or else in no falling order, given the number of
those that are known to be and the last of them. -/
def runLength (invoke : Invoke) (falling : Bool) (known : Nat) (last : Keyed) :
    List Keyed → Run Nat
  | [] => return known
  | next :: rest => do
    if (← precedes invoke next last) == falling then
      runLength invoke falling (known + 1) next rest
    else return known

/-- The items with the first ones in order, and how many those are. -/
def firstRun (invoke : Invoke) (items : List Keyed) : Run (List Keyed × Nat) := do
  match items with
  | first :: second :: rest =>
    let falling ← precedes invoke second first
    let count ← runLength invoke falling 2 second rest
    if falling then return ((items.take count).reverse ++ items.drop count, count)
    else return (items, count)
  | _ => return (items, items.length)

/-- The place of an item among ordered ones, behind those that it does not precede, between two
places. -/
def insertionPlace (invoke : Invoke) (items : Array Keyed) (pivot : Keyed) :
    Nat → Nat → Nat → Run Nat
  | 0, low, _ => return low
  | fuel + 1, low, high =>
    if low < high then do
      let middle := low + (high - low) / 2
      if ← precedes invoke pivot (items[middle]?.getD pivot) then
        insertionPlace invoke items pivot fuel low middle
      else insertionPlace invoke items pivot fuel (middle + 1) high
    else return low

/-- Puts the items behind some ordered ones into their places one by one. -/
def insertAll (invoke : Invoke) (ordered : List Keyed) :
    List Keyed → Run (List Keyed × Option Thrown)
  | [] => return (ordered, none)
  | pivot :: rest => do
    let count := ordered.length
    match ← outcome (insertionPlace invoke ordered.toArray pivot (count + 1) 0 count) with
    | .error thrown => return (ordered ++ pivot :: rest, some thrown)
    | .ok place => insertAll invoke (ordered.take place ++ pivot :: ordered.drop place) rest

/-- Two ordered lists put together, up to a number of items. -/
def mergeOrdered (invoke : Invoke) :
    Nat → List Keyed → List Keyed → List Keyed → Run (List Keyed)
  | fuel + 1, merged, a :: as, b :: bs => do
    if ← precedes invoke b a then mergeOrdered invoke fuel (b :: merged) (a :: as) bs
    else mergeOrdered invoke fuel (a :: merged) as (b :: bs)
  | _, merged, as, bs => return merged.reverse ++ as ++ bs

/-- A long list sorted by halves, up to some depth. -/
def sortHalves (invoke : Invoke) : Nat → List Keyed → Run (List Keyed)
  | 0, items => return items
  | fuel + 1, items => do
    if items.length < 2 then return items
    let (front, back) := items.splitAt (items.length / 2)
    let front ← sortHalves invoke fuel front
    mergeOrdered invoke items.length [] front (← sortHalves invoke fuel back)

/-- How many items a list has that is not sorted by insertion. -/
def longList : Nat := 64

/-- Items in the order of their keys, as far as comparisons come, and what stops them. -/
def sortKeyed (invoke : Invoke) (items : List Keyed) : Run (List Keyed × Option Thrown) := do
  if items.length < longList then
    match ← outcome (firstRun invoke items) with
    | .error thrown => return (items, some thrown)
    | .ok (items, count) => insertAll invoke (items.take count) (items.drop count)
  else
    match ← outcome (sortHalves invoke items.length items) with
    | .error thrown => return (items, some thrown)
    | .ok ordered => return (ordered, none)

/-- Items in order by a key, which may be missing, forwards or backwards, as far as comparisons come,
and what stops them. -/
def sortItems (invoke : Invoke) (key : Handle) (back : Bool) (items : List Handle) :
    Run (List Handle × Option Thrown) := do
  let keyOf (item : Handle) : Run Keyed := do
    if key.isNull ∨ key = Fixed.none then return ⟨item, item⟩
    else return ⟨← invoke key (.of [item]), item⟩
  match ← outcome (items.mapM keyOf) with
  | .error thrown => return (items, some thrown)
  | .ok keyed =>
    let (sorted, stopped) ← sortKeyed invoke (if back then keyed.reverse else keyed)
    return ((if back then sorted.reverse else sorted).map (·.item), stopped)

/-- Sorts a list in place. The list has no items in the meantime. -/
def sortList (invoke : Invoke) (list key : Handle) (back : Bool) : Run Unit := do
  let items ← itemsOf list
  setBody list (.list [])
  let (sorted, stopped) ← sortItems invoke key back items
  let changed := !(← itemsOf list).isEmpty
  setBody list (.list sorted)
  throwIfStopped stopped
  if changed then fail .valueError "list modified during sort"

/-- A new list of the items that an object yields, in order. -/
def sortedList (invoke : Invoke) (source key : Handle) (back : Bool) : Run Handle := do
  let list ← newList (← gather invoke source)
  sortList invoke list key back
  return list

end Run

end ForeignBridge.Foreign
