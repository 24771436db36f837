import ForeignBridge.Handle
import ForeignBridge.Number.Double

/-! # Members of a set

The members of a set stand in a table of slots, and a set is walked over in the order of its slots. A
member is looked for at the slot that its hash names, at the slots right behind it, and then at slots
further away, until an empty one shows that it is not there. A member that is taken out leaves a mark
behind, so that later searches go on past its slot. A table that has become too full is made anew.
-/

namespace ForeignBridge.Foreign

/-- A slot of the table. -/
inductive Slot where
  | empty
  /-- A member has been taken out. -/
  | left
  | member (hash : Int) (key : Handle)
deriving DecidableEq, Repr, Inhabited

/-- The members of a set. The number of slots is a power of two. -/
structure Members where
  slots : Array Slot
  /-- How many slots are not empty. -/
  filled : Nat
  /-- Where the next member to be taken out is looked for. -/
  finger : Nat
deriving Repr, Inhabited

namespace Members

/-- The least number of slots. -/
def leastSize : Nat := 8

/-- A table without members. -/
def none : Members := ⟨Array.replicate leastSize .empty, 0, 0⟩

/-- The keys with their hashes, in the order of the slots. -/
def entries (members : Members) : List (Int × Handle) :=
  members.slots.toList.filterMap fun slot => match slot with
    | .member hash key => some (hash, key)
    | _ => Option.none

/-- The keys in the order of the slots. -/
def keys (members : Members) : List Handle := members.entries.map (·.2)

/-- How many members there are. -/
def size (members : Members) : Nat :=
  members.slots.foldl (fun count slot => match slot with
    | .member .. => count + 1
    | _ => count) 0

/-- A place in a search: the slot to look at, how many slots right behind it still come, and what
leads further away. -/
structure Search where
  slot : Nat
  /-- The slot that the last run of neighbours began with. -/
  start : Nat
  behind : Nat
  spread : Nat
deriving Repr

/-- How many slots behind a slot are looked at before those further away. -/
def neighbours : Nat := 9

/-- A hash as a number of 64 bits without a sign. -/
def unsigned (hash : Int) : Nat := (hash % (twoTo 64 : Int)).toNat

/-- The neighbours that a slot has. -/
def behind (size slot : Nat) : Nat := if slot + neighbours < size then neighbours else 0

/-- Where a search for a hash begins. -/
def Search.first (size : Nat) (hash : Int) : Search :=
  let slot := unsigned hash % size
  ⟨slot, slot, Members.behind size slot, unsigned hash⟩

/-- Where a search goes on. -/
def Search.next (size : Nat) (search : Search) : Search :=
  match search.behind with
  | left + 1 => { search with slot := search.slot + 1, behind := left }
  | 0 =>
    let spread := search.spread / 32
    let slot := (search.start * 5 + 1 + spread) % size
    ⟨slot, slot, Members.behind size slot, spread⟩

/-- A bound on the length of a search. -/
def searchBound (members : Members) : Nat := 20 * members.slots.size + 100

/-- The first slot in a search that is empty, up to a number of slots. -/
def emptySlot (slots : Array Slot) : Nat → Search → Option Nat
  | 0, _ => Option.none
  | fuel + 1, search =>
    match slots[search.slot]? with
    | some .empty => some search.slot
    | some _ => emptySlot slots fuel (search.next slots.size)
    | Option.none => Option.none

/-- Puts a key that is not in the table into the first empty slot of its search. -/
def place (members : Members) (hash : Int) (key : Handle) : Members :=
  match emptySlot members.slots members.searchBound (.first members.slots.size hash) with
  | some slot =>
    { members with slots := members.slots.setIfInBounds slot (.member hash key),
                   filled := members.filled + 1 }
  | Option.none => members

/-- The least power of two above a number, from a start. -/
def sizeAbove (least : Nat) : Nat → Nat → Nat
  | 0, size => size
  | fuel + 1, size => if size ≤ least then sizeAbove least fuel (2 * size) else size

/-- The members in a new table with more slots than a number. -/
def resize (members : Members) (least : Nat) : Members :=
  let size := sizeAbove least 64 leastSize
  members.entries.foldl (fun table (hash, key) => table.place hash key)
    ⟨Array.replicate size .empty, 0, 0⟩

/-- Whether a table has too few empty slots. -/
def isCrowded (filled size : Nat) : Bool := decide (3 * (size - 1) ≤ 5 * filled)

/-- Adds a key that is not in the table. -/
def insert (members : Members) (hash : Int) (key : Handle) : Members :=
  let placed := members.place hash key
  if isCrowded placed.filled placed.slots.size then
    let count := placed.size
    placed.resize (if 50000 < count then 2 * count else 4 * count)
  else placed

/-- Makes room for some more members. -/
def reserve (members : Members) (more : Nat) : Members :=
  if isCrowded (members.filled + more) members.slots.size then
    members.resize (2 * (members.size + more))
  else members

/-- Takes the member at a slot out. -/
def take (members : Members) (slot : Nat) : Members :=
  { members with slots := members.slots.setIfInBounds slot .left }

/-- The first slot with a member at or after one, going round once. -/
def memberFrom (members : Members) (start : Nat) : Option (Nat × Handle) :=
  let size := members.slots.size
  (List.range size).findSome? fun step =>
    let slot := (start + step) % size
    match members.slots[slot]? with
    | some (.member _ key) => some (slot, key)
    | _ => Option.none

/-- A copy of a table. Marks that members have left are not copied. -/
def copy (members : Members) : Members :=
  let room := none.reserve members.size
  if room.slots.size = members.slots.size ∧ members.filled = members.size then
    { members with finger := 0 }
  else
    members.entries.foldl (fun table (hash, key) => table.place hash key) room

end Members

end ForeignBridge.Foreign
