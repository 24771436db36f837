import ForeignBridge.Foreign.Operations.Compare

/-! # Keys

Dictionaries and sets find a key by its hash and then by comparison. A key that is there stays, and
only its value is replaced.
-/

namespace ForeignBridge.Foreign.Run

/-- Whether an object that is a key is the one that is looked for. -/
def isKey (invoke : Invoke) (key wanted : Handle) : Run Bool := do
  if key = wanted then return true
  else isTrue invoke (← compare invoke .equal key wanted)

/-- The entry with a key, given the key's hash. -/
def findEntry (invoke : Invoke) (hash : Int) (key : Handle) : List Entry → Run (Option Entry)
  | [] => return none
  | entry :: rest => do
    if entry.hash = hash then
      if ← isKey invoke entry.key key then return some entry
      else findEntry invoke hash key rest
    else findEntry invoke hash key rest

/-- The entry of a dictionary with a key. -/
def entryUnder? (invoke : Invoke) (dict key : Handle) : Run (Option Entry) := do
  let hash ← hashOf invoke key
  findEntry invoke hash key (← dictionary dict).entries

/-- Puts a value under a key of a dictionary. -/
def dictSet (invoke : Invoke) (dict key value : Handle) : Run Unit := do
  let hash ← hashOf invoke key
  let found ← findEntry invoke hash key (← dictionary dict).entries
  let content ← dictionary dict
  match found with
  | some entry => setBody dict (.dict (content.replace entry.place value))
  | none => setBody dict (.dict (content.insert hash key value))

/-- The value under a key of a dictionary. -/
def dictGet? (invoke : Invoke) (dict key : Handle) : Run (Option Handle) := do
  return (← entryUnder? invoke dict key).map (·.value)

/-- Takes a key out of a dictionary; the entry it had is the answer. -/
def dictRemove? (invoke : Invoke) (dict key : Handle) : Run (Option Entry) := do
  match ← entryUnder? invoke dict key with
  | none => return none
  | some found =>
    setBody dict (.dict ((← dictionary dict).erase found.place))
    return some found

/-- A new dictionary of pairs, put in one by one. -/
def newDict (invoke : Invoke) (pairs : List (Handle × Handle)) : Run Handle := do
  let dict ← newEmptyDict
  for (key, value) in pairs do dictSet invoke dict key value
  return dict

/-- The members of a set. -/
def membersOf (handle : Handle) : Run Members := do
  match ← body handle with
  | .set members => return members
  | _ => return .none

/-- The slot of a key with a given hash, from some place of a search on. -/
def findSlot (invoke : Invoke) (members : Members) (hash : Int) (key : Handle) :
    Nat → Members.Search → Run (Option Nat)
  | 0, _ => return none
  | fuel + 1, search => do
    let next := search.next members.slots.size
    match members.slots[search.slot]? with
    | some (.member other found) =>
      if other = hash then
        if ← isKey invoke found key then return some search.slot
        else findSlot invoke members hash key fuel next
      else findSlot invoke members hash key fuel next
    | some .left => findSlot invoke members hash key fuel next
    | _ => return none

/-- The slot of a key with a given hash in a set. -/
def slotOf? (invoke : Invoke) (set key : Handle) (hash : Int) : Run (Option Nat) := do
  let members ← membersOf set
  findSlot invoke members hash key members.searchBound (.first members.slots.size hash)

/-- Adds an object with a given hash to a set. -/
def setAddHashed (invoke : Invoke) (set item : Handle) (hash : Int) : Run Unit := do
  match ← slotOf? invoke set item hash with
  | some _ => return
  | none => setBody set (.set ((← membersOf set).insert hash item))

/-- Adds an object to a set. -/
def setAdd (invoke : Invoke) (set item : Handle) : Run Unit := do
  setAddHashed invoke set item (← hashOf invoke item)

/-- Whether an object is in a set. -/
def setHas (invoke : Invoke) (set item : Handle) : Run Bool := do
  return (← slotOf? invoke set item (← hashOf invoke item)).isSome

/-- Takes an object out of a set; the answer says whether it was there. -/
def setDrop (invoke : Invoke) (set item : Handle) : Run Bool := do
  match ← slotOf? invoke set item (← hashOf invoke item) with
  | some slot =>
    setBody set (.set ((← membersOf set).take slot))
    return true
  | none => return false

/-- Adds the members of another table to a set. -/
def setMerge (invoke : Invoke) (set : Handle) (other : Members) : Run Unit := do
  let members ← membersOf set
  if other.size = 0 then return
  let room := members.reserve other.size
  if room.filled = 0 then
    if room.slots.size = other.slots.size ∧ other.filled = other.size then
      setBody set (.set { other with finger := 0 })
    else
      setBody set (.set (other.entries.foldl (fun table (hash, key) => table.place hash key) room))
  else
    setBody set (.set room)
    for (hash, key) in other.entries do setAddHashed invoke set key hash

/-- Adds the keys of a dictionary to a set. -/
def setMergeKeys (invoke : Invoke) (set : Handle) (content : Dictionary) : Run Unit := do
  setBody set (.set ((← membersOf set).reserve content.entries.length))
  for entry in content.entries do setAddHashed invoke set entry.key entry.hash

/-- A new set of some objects. -/
def newSet (invoke : Invoke) (core : Core) (items : List Handle) : Run Handle := do
  let set ← newOf core (.set .none)
  for item in items do setAdd invoke set item
  return set

end ForeignBridge.Foreign.Run
