import ForeignBridge.Foreign.Routines.Dictionaries

/-! # Routines of sets

A set is put together from others member by member. Which of two sets is walked over decides the order
of the result: the smaller one for what they share, and the right one for what only one of them has.
-/

namespace ForeignBridge.Foreign.Run

/-- The members of an object, if it is a set. -/
def members? (handle : Handle) : Run (Option Members) := do
  match ← body handle with
  | .set members => return some members
  | _ => return none

/-- A new set of a class without members. -/
def emptySet (cls : Handle) : Run Handle := newInstance cls (.set .none)

/-- The built-in class of sets that a set belongs to. -/
def setBase (set : Handle) : Run Handle := do return (← layoutOf set).handle

/-- Adds what an object yields to a set. -/
def setUpdate (invoke : Invoke) (set source : Handle) : Run Unit := do
  match ← members? source with
  | some members => if source ≠ set then setMerge invoke set members
  | none =>
    match ← core? source, ← body source with
    | some .dict, .dict content => setMergeKeys invoke set content
    | _, _ => forEach invoke source (setAdd invoke set)

/-- A new set of a class of what an object yields. -/
def makeSet (invoke : Invoke) (cls source : Handle) : Run Handle := do
  let set ← emptySet cls
  unless source.isNull do setUpdate invoke set source
  return set

/-- A set of the same class with the same members. -/
def copySet (invoke : Invoke) (set : Handle) : Run Handle := do makeSet invoke (← typeOf set) set

/-- A copy of a set, or the set itself if it never changes. -/
def plainCopy (invoke : Invoke) (set : Handle) : Run Handle := do
  if (← core? set) = some .frozenset then return set else copySet invoke set

/-- Whether a set has a key with a given hash. -/
def hasHashed (invoke : Invoke) (set key : Handle) (hash : Int) : Run Bool := do
  return (← slotOf? invoke set key hash).isSome

/-- Takes a key with a given hash out of a set; the answer says whether it was there. -/
def dropHashed (invoke : Invoke) (set key : Handle) (hash : Int) : Run Bool := do
  match ← slotOf? invoke set key hash with
  | some slot =>
    setBody set (.set ((← membersOf set).take slot))
    return true
  | none => return false

/-- A new set of what a set shares with what an object yields. -/
def intersection (invoke : Invoke) (set other : Handle) : Run Handle := do
  if set = other then return ← copySet invoke set
  let result ← emptySet (← setBase set)
  match ← members? other with
  | some members =>
    let own ← membersOf set
    let (walked, asked) := if own.size < members.size then (own, other) else (members, set)
    for (hash, key) in walked.entries do
      if ← hasHashed invoke asked key hash then setAddHashed invoke result key hash
  | none =>
    forEach invoke other fun key => do
      let hash ← hashOf invoke key
      if ← hasHashed invoke set key hash then setAddHashed invoke result key hash
  return result

/-- Takes what an object yields out of a set. Many marks that members have left are swept up. -/
def subtract (invoke : Invoke) (set other : Handle) : Run Unit := do
  if set = other then setBody set (.set .none)
  else
    match ← members? other with
    | some members =>
      for (hash, key) in members.entries do
        let _ ← dropHashed invoke set key hash
    | none =>
      forEach invoke other fun key => do
        let _ ← setDrop invoke set key
  let members ← membersOf set
  let count := members.size
  if (members.slots.size - 1) / 4 < members.filled - count then
    setBody set (.set (members.resize (if 50000 < count then 2 * count else 4 * count)))

/-- A new set of what a set has and an object does not yield. -/
def difference (invoke : Invoke) (set other : Handle) : Run Handle := do
  let byCopy : Run Handle := do
    let result ← copySet invoke set
    subtract invoke result other
    return result
  let own ← membersOf set
  let keep (has : Int → Handle → Run Bool) : Run Handle := do
    let result ← emptySet (← setBase set)
    for (hash, key) in own.entries do
      unless ← has hash key do setAddHashed invoke result key hash
    return result
  match ← core? other, ← body other with
  | _, .set members =>
    if members.size < own.size / 4 then byCopy
    else keep fun hash key => hasHashed invoke other key hash
  | some .dict, .dict content =>
    if content.entries.length < own.size / 4 then byCopy
    else
      keep fun hash key => do
        return (← findEntry invoke hash key (← dictionary other).entries).isSome
  | _, _ => byCopy

/-- Adds to a set what only an object yields, and takes out of it what both have. -/
def toggle (invoke : Invoke) (set other : Handle) : Run Unit := do
  let flip (hash : Int) (key : Handle) : Run Unit := do
    unless ← dropHashed invoke set key hash do setAddHashed invoke set key hash
  if set = other then setBody set (.set .none)
  else
    match ← core? other, ← body other with
    | some .dict, .dict content =>
      for entry in content.entries do flip entry.hash entry.key
    | _, .set members =>
      for (hash, key) in members.entries do flip hash key
    | _, _ =>
      let made ← makeSet invoke (← setBase set) other
      for (hash, key) in (← membersOf made).entries do flip hash key

/-- A new set of what only one of a set and an object has. -/
def symmetricDifference (invoke : Invoke) (set other : Handle) : Run Handle := do
  let result ← makeSet invoke (← setBase set) other
  toggle invoke result set
  return result

/-- Whether all members of a set are in another one. -/
def isWithin (invoke : Invoke) (set other : Handle) : Run Bool := do
  let own ← membersOf set
  if (← membersOf other).size < own.size then return false
  else own.entries.allM fun (hash, key) => hasHashed invoke other key hash

/-- Whether all members of a set are among what an object yields. -/
def isSubset (invoke : Invoke) (set other : Handle) : Run Bool := do
  match ← members? other with
  | some _ => isWithin invoke set other
  | none =>
    let shared ← intersection invoke set other
    return (← membersOf shared).size == (← membersOf set).size

/-- Whether all that an object yields is in a set. -/
def isSuperset (invoke : Invoke) (set other : Handle) : Run Bool := do
  match ← members? other with
  | some _ => isWithin invoke other set
  | none => return !(← anyYielded invoke other fun key => return !(← setHas invoke set key))

/-- Whether a set has nothing of what an object yields. -/
def isDisjoint (invoke : Invoke) (set other : Handle) : Run Bool := do
  let own ← membersOf set
  if set = other then return own.size == 0
  match ← members? other with
  | some members =>
    let (walked, asked) := if own.size < members.size then (own, other) else (members, set)
    return !(← walked.entries.anyM fun (hash, key) => hasHashed invoke asked key hash)
  | none => return !(← anyYielded invoke other (setHas invoke set))

/-- The answer of a comparison of two sets. -/
def compareSets (invoke : Invoke) (comparison : Comparison) (a b : Handle) : Run Bool := do
  let count := (← membersOf a).size
  let other := (← membersOf b).size
  match comparison with
  | .equal => if count = other then isWithin invoke a b else return false
  | .notEqual => if count = other then return !(← isWithin invoke a b) else return true
  | .less => if count < other then isWithin invoke a b else return false
  | .lessEqual => isWithin invoke a b
  | .greater => if other < count then isWithin invoke b a else return false
  | _ => isWithin invoke b a

/-- The text of a set for programmers. -/
def setText (invoke : Invoke) (set : Handle) : Run Handle := do
  let title ← typeName set
  let write : Run CodePoints := do listTexts invoke (← membersOf set).keys
  match ← writingOnce set write with
  | none => newString (title ++ "(...)")
  | some text =>
    if (← membersOf set).size = 0 then newString (title ++ "()")
    else
      let inner := enclosed "\x7b" text "\x7d"
      newText (if (← core? set) = some .set then inner else enclosed (title ++ "(") inner ")")

/-- What comes of a question about a key of a set. A set that is no key stands for a frozen one. -/
def askForKey (invoke : Invoke) (key : Handle) (ask : Handle → Run Bool) : Run Bool := do
  match ← members? key with
  | none => ask key
  | some _ =>
    match ← unlessRaised .typeError (ask key) with
    | some answer => return answer
    | none => do ask (← makeSet invoke Core.frozenset.handle key)

/-- Takes some member out of a set. -/
def popMember (set : Handle) : Run Handle := do
  let members ← membersOf set
  match members.memberFrom members.finger with
  | none => fail .keyError "pop from an empty set"
  | some (slot, key) =>
    setBody set (.set { members.take slot with finger := slot + 1 })
    return key

/-- What a set shares with what each of some objects yields. -/
def intersectionAll (invoke : Invoke) (set : Handle) (others : List Handle) : Run Handle := do
  match others with
  | [] => copySet invoke set
  | others => others.foldlM (intersection invoke) set

/-- The constructor of sets that never change. -/
def makeFrozenset (invoke : Invoke) (cls : Handle) (arguments : Arguments) : Run Handle := do
  refuseKeywordsFor .frozenset cls arguments
  checkBetween (← className cls) 0 1 arguments
  let source := arguments.first
  if cls = Core.frozenset.handle ∧ (← core? source) = some .frozenset then return source
  else makeSet invoke cls source

/-- What two sets make under an operator. -/
def setOperator (invoke : Invoke) (operator : BinaryOperator) (left right : Handle) :
    Run Handle := do
  match operator with
  | .or =>
    let result ← copySet invoke left
    setUpdate invoke result right
    return result
  | .and => intersection invoke left right
  | .sub => difference invoke left right
  | .xor => symmetricDifference invoke left right
  | _ => return Fixed.notImplemented

/-- Makes the members of one set those of another. -/
def become (set made : Handle) : Run Unit := do setBody set (.set (← membersOf made))

/-- Changes a set in place by an operator and another set. -/
def setOperatorInPlace (invoke : Invoke) (name : String) (self other : Handle) : Run Handle := do
  if (← members? other).isNone then return Fixed.notImplemented
  match name with
  | "__ior__" => setUpdate invoke self other
  | "__iand__" => become self (← intersection invoke self other)
  | "__isub__" => subtract invoke self other
  | _ => toggle invoke self other
  return self

/-- The routines of sets that change them. -/
def setChangeRoutine (invoke : Invoke) (name : String) (self : Handle) (arguments : Arguments) :
    Run Handle := do
  let first := arguments.first
  let others := arguments.positional
  match name with
  | "__init__" =>
    refuseKeywords "set" arguments
    checkBetween (← typeName self) 0 1 arguments
    setBody self (.set .none)
    unless first.isNull do setUpdate invoke self first
  | "add" => setAdd invoke self first
  | "discard" =>
    let _ ← askForKey invoke first (setDrop invoke self)
  | "remove" =>
    unless ← askForKey invoke first (setDrop invoke self) do missingKey first
  | "clear" => setBody self (.set .none)
  | "update" => for other in others do setUpdate invoke self other
  | "difference_update" => for other in others do subtract invoke self other
  | "intersection_update" => become self (← intersectionAll invoke self others)
  | "symmetric_difference_update" => toggle invoke self first
  | _ => pure ()
  nothing

/-- The routines of both classes of sets. -/
def setRoutine (invoke : Invoke) (name : String) (self : Handle) (arguments : Arguments) :
    Run Handle := do
  let first := arguments.first
  unless name.startsWith "__" do refuseKeywords ((← layoutOf self).title ++ "." ++ name) arguments
  match name with
  | "__new__" =>
    if (← layout self) = .frozenset then makeFrozenset invoke self arguments else emptySet self
  | "__repr__" => setText invoke self
  | "__hash__" => newInt (← builtInHash (hashOf invoke) self)
  | "__len__" => newInt (← membersOf self).size
  | "__iter__" => return (← builtInIterator? self).getD Fixed.none
  | "__contains__" => return truth (← askForKey invoke first (setHas invoke self))
  | "pop" => popMember self
  | "copy" => plainCopy invoke self
  | "isdisjoint" => return truth (← isDisjoint invoke self first)
  | "issubset" => return truth (← isSubset invoke self first)
  | "issuperset" => return truth (← isSuperset invoke self first)
  | "union" =>
    let result ← copySet invoke self
    for other in arguments.positional do
      if other ≠ self then setUpdate invoke result other
    return result
  | "intersection" => intersectionAll invoke self arguments.positional
  | "difference" =>
    match arguments.positional with
    | [] => copySet invoke self
    | other :: others =>
      let result ← difference invoke self other
      for other in others do subtract invoke result other
      return result
  | "symmetric_difference" => symmetricDifference invoke self first
  | "__isub__" | "__iand__" | "__ixor__" | "__ior__" =>
    setOperatorInPlace invoke name self first
  | "__reduce__" =>
    let items ← newList (← membersOf self).keys
    newTuple [← typeOf self, ← newTuple [items], Fixed.none]
  | "__sizeof__" => newInt (200 + 16 * ((← membersOf self).slots.size - 8))
  | "__class_getitem__" => newAlias self first
  | _ =>
    if (slotComparison? name).isNone ∧ (slotOperator? name).isNone then
      setChangeRoutine invoke name self arguments
    else if (← members? first).isNone then return Fixed.notImplemented
    else
      match slotComparison? name, slotOperator? name with
      | some comparison, _ => return truth (← compareSets invoke comparison self first)
      | none, some (operator, true) => setOperator invoke operator first self
      | none, some (operator, false) => setOperator invoke operator self first
      | none, none => return Fixed.notImplemented

end ForeignBridge.Foreign.Run
