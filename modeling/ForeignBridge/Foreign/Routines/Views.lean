import ForeignBridge.Foreign.Routines.Sets

/-! # Routines of views of dictionaries

A view shows the keys, the values or the pairs of a dictionary as they are at the time. Keys and pairs
behave like sets. A proxy shows a mapping that cannot be changed through it.
-/

namespace ForeignBridge.Foreign.Run

/-- Whether an object shows the keys or the pairs of a dictionary. -/
def isKeyView (handle : Handle) : Run Bool := do
  match ← body handle with
  | .view kind _ => return kind != .values
  | _ => return false

/-- Whether an object is what a view shows. -/
def viewHas (invoke : Invoke) (kind : ViewKind) (dict item : Handle) : Run Bool := do
  match kind, ← body item with
  | .items, .tuple [key, value] =>
    match ← dictGet? invoke dict key with
    | some found => isSame invoke found value
    | none => return false
  | .items, _ => return false
  | .keys, _ => return (← entryUnder? invoke dict item).isSome
  | .values, _ => searchWithin invoke (← entryIterator .values false dict) item walkBound

/-- Whether all that an object yields is in another one. -/
def allIn (invoke : Invoke) (source other : Handle) : Run Bool := do
  return !(← anyYielded invoke source fun item => return !(← contains invoke other item))

/-- The answer of a comparison of a view with a set or a view. -/
def compareViews (invoke : Invoke) (comparison : Comparison) (a b : Handle) : Run Handle := do
  if !(← isKeyView b) ∧ (← members? b).isNone then return Fixed.notImplemented
  let count ← lengthOf invoke a
  let other ← lengthOf invoke b
  let answer ← match comparison with
    | .equal => if count = other then allIn invoke a b else pure false
    | .notEqual => if count = other then pure !(← allIn invoke a b) else pure true
    | .less => if count < other then allIn invoke a b else pure false
    | .lessEqual => if count ≤ other then allIn invoke a b else pure false
    | .greater => if other < count then allIn invoke b a else pure false
    | _ => if other ≤ count then allIn invoke b a else pure false
  return truth answer

/-- What a view shares with what an object yields. -/
def viewIntersection (invoke : Invoke) (left right : Handle) : Run Handle := do
  let (view, other) := if ← isKeyView left then (left, right) else (right, left)
  let count ← lengthOf invoke view
  let smaller ← match ← core? other with
    | some .set => pure (decide (count ≤ (← membersOf other).size))
    | _ => pure false
  if smaller then return ← intersection invoke other view
  let swap ← if ← isKeyView other then pure (decide (count < (← lengthOf invoke other)))
    else pure false
  let (asked, walked) := if swap then (other, view) else (view, other)
  let result ← emptySet Core.set.handle
  forEach invoke walked fun item => do
    if ← contains invoke asked item then setAdd invoke result item
  return result

/-- What a view makes with an object under an operator. -/
def viewOperator (invoke : Invoke) (operator : BinaryOperator) (left right : Handle) :
    Run Handle := do
  match operator with
  | .and => viewIntersection invoke left right
  | .or =>
    let result ← makeSet invoke Core.set.handle left
    setUpdate invoke result right
    return result
  | .sub =>
    let result ← makeSet invoke Core.set.handle left
    subtract invoke result right
    return result
  | .xor =>
    let result ← makeSet invoke Core.set.handle left
    toggle invoke result right
    return result
  | _ => return Fixed.notImplemented

/-- Whether a view has nothing of what an object yields. -/
def viewIsDisjoint (invoke : Invoke) (self other : Handle) : Run Bool := do
  let count ← lengthOf invoke self
  if self = other then return count == 0
  let sized ← if ← isKeyView other then pure true else pure ((← core? other) == some .set)
  let swap ← if sized then pure (decide (count < (← lengthOf invoke other))) else pure false
  let (asked, walked) := if swap then (other, self) else (self, other)
  return !(← anyYielded invoke walked (contains invoke asked))

/-- The routines of views. -/
def viewRoutine (invoke : Invoke) (name : String) (self : Handle) (arguments : Arguments) :
    Run Handle := do
  let first := arguments.first
  let (kind, dict) := match ← body self with
    | .view kind dict => (kind, dict)
    | _ => (.keys, Fixed.none)
  match name with
  | "__repr__" =>
    let write : Run CodePoints := do
      reprText invoke (← newList (← drain invoke (← entryIterator kind false dict)))
    match ← writingOnce self write with
    | some text => newText (enclosed ((← typeName self) ++ "(") text ")")
    | none => newString "..."
  | "__len__" => newInt (← dictionary dict).entries.length
  | "__iter__" => entryIterator kind false dict
  | "__reversed__" => entryIterator kind true dict
  | "__contains__" => return truth (← viewHas invoke kind dict first)
  | "isdisjoint" => return truth (← viewIsDisjoint invoke self first)
  | "mapping" => newOf .mappingProxy (.proxy dict)
  | _ =>
    match slotComparison? name, slotOperator? name with
    | some comparison, _ => compareViews invoke comparison self first
    | none, some (operator, true) => viewOperator invoke operator first self
    | none, some (operator, false) => viewOperator invoke operator self first
    | none, none => return Fixed.notImplemented

/-- The constructor of proxies. -/
def makeProxy (arguments : Arguments) : Run Handle := do
  let arguments ← arrangeNamed "mappingproxy" ⟨["mapping"], 0, 1, 0⟩ arguments
  let mapping := arguments.first
  let isMapping ← match ← body mapping with
    | .list _ | .tuple _ => pure false
    | _ => do pure (← typeAttribute mapping "__getitem__").isSome
  if isMapping then newOf .mappingProxy (.proxy mapping)
  else
    fail .typeError ("mappingproxy() argument must be a mapping, not " ++ (← typeName mapping))

/-- The routines of proxies. -/
def proxyRoutine (invoke : Invoke) (name : String) (self : Handle) (arguments : Arguments) :
    Run Handle := do
  let first := arguments.first
  let shown ← match ← body self with
    | .proxy mapping => pure mapping
    | _ => pure Fixed.none
  let behind (handle : Handle) : Run Handle := do
    match ← body handle with
    | .proxy mapping => return mapping
    | _ => return handle
  match name with
  | "__new__" => makeProxy arguments
  | "__repr__" => newText (enclosed "mappingproxy(" (← reprText invoke shown) ")")
  | "__str__" => strOf invoke shown
  | "__len__" => newInt (← lengthOf invoke shown)
  | "__iter__" => iterOf invoke shown
  | "__getitem__" => getItem invoke shown first
  | "__contains__" => return truth (← contains invoke shown first)
  | "__or__" => operate invoke .or shown (← behind first)
  | "__ror__" => operate invoke .or (← behind first) shown
  | "__ior__" => fail .typeError "'|=' is not supported by mappingproxy; use '|' instead"
  | "get" =>
    let usual := if arguments.second.isNull then Fixed.none else arguments.second
    invoke (← getAttribute invoke shown name) (.of [first, usual])
  | "keys" | "values" | "items" | "copy" | "__reversed__" =>
    invoke (← getAttribute invoke shown name) (.of [])
  | "__class_getitem__" => newAlias self first
  | _ =>
    match slotComparison? name with
    | some comparison => compare invoke comparison shown first
    | none => return Fixed.notImplemented

end ForeignBridge.Foreign.Run
