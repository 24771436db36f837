import ForeignBridge.Foreign.Routines.Lists

/-! # Routines of dictionaries

A dictionary keeps its keys in the order in which they first came. It takes keys and values from
another dictionary, from an object with keys, or from pairs in a row.
-/

namespace ForeignBridge.Foreign.Run

/-- The fault of a key that is not there. -/
def missingKey {α : Type} (key : Handle) : Run α := do raise (← newException .keyError [key])

/-- What comes of the entries of a dictionary, one after another, up to a number of them. Entries behind
one that may run code are looked at anew. -/
def visitEntriesFrom {α : Type} (dict : Handle) (act : Entry → Run α) :
    Nat → List α → List Entry → Run (List α)
  | 0, made, _ => return made.reverse
  | _, made, [] => return made.reverse
  | fuel + 1, made, entry :: rest => do
    let result ← act entry
    let rest ← if (← isScalar entry.key) && (← isScalar entry.value) then pure rest
      else do pure ((← dictionary dict).entries.filter (entry.place < ·.place))
    visitEntriesFrom dict act fuel (result :: made) rest

/-- What comes of the entries of a dictionary, one after another. -/
def visitEntries {α : Type} (dict : Handle) (act : Entry → Run α) : Run (List α) := do
  visitEntriesFrom dict act walkBound [] (← dictionary dict).entries

/-- The keys that an object with keys gives. -/
def keysOf (invoke : Invoke) (source : Handle) : Run Handle := do
  let given ← invoke (← getAttribute invoke source "keys") (.of [])
  if (← core? given) = some .list then return given
  match ← unlessRaised .typeError (iterOf invoke given) with
  | some iterator => newList (← drain invoke iterator)
  | none =>
    fail .typeError ((← typeName source) ++ ".keys() returned a non-iterable (type " ++
      (← typeName given) ++ ")")

/-- Puts the entries of a mapping into a dictionary. -/
def mergeMapping (invoke : Invoke) (dict source : Handle) : Run Unit := do
  match ← body source with
  | .dict content =>
    if source = dict then return
    for entry in content.entries do
      let found ← findEntry invoke entry.hash entry.key (← dictionary dict).entries
      let now ← dictionary dict
      match found with
      | some old => setBody dict (.dict (now.replace old.place entry.value))
      | none => setBody dict (.dict (now.insert entry.hash entry.key entry.value))
      if (← dictionary source).entries.length ≠ content.entries.length then
        fail .runtimeError "dict mutated during update"
  | _ =>
    forEach invoke (← keysOf invoke source) fun key => do
      dictSet invoke dict key (← getItem invoke source key)

/-- Puts a pair of a row of pairs into a dictionary. -/
def mergePair (invoke : Invoke) (dict : Handle) (place : Nat) (pair : Handle) : Run Unit := do
  let parts ← match ← unlessRaised .typeError (fastItems invoke "" pair) with
    | some parts => pure parts
    | none =>
      fail .typeError ("cannot convert dictionary update sequence element #" ++ toString place ++
        " to a sequence")
  match parts with
  | [key, value] => dictSet invoke dict key value
  | _ =>
    fail .valueError ("dictionary update sequence element #" ++ toString place ++ " has length " ++
      toString parts.length ++ "; 2 is required")

/-- Puts the pairs that an iterator hands out into a dictionary, up to a number of them. -/
def mergePairs (invoke : Invoke) (dict iterator : Handle) : Nat → Nat → Run Unit
  | 0, _ => return
  | fuel + 1, place => do
    match ← next? invoke iterator with
    | none => return
    | some pair =>
      mergePair invoke dict place pair
      mergePairs invoke dict iterator fuel (place + 1)

/-- Puts what an object gives into a dictionary. -/
def mergeFrom (invoke : Invoke) (dict source : Handle) : Run Unit := do
  let isMapping ← if (← core? source) = some .dict then pure true
    else pure (← getAttribute? invoke source "keys").isSome
  if isMapping then mergeMapping invoke dict source
  else mergePairs invoke dict (← iterOf invoke source) walkBound 0

/-- Puts what an argument gives and named arguments into a dictionary. -/
def updateDict (invoke : Invoke) (dict : Handle) (title : String) (arguments : Arguments) :
    Run Unit := do
  checkBetween title 0 1 arguments
  unless arguments.first.isNull do mergeFrom invoke dict arguments.first
  for (name, value) in arguments.keywords do dictSet invoke dict (← internString name) value

/-- The texts of the entries of a dictionary with commas between them. -/
def entryTexts (invoke : Invoke) (dict : Handle) : Run CodePoints := do
  let parts ← visitEntries dict fun entry => do
    let key ← reprText invoke entry.key
    let value ← reprText invoke entry.value
    return key.append ((CodePoints.ofString ": ").append value)
  return CodePoints.join (.ofString ", ") parts

/-- Whether a dictionary has some entries, with equal values. -/
def hasEntries (invoke : Invoke) (other : Handle) : List Entry → Run Bool
  | [] => return true
  | entry :: rest => do
    match ← findEntry invoke entry.hash entry.key (← dictionary other).entries with
    | none => return false
    | some found =>
      if ← isSame invoke found.value entry.value then hasEntries invoke other rest
      else return false

/-- Whether two dictionaries have the same keys with equal values. -/
def sameDicts (invoke : Invoke) (a b : Handle) : Run Bool := do
  let entries := (← dictionary a).entries
  if entries.length ≠ (← dictionary b).entries.length then return false
  else hasEntries invoke b entries

/-- A plain dictionary with the entries of another one. -/
def copyDict (dict : Handle) : Run Handle := do
  let entries := (← dictionary dict).entries.zipIdx.map fun (entry, place) => { entry with place }
  newOf .dict (.dict ⟨entries, entries.length⟩)

/-- A new dictionary of a class with one value under all keys that an object yields. -/
def dictFromKeys (invoke : Invoke) (cls source value : Handle) : Run Handle := do
  let dict ← invoke cls (.of [])
  let value := if value.isNull then Fixed.none else value
  let plain := (← core? dict) == some .dict
  forEach invoke source fun key =>
    if plain then dictSet invoke dict key value else setItem invoke dict key value
  return dict

/-- What stands in a dictionary under a key; a class may have a rule for keys that are missing. -/
def dictItem (invoke : Invoke) (dict key : Handle) : Run Handle := do
  match ← dictGet? invoke dict key with
  | some value => return value
  | none =>
    let rule ← if (← core? dict) = some .dict then pure none
      else typeAttribute dict "__missing__"
    match rule with
    | some rule => callEntry invoke rule dict [key]
    | none => missingKey key

/-- Takes a key out of a dictionary and gives its value. -/
def popKey (invoke : Invoke) (dict key other : Handle) : Run Handle := do
  let found ← if (← dictionary dict).entries.isEmpty then pure none
    else dictRemove? invoke dict key
  match found with
  | some entry => return entry.value
  | none => if other.isNull then missingKey key else return other

/-- The routines of dictionaries. -/
def dictRoutine (invoke : Invoke) (name : String) (self : Handle) (arguments : Arguments) :
    Run Handle := do
  let first := arguments.first
  let second := arguments.second
  let usual := if second.isNull then Fixed.none else second
  match name with
  | "__new__" => newInstance self (.dict .empty)
  | "fromkeys" => dictFromKeys invoke self first second
  | "__init__" =>
    updateDict invoke self "dict" arguments
    nothing
  | "update" =>
    updateDict invoke self "update" arguments
    nothing
  | "__repr__" =>
    if (← dictionary self).entries.isEmpty then newString "\x7b\x7d"
    else
      match ← writingOnce self (entryTexts invoke self) with
      | some text => newText (enclosed "\x7b" text "\x7d")
      | none => newString "\x7b...\x7d"
  | "__len__" => newInt (← dictionary self).entries.length
  | "__iter__" => entryIterator .keys false self
  | "__reversed__" => entryIterator .keys true self
  | "__contains__" => return truth (← entryUnder? invoke self first).isSome
  | "__getitem__" => dictItem invoke self first
  | "__setitem__" =>
    dictSet invoke self first second
    nothing
  | "__delitem__" =>
    match ← dictRemove? invoke self first with
    | some _ => nothing
    | none => missingKey first
  | "get" => return (← dictGet? invoke self first).getD usual
  | "setdefault" =>
    match ← dictGet? invoke self first with
    | some value => return value
    | none =>
      dictSet invoke self first usual
      return usual
  | "pop" => popKey invoke self first second
  | "popitem" =>
    let content ← dictionary self
    match content.entries.getLast? with
    | none => fail .keyError "popitem(): dictionary is empty"
    | some entry =>
      setBody self (.dict (content.erase entry.place))
      newTuple [entry.key, entry.value]
  | "keys" => newOf .dictKeys (.view .keys self)
  | "values" => newOf .dictValues (.view .values self)
  | "items" => newOf .dictItems (.view .items self)
  | "clear" =>
    setBody self (.dict .empty)
    nothing
  | "copy" => copyDict self
  | "__or__" | "__ror__" =>
    match ← body first with
    | .dict _ =>
      let (left, right) := if name = "__or__" then (self, first) else (first, self)
      let made ← copyDict left
      mergeFrom invoke made right
      return made
    | _ => return Fixed.notImplemented
  | "__ior__" =>
    mergeFrom invoke self first
    return self
  | "__sizeof__" => newInt (64 + 56 * (← dictionary self).entries.length)
  | "__class_getitem__" => newAlias self first
  | _ =>
    match slotComparison? name, ← body first with
    | some .equal, .dict _ => return truth (← sameDicts invoke self first)
    | some .notEqual, .dict _ => return truth !(← sameDicts invoke self first)
    | _, _ => return Fixed.notImplemented

end ForeignBridge.Foreign.Run
