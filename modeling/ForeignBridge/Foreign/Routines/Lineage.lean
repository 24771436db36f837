import ForeignBridge.Foreign.Routines.Objects

/-! # Lineages

The attributes of a class are looked up in the class itself, in its bases and in what those extend.
The lineage of a class puts all of them into one order that agrees with the order of its bases and with
the lineage of each of them. Of its bases, one decides what instances hold.
-/

namespace ForeignBridge.Foreign

namespace Core

/-- Whether instances hold more than those of the class above. -/
def addsStorage : Core → Bool
  | bool => false
  | baseException | systemExit | stopIteration | importError | osError | syntaxError
  | unicodeEncodeError | unicodeDecodeError | unicodeTranslateError | attributeError | nameError
  | baseExceptionGroup => true
  | core => !core.isException

/-- The class at or above a built-in one that was the last to add to what instances hold. -/
def solid (core : Core) : Core := (core.lineage.find? addsStorage).getD object

/-- Whether instances of classes that extend a built-in one have attributes of any name anyway. -/
def isOpen (core : Core) : Bool :=
  core.isException || core ∈ [Core.module, .staticMethod, .classMethod, .type]

/-- Whether instances of a built-in class may be referred to without being kept. -/
def isWeak (core : Core) : Bool := core ∈ [Core.set, .frozenset, .type, .module, .genericAlias]

/-- Whether instances of a built-in class hold a number of items in place. -/
def isSized (core : Core) : Bool := core ∈ [Core.int, .tuple, .bytes, .type]

end Core

namespace Run

/-- The first class among the heads of some lists that is in no tail. -/
def nextInMerge (lists : List (List Handle)) : Option Handle :=
  (lists.filterMap List.head?).find? fun head => lists.all fun list => head ∉ list.tail

/-- Lists of classes put in one order that agrees with each of them, up to a number of classes; if there
is none, the classes that are left in front. -/
def mergeLineages : Nat → List (List Handle) → Except (List Handle) (List Handle)
  | 0, _ => .ok []
  | fuel + 1, lists =>
    let lists := lists.filter fun list => !list.isEmpty
    if lists.isEmpty then .ok []
    else
      match nextInMerge lists with
      | none => .error (lists.filterMap List.head?).eraseDups
      | some head => do
        let rest ← mergeLineages fuel (lists.map fun list =>
          if list.head? = some head then list.tail else list)
        return head :: rest

/-- The first object of a list that stands in it once more. -/
def firstDouble? : List Handle → Option Handle
  | [] => none
  | first :: rest => if rest.contains first then some first else firstDouble? rest

/-- The lineage of a class with some bases, the class itself first. -/
def lineageFor (cls : Handle) (bases : List Handle) : Run (List Handle) := do
  match bases with
  | [base] => return cls :: (← lineage base)
  | bases =>
    match firstDouble? bases with
    | some double => fail .typeError ("duplicate base class " ++ (← className double))
    | none =>
      let lineages ← bases.mapM lineage
      let count := lineages.foldl (fun count classes => count + classes.length) bases.length
      match mergeLineages count (lineages ++ [bases]) with
      | .ok above => return cls :: above
      | .error heads =>
        fail .typeError ("Cannot create a consistent method resolution\norder (MRO) for bases " ++
          String.intercalate ", " (← heads.mapM className))

/-- The class at or above one that was the last to add to what instances hold, going up so many steps
at most. -/
def solidWithin : Nat → Handle → Run Handle
  | 0, cls => return cls
  | fuel + 1, cls => do
    match ← body cls with
    | .core core => return core.solid.handle
    | .cls info => if info.placed then return cls else solidWithin fuel info.base
    | _ => return Core.object.handle

/-- The class at or above one that was the last to add to what instances hold. -/
def solidOf (cls : Handle) : Run Handle := do solidWithin ((← lineage cls).length + 1) cls

/-- Checks that a class may be extended. -/
def requireBase (base : Handle) : Run Unit := do
  match ← body base with
  | .core core =>
    unless core.isExtensible do
      fail .typeError ("type '" ++ core.name ++ "' is not an acceptable base type")
  | .cls _ => return
  | _ => fail .typeError "bases must be types"

/-- The base that decides what instances hold, given the best one so far and what is solid in it. -/
def bestBaseFrom (best solid : Handle) : List Handle → Run Handle
  | [] => return best
  | base :: rest => do
    requireBase base
    let other ← solidOf base
    if solid.isNull then bestBaseFrom base other rest
    else if ← isSubclass solid other then bestBaseFrom best solid rest
    else if ← isSubclass other solid then bestBaseFrom base other rest
    else fail .typeError "multiple bases have instance lay-out conflict"

/-- The base of a class that decides what instances hold. -/
def bestBase (bases : List Handle) : Run Handle := bestBaseFrom .null .null bases

/-- The class of a class with some bases: the lowest one of a given class and those of the bases. -/
def metaclassOf (given : Handle) (bases : List Handle) : Run Handle :=
  bases.foldlM (fun winner base => do
    let type ← typeOf base
    if ← isSubclass winner type then return winner
    else if ← isSubclass type winner then return type
    else
      fail .typeError ("metaclass conflict: the metaclass of a derived class must be a " ++
        "(non-strict) subclass of the metaclasses of all its bases")) given

/-- Whether instances of a class have attributes of any name. -/
def makesOpen (cls : Handle) : Run Bool := do
  match ← body cls with
  | .cls info => return info.open?
  | .core core => return core.isOpen
  | _ => return false

/-- All classes that programs have declared, the oldest first. -/
def declaredClasses : Run (List (Handle × ClassInfo)) := do
  return (← machine).heap.cells.toList.zipIdx.filterMap fun (content, index) =>
    match content with
    | some ⟨_, .cls info, _, _, _⟩ => some (⟨index + 1⟩, info)
    | _ => none

/-- The classes that extend a class directly. -/
def directSubclasses (cls : Handle) : Run (List Handle) := do
  let built := Core.all.toList.filter fun core =>
    core.parent?.map Core.handle == some cls ||
      (core == .exceptionGroup && cls == Core.exception.handle)
  let declared ← (← declaredClasses).filterM fun (_, info) => do
    return (← itemsOf info.bases).contains cls
  return built.map Core.handle ++ declared.map (·.1)

/-- Gives a class other bases, and new lineages to it and the classes below it. -/
def rebase (cls bases : Handle) : Run Unit := do
  let items ← itemsOf bases
  let base ← bestBase items
  let title ← className cls
  for item in items do
    if ← isSubclass item cls then
      fail .typeError "a __bases__ item causes an inheritance cycle"
  match ← body cls with
  | .cls info =>
    if (← solidOf info.base) ≠ (← solidOf base) ∨ (← makesOpen info.base) ≠ (← makesOpen base) then
      fail .typeError ("__bases__ assignment: '" ++ (← className base) ++
        "' object layout differs from '" ++ (← className info.base) ++ "'")
    let above ← lineageFor cls items
    setBody cls (.cls { info with bases, base, lineage := above })
    for (other, info) in ← declaredClasses do
      if other ≠ cls ∧ info.lineage.contains cls then
        let above ← lineageFor other (← itemsOf info.bases)
        setBody other (.cls { info with lineage := above })
  | _ => fail .typeError ("can only assign tuple to " ++ title ++ ".__bases__, not tuple")

end Run

end ForeignBridge.Foreign
