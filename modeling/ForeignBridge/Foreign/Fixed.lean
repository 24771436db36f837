import ForeignBridge.Foreign.Catalog
import ForeignBridge.Foreign.Heap

/-! # Fixed objects

The objects that are in memory from the start and for good: the built-in classes, the singletons,
small integers, short texts and bytes, the modules that the interpreter itself needs, and the
routines. Each has its address once and for all.
-/

namespace ForeignBridge.Foreign

namespace Fixed

/-- How many built-in classes there are. -/
def classes : Nat := Core.all.size

def none : Handle := ⟨classes + 1⟩
def notImplemented : Handle := ⟨classes + 2⟩
def ellipsis : Handle := ⟨classes + 3⟩
def false : Handle := ⟨classes + 4⟩
def true : Handle := ⟨classes + 5⟩
def emptyTuple : Handle := ⟨classes + 6⟩
def emptyBytes : Handle := ⟨classes + 7⟩

/-- The least of the integers that have a fixed address. -/
def leastInt : Int := -5

/-- How many integers have a fixed address. -/
def intCount : Nat := 262

/-- The object of a small integer. -/
def int? (n : Int) : Option Handle :=
  if leastInt ≤ n ∧ n < leastInt + intCount then some ⟨classes + 8 + (n - leastInt).toNat⟩
  else .none

/-- The integers zero and one. -/
def zero : Handle := (int? 0).getD none
def one : Handle := (int? 1).getD none

/-- The object of the text without characters. -/
def emptyText : Handle := ⟨classes + 8 + intCount⟩

/-- The object of a text without characters or with one of the first 256. -/
def text? (text : CodePoints) : Option Handle :=
  match text.codes with
  | [] => some emptyText
  | [code] => if code < 256 then some ⟨classes + 9 + intCount + code⟩ else .none
  | _ => .none

/-- The object of no bytes or of a single one. -/
def bytes? : List Nat → Option Handle
  | [] => some emptyBytes
  | [byte] => some ⟨classes + 9 + intCount + 256 + byte⟩
  | _ => .none

/-- How many objects come before the modules. -/
def constants : Nat := classes + 8 + intCount + 512

/-- The module of built-in names. -/
def builtins : Handle := ⟨constants + 1⟩

/-- The module whose names evaluated texts see. -/
def mainModule : Handle := ⟨constants + 2⟩

/-- The module of the interpreter itself. -/
def system : Handle := ⟨constants + 3⟩

/-- The dictionary of modules that have been imported. -/
def modules : Handle := ⟨constants + 4⟩

/-- The list of directories in which modules are searched at first. -/
def searchPath : Handle := ⟨constants + 5⟩

/-- The dictionaries of the names of these modules. -/
def builtinNames : Handle := ⟨constants + 6⟩
def mainNames : Handle := ⟨constants + 7⟩
def systemNames : Handle := ⟨constants + 8⟩

/-- The module of what finds and loads modules, and the dictionary of its names. -/
def finders : Handle := ⟨constants + 9⟩
def finderNames : Handle := ⟨constants + 10⟩

/-- The object of the routine at an index. -/
def routine (index : Nat) : Handle := ⟨constants + 11 + index⟩

/-- The class of a routine when it is reached through its own class. -/
def routineClass : Flavour → Core
  | .method => .methodDescriptor
  | .slot => .wrapperDescriptor
  | .classMethod => .classMethodDescriptor
  | .alone => .builtinFunction
  | .value => .attributeDescriptor
  | .part => .memberDescriptor

/-- A module whose names are in a dictionary. -/
def moduleCell (names : Handle) : Cell := ⟨Core.module.handle, .module, [], some names, []⟩

/-- The cells of all fixed objects, in the order of their addresses. The modules are still empty. -/
def cells : Array Cell :=
  Core.all.map (fun core => .ofCore .type (.core core)) ++
    #[.ofCore .noneType .plain, .ofCore .notImplementedType .plain, .ofCore .ellipsisType .plain,
      .ofCore .bool (.int 0), .ofCore .bool (.int 1), .ofCore .tuple (.tuple []),
      .ofCore .bytes (.bytes [])] ++
    (Array.range intCount).map (fun (i : Nat) => Cell.ofCore .int (.int (leastInt + (i : Int)))) ++
    #[.ofCore .str (.text ⟨[]⟩)] ++
    (Array.range 256).map (fun code => Cell.ofCore .str (.text ⟨[code]⟩)) ++
    (Array.range 256).map (fun byte => Cell.ofCore .bytes (.bytes [byte])) ++
    #[moduleCell builtinNames, moduleCell mainNames, moduleCell systemNames,
      .ofCore .dict (.dict .empty), .ofCore .list (.list []), .ofCore .dict (.dict .empty),
      .ofCore .dict (.dict .empty), .ofCore .dict (.dict .empty), moduleCell finderNames,
      .ofCore .dict (.dict .empty)] ++
    Routine.all.map (fun routine => .ofCore (routineClass routine.flavour) (.routine routine))

/-- The memory before anything has run. -/
def heap : Heap := ⟨cells.map some, cells.size⟩

/-- The routines by the place of their class among the classes, each with its name and object. -/
def routineTable : Array (List (String × Handle)) :=
  let empty : Array (List (String × Handle)) := Array.replicate classes []
  (Routine.all.toList.zipIdx.reverse).foldl (fun table (found, index) =>
    match found.owner with
    | .core core => table.modify core.ctorIdx ((found.name, routine index) :: ·)
    | .module _ => table) empty

end Fixed

/-- The attribute of a built-in class under a name. Instances of some classes have no hash. -/
def Core.attribute? (core : Core) (name : String) : Option Handle :=
  if name = "__hash__" ∧ core ∈ [list, dict, set, slice, byteArray, dictKeys, dictItems, mappingProxy]
      then
    some Fixed.none
  else (Fixed.routineTable[core.ctorIdx]?.getD []).lookup name

/-- The functions of a module that are routines. -/
def Routine.ofModule (name : String) : List (String × Handle) :=
  all.toList.zipIdx.filterMap fun (found, index) =>
    if found.owner = .module name then some (found.name, Fixed.routine index) else none

end ForeignBridge.Foreign
