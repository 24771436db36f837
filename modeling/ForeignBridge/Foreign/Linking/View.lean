import ForeignBridge.Foreign.Linking.Mentions
import ForeignBridge.Foreign.Token

/-! # Views

The view of a piece of code says where each name in it is looked up. A function sees its own
variables, shares some of them with the functions inside it, and shares variables of the functions
around it; all other names are those of the module. A class sees the names that it has bound so far.
-/

namespace ForeignBridge.Foreign

/-- Where the names of a piece of code belong. -/
structure View where
  kind : CodeKind
  /-- The class around the code, whose private names have its name in front. -/
  cls : Option String
  /-- The variables of its own. -/
  own : List String
  /-- The variables of its own that functions inside share. -/
  cells : List String
  /-- The variables that it shares with functions around. -/
  free : List String
  /-- The names that it binds. -/
  bound : List String
  /-- The names that it declares as those of the module. -/
  declared : List String
  /-- The names that it declares as those of a function around. -/
  outers : List String
  /-- The variables that functions inside may share. -/
  visible : List String
  /-- The name of the code with those around it. -/
  path : String
  inFunction : Bool
  inLoop : Bool
  /-- What an assignment inside a comprehension binds is around it. -/
  carried : List String
  /-- Whether it is the body of a comprehension. -/
  gathering : Bool
deriving Inhabited

namespace View

/-- The view of a text. -/
def ofText (mentions : List Mention) : View :=
  { kind := .module, cls := none, own := [], cells := [], free := [], bound := [],
    declared := mentions.filterMap Mention.globalName?, outers := [], visible := [], path := "",
    inFunction := false, inLoop := false, carried := [], gathering := false }

/-- The name of a piece of code with those around it. -/
def nameInside (view : View) (name : String) : String :=
  if view.declared.contains name then name
  else
    match view.kind with
    | .module => name
    | .cls => view.path ++ "." ++ name
    | _ => view.path ++ ".<locals>." ++ name

/-- Names in the order of their letters. -/
def sorted (names : List String) : List String :=
  names.mergeSort fun a b => decide (a < b) || a == b

/-- The view of a function inside another piece of code. -/
def ofFunction (outer : View) (kind : CodeKind) (scope : ScopeKind) (name : String)
    (parameters : List String) (mentions : List Mention) : View :=
  let inComprehension := scope == .comprehension
  let declared := mentions.filterMap Mention.globalName?
  let outers := mentions.filterMap Mention.outerName?
  let bound := withoutNames
    (mergeNames parameters (mentions.flatMap (Mention.boundName inComprehension)))
    (declared ++ outers)
  let inside := Mention.freeAll mentions
  let free := (Mention.free (.scope scope parameters mentions)).filter outer.visible.contains
  let cells := bound.filter inside.contains
  let carried := if inComprehension then Mention.carriedNamesAll mentions else []
  { kind, cls := outer.cls, own := bound, cells := sorted cells, free := sorted free, bound, declared,
    outers, visible := mergeNames (withoutNames outer.visible declared) bound,
    path := outer.nameInside name, inFunction := true, inLoop := false, carried,
    gathering := inComprehension }

/-- The view of a class inside another piece of code. -/
def ofClass (outer : View) (name : String) (mentions : List Mention) : View :=
  let declared := mentions.filterMap Mention.globalName?
  let outers := mentions.filterMap Mention.outerName?
  let bound := withoutNames (mergeNames [] (mentions.flatMap (Mention.boundName false)))
    (declared ++ outers)
  let inside := Mention.freeAll mentions
  let free := (Mention.free (.scope .cls [] mentions)).filter outer.visible.contains
  { kind := .cls, cls := some name, own := [], free := sorted free, bound, declared, outers,
    cells := if inside.contains "__class__" then ["__class__"] else [],
    visible := mergeNames outer.visible ["__class__"], path := outer.nameInside name,
    inFunction := false, inLoop := false, carried := [], gathering := false }

/-- Where a name is looked up. -/
def place (view : View) (name : String) : Place :=
  match view.kind with
  | .module => if view.declared.contains name then .global else .named
  | .cls =>
    if view.declared.contains name then .global
    else if view.outers.contains name then .shared
    else if !view.bound.contains name && view.free.contains name then .around
    else .named
  | _ =>
    if view.cells.contains name || view.free.contains name then .shared
    else if view.own.contains name then .own
    else .global

end View

/-! The faults of declarations are found scope by scope. -/
namespace Mention

/-- Whether a mention is about a name. -/
def isAbout (name : String) : Mention → Bool
  | .bound other | .used other | .carried other | .annotated other => other == name
  | _ => false

/-- Why a declaration may not come after the mentions before it. -/
def lateDeclaration? (word : String) (parameters : List String) (before : List Mention)
    (name : String) : Option String :=
  if parameters.contains name then some ("name '" ++ name ++ "' is parameter and " ++ word)
  else if before.any fun mention => match mention with
      | .used other => other == name
      | _ => false
    then some ("name '" ++ name ++ "' is used prior to " ++ word ++ " declaration")
  else if before.any fun mention => match mention with
      | .annotated other => other == name
      | _ => false
    then some ("annotated name '" ++ name ++ "' can't be " ++ word)
  else if before.any (isAbout name) then
    some ("name '" ++ name ++ "' is assigned to before " ++ word ++ " declaration")
  else none

/-- The first name that comes again in a list. -/
def repeated? : List String → Option String
  | [] => none
  | name :: rest => if rest.contains name then some name else repeated? rest

mutual

/-- The first fault of the declarations of a scope, given the mentions before, the last one first. -/
def fault? (kind : Option ScopeKind) (visible parameters : List String) (before : List Mention) :
    List Mention → Option (String × Nat)
  | [] => none
  | mention :: rest =>
    let here : Option (String × Nat) := match mention with
      | .global name line =>
        (lateDeclaration? "global" parameters before name).map fun message => (message, line)
      | .outer name line =>
        match lateDeclaration? "nonlocal" parameters before name with
        | some message => some (message, line)
        | none =>
          if kind.isNone then some ("nonlocal declaration not allowed at module level", line)
          else if !visible.contains name then
            some ("no binding for nonlocal '" ++ name ++ "' found", line)
          else none
      | .handed line =>
        match kind with
        | none | some .cls => some ("'yield' outside function", line)
        | some .comprehension => some ("'yield' inside comprehension", line)
        | _ => none
      | _ => none
    match here with
    | some found => some found
    | none =>
      match scopeFault? kind visible parameters (before ++ mention :: rest) mention with
      | some found => some found
      | none => fault? kind visible parameters (mention :: before) rest

/-- The first fault inside a scope that is mentioned. -/
def scopeFault? (kind : Option ScopeKind) (visible parameters : List String)
    (around : List Mention) : Mention → Option (String × Nat)
  | .scope inner given mentions =>
    match repeated? given with
    | some name => some ("duplicate argument '" ++ name ++ "' in function definition", 0)
    | none =>
      let seen := match kind with
        | none | some .cls => visible
        | some _ =>
          mergeNames (mergeNames visible parameters) (around.flatMap (boundName false))
      fault? (some inner) (if inner = .cls then mergeNames seen ["__class__"] else seen) given []
        mentions
  | _ => none

end

end Mention

end ForeignBridge.Foreign
