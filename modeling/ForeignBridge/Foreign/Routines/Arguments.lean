import ForeignBridge.Foreign.Operations.Label

/-! # Arguments of routines

A routine says how many arguments it takes and which may be named. The arguments of a call are put in
the order of its parameters before it runs; the place of one that is missing holds no object.
-/

namespace ForeignBridge.Foreign

/-- The name of a built-in class without that of its module. -/
def Core.title (core : Core) : String := (core.name.splitOn ".").getLastD core.name

namespace Routine

/-- What a routine is called in a fault. -/
def label (routine : Routine) : String :=
  match routine.owner with
  | .core core => core.title ++ "." ++ routine.name ++ "()"
  | .module module => if module = "builtins" then routine.name ++ "()"
    else module ++ "." ++ routine.name ++ "()"

end Routine

namespace Arguments

/-- The argument at a place; no object if it is missing. -/
def nth (arguments : Arguments) (place : Nat) : Handle := arguments.positional[place]?.getD .null

/-- The first three arguments. -/
def first (arguments : Arguments) : Handle := arguments.nth 0
def second (arguments : Arguments) : Handle := arguments.nth 1
def third (arguments : Arguments) : Handle := arguments.nth 2

/-- How many arguments there are, named ones included. -/
def count (arguments : Arguments) : Nat := arguments.positional.length + arguments.keywords.length

/-- The positional arguments with no objects behind them, up to a number. -/
def padded (arguments : Arguments) (most : Nat) : Arguments :=
  .of (arguments.positional ++ List.replicate (most - arguments.positional.length) .null)

end Arguments

namespace Run

/-- A number of arguments in words. -/
def argumentCount (n : Nat) : String :=
  toString n ++ " argument" ++ (if n = 1 then "" else "s")

/-- Refuses named arguments. -/
def refuseKeywords (title : String) (arguments : Arguments) : Run Unit :=
  if arguments.keywords.isEmpty then return
  else fail .typeError (title ++ "() takes no keyword arguments")

/-- The fault of an argument that is not of the class it must be of. -/
def badArgument {α : Type} (title argument expected : String) (value : Handle) : Run α := do
  let type ← if value = Fixed.none then pure "None" else typeName value
  fail .typeError (title ++ "() " ++ argument ++ " must be " ++ expected ++ ", not " ++ type)

/-- Checks the number of positional arguments of what has a title. -/
def checkBetween (title : String) (least most : Nat) (arguments : Arguments) : Run Unit := do
  let given := arguments.positional.length
  let wrong (bound : Nat) (words : String) : Run Unit :=
    fail .typeError (title ++ " expected " ++ (if least = most then "" else words) ++
      argumentCount bound ++ ", got " ++ toString given)
  if given < least then wrong least "at least "
  if most < given then wrong most "at most "

/-- The same, told in other words. -/
def checkCounted (title : String) (least most : Nat) (arguments : Arguments) : Run Unit := do
  let given := arguments.positional.length
  let wrong (bound : Nat) (words : String) : Run Unit :=
    fail .typeError (title ++ "() takes " ++ (if least = most then "exactly " else words) ++
      argumentCount bound ++ " (" ++ toString given ++ " given)")
  if given < least then wrong least "at least "
  if most < given then wrong most "at most "

/-- The text or the bytes that an argument is as a path. -/
def pathArgument (invoke : Invoke) (value : Handle) : Run Handle := do
  let isPath (handle : Handle) : Run Bool := do return (← isA handle .str) || (← isA handle .bytes)
  if ← isPath value then return value
  match ← callSpecial? invoke value "__fspath__" [] with
  | none =>
    fail .typeError ("expected str, bytes or os.PathLike object, not " ++ (← typeName value))
  | some answer =>
    if ← isPath answer then return answer
    else
      fail .typeError ("expected " ++ (← typeName value) ++
        ".__fspath__() to return str or bytes, not " ++ (← typeName answer))

/-- The arguments for named parameters from a place on. -/
def fillNamed (title : String) (required namedFrom : Nat) (given : Arguments) :
    Nat → List String → Run (List Handle)
  | _, [] => return []
  | place, name :: rest => do
    let found ← match given.keywords.lookup name with
      | some found => pure found
      | none =>
        if place < required ∧ place < namedFrom then
          fail .typeError (title ++ "() missing required argument '" ++ name ++ "' (pos " ++
            toString (place + 1) ++ ")")
        else pure .null
    return found :: (← fillNamed title required namedFrom given (place + 1) rest)

/-- The arguments of a routine with named parameters, in the order of the parameters. -/
def arrangeNamed (title : String) (signature : Signature) (arguments : Arguments) :
    Run Arguments := do
  let given := arguments.positional.length
  let all := signature.names.length
  let most := all - signature.namedOnly
  let least := min signature.required signature.positionalOnly
  if all < arguments.count then
    fail .typeError (title ++ "() takes " ++
      (if signature.required < all then "at most " else "exactly ") ++ toString all ++
      (if given = 0 then " keyword" else "") ++ " argument" ++ (if all = 1 then "" else "s") ++
      " (" ++ toString arguments.count ++ " given)")
  if most < given then
    if most = 0 then fail .typeError (title ++ "() takes no positional arguments")
    else
      fail .typeError (title ++ "() takes " ++
        (if signature.required < most then "at most " else "exactly ") ++ toString most ++
        " positional argument" ++ (if most = 1 then "" else "s") ++ " (" ++ toString given ++
        " given)")
  if given < least then
    fail .typeError (title ++ "() takes " ++ (if least < most then "at least " else "exactly ") ++
      toString least ++ " positional argument" ++ (if least = 1 then "" else "s") ++ " (" ++
      toString given ++ " given)")
  let start := max given signature.positionalOnly
  let named ← fillNamed title signature.required most arguments start (signature.names.drop start)
  let placed := arguments.positional ++ List.replicate (start - given) .null ++ named
  for (key, _) in arguments.keywords do
    unless (signature.names.drop start).contains key do
      let place := signature.names.idxOf key
      if signature.positionalOnly ≤ place ∧ place < given then
        fail .typeError ("argument for " ++ title ++ "() given by name ('" ++ key ++
          "') and position (" ++ toString (place + 1) ++ ")")
      else
        fail .typeError ("'" ++ key ++ "' is an invalid keyword argument for " ++ title ++ "()")
  return .of placed

/-- The arguments of a routine in the order of its parameters, given what the routine is called in a
fault. -/
def arrange (routine : Routine) (label : String) (arguments : Arguments) : Run Arguments := do
  let given := arguments.positional.length
  let isSlot := routine.flavour == .slot
  let noKeywords : Run Unit := do
    unless arguments.keywords.isEmpty do
      if isSlot then
        fail .typeError ("wrapper " ++ routine.name ++ "() takes no keyword arguments")
      else fail .typeError (label ++ " takes no keyword arguments")
  let inSlot (count : Nat) : Run Unit := do
    if given ≠ count then
      fail .typeError ("expected " ++ argumentCount count ++ ", got " ++ toString given)
  match routine.arity with
  | .free => return arguments
  | .none =>
    noKeywords
    if isSlot then inSlot 0
    else if given ≠ 0 then
      fail .typeError (label ++ " takes no arguments (" ++ toString given ++ " given)")
    return .of []
  | .one =>
    noKeywords
    if isSlot then inSlot 1
    else if given ≠ 1 then
      fail .typeError (label ++ " takes exactly one argument (" ++ toString given ++
        " given)")
    return .of arguments.positional
  | .between least most =>
    noKeywords
    checkBetween (if isSlot then "" else routine.name) least most arguments
    return arguments.padded most
  | .counted least most =>
    noKeywords
    checkCounted routine.name least most arguments
    return arguments.padded most
  | .named signature => arrangeNamed routine.name signature arguments

end Run

end ForeignBridge.Foreign
