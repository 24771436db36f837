import ForeignBridge.Foreign.Execution.Places

/-! # Parameters

How the arguments of a call become the variables of a function. Positional arguments come first, then
those with names, then defaults; an argument without a parameter and a parameter without an argument
are faults.
-/

namespace ForeignBridge.Foreign.Run

/-- Words in quotes with commas between them. -/
def listed : List String → String
  | [] => ""
  | [only] => "'" ++ only ++ "'"
  | [first, last] => "'" ++ first ++ "' and '" ++ last ++ "'"
  | names =>
    String.intercalate ", " (names.dropLast.map fun name => "'" ++ name ++ "'") ++ ", and '" ++
      names.getLastD "" ++ "'"

/-- The ending of a word for a number of things. -/
def plural (n : Nat) : String := if n = 1 then "" else "s"

/-- The fault of more positional arguments than parameters. -/
def tooMany {α : Type} (title : String) (count defaults given keywordOnly : Nat) : Run α := do
  let expected := if defaults = 0 then toString count
    else "from " ++ toString (count - defaults) ++ " to " ++ toString count
  let ending := if defaults = 0 then plural count else "s"
  let extra := if keywordOnly = 0 then ""
    else " positional argument" ++ plural given ++ " (and " ++ toString keywordOnly ++
      " keyword-only argument" ++ plural keywordOnly ++ ")"
  let verb := if given = 1 ∧ keywordOnly = 0 then "was" else "were"
  fail .typeError (title ++ "() takes " ++ expected ++ " positional argument" ++
    ending ++ " but " ++ toString given ++ extra ++ " " ++ verb ++ " given")

/-- The fault of parameters without an argument. -/
def missingArguments {α : Type} (title kind : String) (names : List String) : Run α :=
  fail .typeError (title ++ "() missing " ++ toString names.length ++ " required " ++
    kind ++ " argument" ++ plural names.length ++ ": " ++ listed names)

/-- Gives the named arguments of a call to parameters; what has no parameter is left over. -/
def giveKeywords (title : String) (code : Code) (given : List (String × Handle)) :
    List (String × Handle) → List (String × Handle) → List (String × Handle) →
      Run (List (String × Handle) × List (String × Handle))
  | [], bound, rest => return (bound, rest)
  | (name, value) :: more, bound, rest =>
    if (code.positional.drop code.positionalOnly ++ code.keywordOnly).contains name then
      if (bound.lookup name).isSome then
        fail .typeError (title ++ "() got multiple values for argument '" ++ name ++ "'")
      else giveKeywords title code given more (bound ++ [(name, value)]) rest
    else if code.keywords.isSome then
      giveKeywords title code given more bound (rest ++ [(name, value)])
    else
      let misplaced := (code.positional.take code.positionalOnly).filter fun name =>
        (given.lookup name).isSome
      if misplaced.isEmpty then
        fail .typeError (title ++ "() got an unexpected keyword argument '" ++ name ++ "'")
      else
        fail .typeError (title ++
          "() got some positional-only arguments passed as keyword arguments: '" ++
          String.intercalate ", " misplaced ++ "'")

/-- The defaults of a function's positional parameters. -/
def defaultsOf (info : FunctionInfo) : Run (List Handle) := do
  if info.defaults.isNull then return [] else itemsOf info.defaults

/-- The defaults of a function's named parameters. -/
def keywordDefaultsOf (info : FunctionInfo) : Run (List (String × Handle)) := do
  if info.keywordDefaults.isNull then return [] else namesIn info.keywordDefaults

/-- The variables that a function starts with. -/
def bindArguments (info : FunctionInfo) (code : Code) (arguments : Arguments) :
    Run (List (String × Handle)) := do
  let title := info.qualifiedName
  let count := code.positional.length
  let given := arguments.positional.length
  let bound := code.positional.zip arguments.positional
  let (bound, rest) ← giveKeywords title code arguments.keywords arguments.keywords bound []
  let defaults ← defaultsOf info
  if count < given ∧ code.rest.isNone then
    let keywordGiven := (code.keywordOnly.filter fun name => (bound.lookup name).isSome).length
    tooMany title count defaults.length given keywordGiven
  let usual := (code.positional.drop (count - defaults.length)).zip
    (defaults.drop (defaults.length - count))
  let bound := bound ++ usual.filter fun pair => (bound.lookup pair.1).isNone
  let absent := code.positional.filter fun name => (bound.lookup name).isNone
  unless absent.isEmpty do missingArguments title "positional" absent
  let keywordDefaults ← keywordDefaultsOf info
  let bound := bound ++ keywordDefaults.filter fun pair =>
    (bound.lookup pair.1).isNone && code.keywordOnly.contains pair.1
  let absent := code.keywordOnly.filter fun name => (bound.lookup name).isNone
  unless absent.isEmpty do missingArguments title "keyword-only" absent
  let bound ← match code.rest with
    | some name => do pure (bound ++ [(name, ← newTuple (arguments.positional.drop count))])
    | none => pure bound
  match code.keywords with
  | some name => return bound ++ [(name, ← newNamed rest)]
  | none => return bound

end ForeignBridge.Foreign.Run
