import ForeignBridge.Bridge.Objects
import ForeignBridge.Config

/-! # Starting and running

The interpreter is started once: the first start that succeeds makes the session, and later ones
find it. A start looks up what values are recognised by and puts entries in front of the search
path; if anything is missing there is no session.
-/

namespace ForeignBridge.Bridge

open Foreign (Run)
open Foreign.Run (call callWithin)

/-- The module of a name. -/
def importModule (name : String) : Bridge Handle := do
  requireNoNul name
  orThrow (attemptOwned (Run.importNamed call name)) (.moduleNotFound name)

/-- An attribute that the interpreter cannot be started without. -/
def requireAttribute (module : Handle) (moduleName name : String) : Bridge Handle := do
  match ← getAttribute module name with
  | some value => return value
  | none => throw (.bootstrap (moduleName ++ "." ++ name ++ " is missing"))

/-- Goes on with a built-in name, whose reference is given back if that fails. -/
def withBuiltin {α : Type} (builtins : Handle) (name : String) (next : Handle → Bridge α) :
    Bridge α := do
  let value ← requireAttribute builtins "builtins" name
  elseRelease [value] (next value)

/-- Puts entries in front of a list of the interpreter, the last one first. -/
def insertEntries (path : Handle) : List String → Bridge Unit
  | [] => return
  | entry :: rest => do
    insertEntries path rest
    let answer ← callMethod path "insert" [.int 0, .text entry] []
    release answer

/-- Puts entries in front of the search path, in their order. -/
def extendSearchPath (entries : List String) : Bridge Unit := do
  if entries.isEmpty then return
  let module ← importModule "sys"
  thenRelease [module] do
    let path ← requireAttribute module "sys" "path"
    thenRelease [path] (insertEntries path entries)

/-- Starts the interpreter. The host keeps a reference to each object of the session. -/
def bootstrap (config : Config) : Bridge Session := do
  let builtins ← importModule "builtins"
  elseRelease [builtins] <|
    withBuiltin builtins "None" fun none =>
    withBuiltin builtins "bool" fun boolClass =>
    withBuiltin builtins "int" fun intClass =>
    withBuiltin builtins "float" fun floatClass =>
    withBuiltin builtins "str" fun strClass =>
    withBuiltin builtins "list" fun listClass =>
    withBuiltin builtins "dict" fun dictClass => do
      extendSearchPath config.searchPath
      return { builtins, none, boolClass, intClass, floatClass, strClass, listClass, dictClass }

/-- The session, started as configured unless there is one. -/
def startWith (config : Config) : Bridge Session := do
  match (← get).session with
  | some session => return session
  | none =>
    let session ← bootstrap config
    modify ({ · with session := some session })
    return session

/-- The session, started as the environment says unless there is one. -/
def start : Bridge Session := do
  let environment := (← get).environment
  startWith (.ofVariables environment.paths environment.localSymbols)

/-- The dictionary of the names that evaluated texts see, the built-in ones among them. -/
def mainNames : Run Handle := do
  let names ← Run.namesOf (← Run.mainModule call)
  Run.giveBuiltins names
  return names

/-- The object that an expression evaluates to. -/
def eval (source : String) : Bridge Handle := do
  requireNoNul source
  let result ← attemptOwned do
    let names ← mainNames
    Run.evaluateText callWithin names names source
  settledObject result

/-- Notes an exception of a class where the interpreter keeps the last one. -/
def noteLast (cls : Handle) (thrown : Foreign.Thrown) : Run Unit := do
  if thrown.frames.isEmpty then Run.dropPart thrown.exception "__traceback__"
  else Run.keepTraceback thrown
  let traceback ← Run.tracebackObject thrown.exception
  Run.store Foreign.Fixed.system "last_type" cls
  Run.store Foreign.Fixed.system "last_value" thrown.exception
  Run.store Foreign.Fixed.system "last_traceback" traceback

/-- Notes the exception that ended some statements where the interpreter can find it. -/
def reportPending : Act Unit := do
  let world ← get
  match world.pending with
  | none => return
  | some thrown =>
    let _ ← onMachine (noteLast (world.classOf thrown.exception) thrown)
    clear

/-- Executes statements. The interpreter itself reports what goes wrong. -/
def run (source : String) : Bridge Unit := do
  requireNoNul source
  let done ← attempt do
    let names ← mainNames
    Run.executeText callWithin names names "<string>" source
  if done.isNone then
    reportPending
    throw .script

end ForeignBridge.Bridge
