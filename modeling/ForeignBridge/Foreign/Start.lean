import ForeignBridge.Foreign.Importing.Abstract
import ForeignBridge.Foreign.Importing.Finders
import ForeignBridge.Foreign.Importing.Paths
import ForeignBridge.Foreign.Prelude
import ForeignBridge.Foreign.Settle

/-! # The start

The machine as it is before the first text is evaluated: the modules that come with the interpreter
are there, and the prelude has been executed in the main module.
-/

namespace ForeignBridge.Foreign

namespace Frame

/-- The surroundings in which no code is being executed. -/
def outside : Frame := ofNames .null

end Frame

namespace Run

/-- Counts a module among those that have been imported. -/
def register (name : String) (module : Handle) : Run Unit := do
  dictSet call Fixed.modules (← internString name) module

/-- Gives a module that is there from the start its usual attributes. -/
def nameFixed (module : Handle) (name : String) (documentation : Handle) : Run Unit := do
  nameModule module (← internString name) documentation

/-- Puts the functions of a module that are routines into it. -/
def storeRoutines (module : Handle) (name : String) : Run Unit := do
  for (key, routine) in Routine.ofModule name do store module key routine

/-- Puts texts into a module under names. -/
def storeTexts (module : Handle) (texts : List (String × String)) : Run Unit := do
  for (key, text) in texts do store module key (← internString text)

/-- A new module that comes with the interpreter, given what loads it and the words for where it
is. -/
def newOwnModule (name found loader origin : String) : Run Handle := do
  let module ← newModule name
  store module "__doc__" Fixed.emptyText
  describeOwn call module found loader origin
  return module

/-- Executes a text of the library in a module. -/
def executeLibrary (module : Handle) (file : String) (lines : List String) : Run Unit := do
  let names ← namesOf module
  executeText call names names file (String.join (lines.map (· ++ "\n")))

/-- Fills the module of what finds and loads modules. -/
def fillFinders : Run Unit := do
  nameFixed Fixed.finders "_frozen_importlib" Fixed.emptyText
  executeLibrary Fixed.finders "<frozen importlib._bootstrap>" Library.finders
  describeOwn call Fixed.finders "_frozen_importlib" "FrozenImporter" "frozen"
  register "_frozen_importlib" Fixed.finders

/-- Fills the module of built-in names. -/
def fillBuiltins : Run Unit := do
  let module := Fixed.builtins
  nameFixed module "builtins" Fixed.emptyText
  for (key, value) in [("None", Fixed.none), ("True", Fixed.true), ("False", Fixed.false),
      ("Ellipsis", Fixed.ellipsis), ("NotImplemented", Fixed.notImplemented),
      ("__debug__", Fixed.true), ("EnvironmentError", Core.osError.handle),
      ("IOError", Core.osError.handle)] do
    store module key value
  for core in Core.all do
    if core.isNamed then store module core.name core.handle
  storeRoutines module "builtins"
  register "builtins" module

/-- Fills the module of the interpreter. -/
def fillSystem : Run Unit := do
  let module := Fixed.system
  nameFixed module "sys" Fixed.emptyText
  store module "path" Fixed.searchPath
  store module "modules" Fixed.modules
  store module "maxsize" (← newInt (twoTo 63 - 1))
  store module "maxunicode" (← newInt 0x10FFFF)
  storeTexts module [("byteorder", "little"), ("platform", "linux")]
  storeRoutines module "sys"
  setBody Fixed.searchPath (.list [← newString "/usr/lib", ← newString "/usr/lib/modules"])
  register "sys" module

/-- Makes the module of mathematics. -/
def makeMathematics : Run Unit := do
  let module ← newOwnModule "math" "math" "BuiltinImporter" "built-in"
  for (key, bits) in [("pi", 0x400921FB54442D18), ("e", 0x4005BF0A8B145769),
      ("tau", 0x401921FB54442D18), ("inf", 0x7FF0000000000000), ("nan", 0x7FF8000000000000)] do
    store module key (← newFloat ⟨UInt64.ofNat bits⟩)
  storeRoutines module "math"
  register "math" module

/-- Makes the modules of the operating system. -/
def makeOperatingSystem : Run Unit := do
  let module ← newOwnModule "os" "os" "FrozenImporter" "frozen"
  let common ← newOwnModule "genericpath" "genericpath" "FrozenImporter" "frozen"
  let path ← newOwnModule "posixpath" "posixpath" "FrozenImporter" "frozen"
  let texts : List (String × String) :=
    [("sep", "/"), ("curdir", "."), ("pardir", ".."), ("extsep", "."), ("pathsep", ":"),
     ("defpath", "/bin:/usr/bin"), ("devnull", "/dev/null")]
  for target in [module, path] do
    storeTexts target texts
    store target "altsep" Fixed.none
  storeTexts module [("name", "posix"), ("linesep", "\n")]
  store module "path" path
  storeRoutines module "posix"
  store common "os" module
  executeLibrary common "<frozen genericpath>" Library.genericPaths
  store path "os" module
  store path "genericpath" common
  match ← own? common "commonprefix" with
  | some function => store path "commonprefix" function
  | none => pure ()
  executeLibrary path "<frozen posixpath>" Library.paths
  register "genericpath" common
  register "posixpath" path
  register "os.path" path
  register "os" module

/-- Makes the module of tracebacks. Its function is written in the language. -/
def makeTraceback : Run Unit := do
  let module ← newOwnModule "traceback" "traceback" "FrozenImporter" "frozen"
  storeRoutines module "traceback"
  executeLibrary module "traceback" ["def format_tb(tb, limit=None):", "    return lines(tb, limit)"]
  register "traceback" module

/-- Makes the modules of abstract classes and of collections. -/
def makeCollections : Run Unit := do
  let abstract ← newOwnModule "abc" "abc" "FrozenImporter" "frozen"
  executeLibrary abstract "<frozen abc>" Library.abstractClasses
  register "abc" abstract
  let containers ← newOwnModule "collections.abc" "_collections_abc" "FrozenImporter" "frozen"
  for name in ["ABCMeta", "abstractmethod"] do
    match ← own? abstract name with
    | some found => store containers name found
    | none => pure ()
  store containers "GenericAlias" Core.genericAlias.handle
  executeLibrary containers "<frozen _collections_abc>" Library.containers
  register "_collections_abc" containers
  let module ← newOwnModule "collections" "collections" "FrozenImporter" "frozen"
  store module "__package__" (← internString "collections")
  store module "__path__" (← newList [])
  store module "abc" containers
  register "collections" module
  register "collections.abc" containers

/-- Fills the main module. -/
def fillMain : Run Unit := do
  nameFixed Fixed.mainModule "__main__" Fixed.none
  store Fixed.mainModule "__loader__" (← finderClass "BuiltinImporter")
  store Fixed.mainModule "__builtins__" Fixed.builtins
  register "__main__" Fixed.mainModule
  executeText call Fixed.mainNames Fixed.mainNames "<prelude>" prelude

/-- Everything that is done before the first text is evaluated. -/
def start : Run Unit := do
  fillBuiltins
  fillSystem
  fillFinders
  describeOwn call Fixed.builtins "builtins" "BuiltinImporter" "built-in"
  describeOwn call Fixed.system "sys" "BuiltinImporter" "built-in"
  makeMathematics
  makeOperatingSystem
  makeTraceback
  makeCollections
  fillMain

end Run

namespace Machine

/-- A machine on which nothing has run. -/
def bare : Machine where
  heap := Fixed.heap
  line := 0
  frame := .outside
  writing := []
  handling := none
  interned := []
  finalizers := false
  finalized := []

/-- The machine before the first text is evaluated. All its objects stay. -/
def start : Machine :=
  let machine := (Run.start.on bare).2.reclaim []
  { machine with heap := { machine.heap with base := machine.heap.cells.size } }

end Machine

end ForeignBridge.Foreign
