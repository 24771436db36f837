import ForeignBridge.Foreign.Routines.Builtins
import ForeignBridge.Foreign.Routines.Modules
import ForeignBridge.Foreign.Tree

/-! # Importing modules

A module is looked up among those that have been imported, then loaded: its parent first, then from
the directories of the search path or of its parent. A module on disk is a source text that is
executed once. Every module keeps a record of how it was found.
-/

/-! ## Modules on disk

What the directories hold in which modules are searched: source texts, and directories that are
modules themselves.
-/

namespace ForeignBridge.Foreign.Disk

/-- What a directory holds: the names of modules and their source texts. -/
def files : List String → List (String × String)
  | ["pyfx"] => [("fx_disk", "where = 'pyfx'\n")]
  | ["pyfx2"] => [("fx_disk", "where = 'pyfx2'\n"), ("fx_only2", "value = [1, 'two', None]\n")]
  | _ => []

/-- The directories in a directory. -/
def directories : List String → List String
  | [] => ["pyfx", "pyfx2"]
  | _ => []

/-- The directory that some steps lead to from another one; each step must be a directory. -/
def follow : List String → List String → Option (List String)
  | place, [] => some place
  | place, step :: rest =>
    if step = "" ∨ step = "." then follow place rest
    else if step = ".." then
      match place with
      | [] => none
      | _ => follow place.dropLast rest
    else if (directories place).contains step then follow (place ++ [step]) rest
    else none

/-- The directory of a path, by the names of the directories that lead to it. -/
def directory? (path : String) : Option (List String) :=
  if path.startsWith "/" then none else follow [] (path.splitOn "/")

/-- What a name is in a directory. -/
inductive Found where
  | source (path text : String)
  | directory (path : String)
deriving Repr, Inhabited

/-- What a name is in the directory of a path. A module of its own comes before a directory. -/
def find? (path name : String) : Option Found := do
  let place ← directory? path
  let inner := if path = "" then name else path ++ "/" ++ name
  match (files place).lookup name with
  | some text => return .source (inner ++ ".py") text
  | none => if (directories place).contains name then return .directory inner else none

/-- What a name is in the first of some paths that have it as a module, or else the directories of
that name in all of them. -/
def search (paths : List String) (name : String) : Except (List String) (String × String) :=
  let found := paths.filterMap fun path => find? path name
  match found.findSome? fun one => match one with
      | .source path text => some (path, text)
      | .directory _ => none with
  | some found => .ok found
  | none => .error (found.filterMap fun one => match one with
      | .directory path => some path
      | .source .. => none)

end ForeignBridge.Foreign.Disk

namespace ForeignBridge.Foreign.Run

/-- The name in front of the last dot of a name, and the name after it. -/
def splitName (name : String) : String × String :=
  let parts := name.splitOn "."
  (String.intercalate "." parts.dropLast, parts.getLastD "")

/-- Raises that a module is not found. -/
def missingModule {α : Type} (message : CodePoints) (name : String) : Run α := do
  let text ← newText message
  raise (← newExceptionWith .moduleNotFoundError [text]
    [("msg", text), ("name", ← internString name), ("path", Fixed.none)])

/-- Raises that there is no module of a name. -/
def noModule {α : Type} (name : String) (ending : CodePoints) : Run α :=
  missingModule ((CodePoints.ofString "No module named ").append
    ((CodePoints.ofString name).quoted.append ending)) name

/-- The module imported under a name. -/
def loadedModule? (invoke : Invoke) (name : String) : Run (Option Handle) := do
  dictGet? invoke Fixed.modules (← newString name)

/-! Records of how modules are found. -/

/-- One of the classes of what finds and loads modules. -/
def finderClass (name : String) : Run Handle := do
  return (← getName? Fixed.finderNames name).getD Fixed.none

/-- A record of how a module was found, with the places of the modules inside it, if it may have
any. -/
def newRecord (invoke : Invoke) (name : String) (loader origin : Handle)
    (places : Option Handle) : Run Handle := do
  let made ← invoke (← finderClass "ModuleSpec")
    ⟨[← internString name, loader], [("origin", origin)]⟩
  match places with
  | some places => store made "submodule_search_locations" places
  | none => pure ()
  return made

/-- Notes with a module how it was found. -/
def describeModule (module : Handle) (name : String) (loader record : Handle)
    (places : Option Handle) : Run Unit := do
  store module "__loader__" loader
  store module "__package__" (← internString (if places.isSome then name else (splitName name).1))
  store module "__spec__" record
  match places with
  | some places => store module "__path__" places
  | none => pure ()

/-- Notes with a module that it comes with the interpreter, by the class that loads it and the words
for where it is. -/
def describeOwn (invoke : Invoke) (module : Handle) (name loader origin : String) : Run Unit := do
  let loader ← finderClass loader
  describeModule module name loader
    (← newRecord invoke name loader (← internString origin) none) none

/-! Loading. -/

/-- The texts that an object yields, for a search among them. -/
def searchedPaths (invoke : Invoke) (source : Handle) : Run (List String) := do
  return (← (← iterate invoke source).mapM text?).filterMap fun text =>
    text.bind CodePoints.string?

/-- Loads a module that is a source text. -/
def loadSource (invoke : Invoke) (full path text : String) : Run Handle := do
  let module ← newModule full
  let file ← newString path
  let loader ← invoke (← finderClass "SourceFileLoader") (.of [← internString full, file])
  let record ← newRecord invoke full loader file none
  store record "_set_fileattr" Fixed.true
  describeModule module full loader record none
  store module "__file__" file
  let key ← newString full
  dictSet invoke Fixed.modules key module
  let names ← namesOf module
  giveBuiltins names
  tryCatch (executeText invoke names names path text) fun thrown => do
    let _ ← dictRemove? invoke Fixed.modules key
    throw thrown
  match ← dictRemove? invoke Fixed.modules key with
  | none => raise (← newException .keyError [key])
  | some entry =>
    dictSet invoke Fixed.modules key entry.value
    return entry.value

/-- Makes a module of the directories of its name. -/
def loadDirectories (invoke : Invoke) (full : String) (paths : List String) : Run Handle := do
  let module ← newModule full
  let list ← newList (← paths.mapM newString)
  let places ← invoke (← finderClass "_NamespacePath") (.of [list])
  let loader ← invoke (← finderClass "NamespaceLoader") (.of [← internString full, places])
  let record ← newRecord invoke full loader Fixed.none (some places)
  describeModule module full loader record (some places)
  store module "__file__" Fixed.none
  dictSet invoke Fixed.modules (← newString full) module
  return module

/-- Loads a module from the first of some directories that has it. -/
def loadFrom (invoke : Invoke) (full name : String) (paths : List String) : Run Handle := do
  match Disk.search paths name with
  | .ok (path, text) => loadSource invoke full path text
  | .error [] => noModule full ⟨[]⟩
  | .error found => loadDirectories invoke full found

/-- The directories in which a module inside another one is searched. -/
def placesIn (invoke : Invoke) (parent : Handle) (above full : String) : Run Handle := do
  match ← getAttribute? invoke parent "__path__" with
  | some places => return places
  | none =>
    noModule full ((CodePoints.ofString "; ").append
      ((CodePoints.ofString above).quoted.append (.ofString " is not a package")))

/-- The module of a name, loaded if it has not been, down to some number of dots. -/
def importWithin (invoke : Invoke) : Nat → String → Run Handle
  | 0, name => noModule name ⟨[]⟩
  | fuel + 1, name => do
    match ← loadedModule? invoke name with
    | some found =>
      if found = Fixed.none then
        missingModule (.ofString ("import of " ++ name ++ " halted; None in sys.modules")) name
      else return found
    | none =>
      let (above, last) := splitName name
      if above = "" then
        loadFrom invoke name last
          (← searchedPaths invoke (← getAttribute invoke Fixed.system "path"))
      else
        if (← loadedModule? invoke above).isNone then
          let _ ← importWithin invoke fuel above
        match ← loadedModule? invoke name, ← loadedModule? invoke above with
        | some found, _ => return found
        | none, none => raise (← newException .keyError [← newString above])
        | none, some parent =>
          let places ← placesIn invoke parent above name
          let made ← loadFrom invoke name last (← searchedPaths invoke places)
          match ← loadedModule? invoke above with
          | none => raise (← newException .keyError [← newString above])
          | some parent =>
            let _ ← unlessRaised .attributeError (setAttribute invoke parent last made)
            return made

/-- The module of a name, loaded if it has not been. -/
def importModule (invoke : Invoke) (name : String) : Run Handle :=
  importWithin invoke (name.length + 1) name

/-! The function that import statements call. -/

/-- The name that a name after so many dots stands for, as seen from the module of some names. -/
def absoluteName (invoke : Invoke) (globals : Handle) (level : Nat) (name : String) :
    Run String := do
  let missing : Run String := fail .keyError "'__name__' not in globals"
  let noParent : Run String :=
    fail .importError "attempted relative import with no known parent package"
  if globals.isNull then return ← missing
  match ← body globals with
  | .dict _ => pure ()
  | _ => fail .typeError "globals must be a dict"
  let given (key : String) : Run (Option Handle) := do
    return (← getName? globals key).filter (· != Fixed.none)
  let asText (words : String) (value : Handle) : Run String := do
    match ← text? value with
    | some text => return text.lossy
    | none => fail .typeError words
  let package ← match ← given "__package__", ← given "__spec__" with
    | some package, _ => asText "package must be a string" package
    | none, some record =>
      asText "__spec__.parent must be a string" (← getAttribute invoke record "parent")
    | none, none =>
      match ← getName? globals "__name__" with
      | none => missing
      | some title =>
        let title ← asText "__name__ must be a string" title
        if (← getName? globals "__path__").isSome then pure title else pure (splitName title).1
  if package = "" then return ← noParent
  let parts := package.splitOn "."
  if parts.length < level then
    fail .importError "attempted relative import beyond top-level package"
  let base := String.intercalate "." (parts.take (parts.length + 1 - level))
  return if name = "" then base else base ++ "." ++ name

/-- Imports the modules inside a module that are among some names. -/
def importInside (invoke : Invoke) (module : Handle) (everything : Bool) :
    List Handle → Run Unit
  | [] => return
  | name :: rest => do
    match ← text? name with
    | none =>
      let place ← if everything then
          do pure ((← strText invoke (← getAttribute invoke module "__name__")).lossy ++ ".__all__")
        else pure "``from list''"
      fail .typeError ("Item in " ++ place ++ " must be str, not " ++ (← typeName name))
    | some text =>
      let name := text.lossy
      let missing ← if name = "*" then pure false
        else do pure (← getAttribute? invoke module name).isNone
      if missing then
        let title ← strText invoke (← getAttribute invoke module "__name__")
        let full := title.lossy ++ "." ++ name
        let absent (thrown : Thrown) : Run Bool := do
          let told ← match ← part? thrown.exception "name" with
            | some told => text? told
            | none => pure none
          return (← isA thrown.exception .moduleNotFoundError) &&
            told == some (.ofString full) && (← loadedModule? invoke full) != some Fixed.none
        tryCatch (do let _ ← importModule invoke full) fun thrown => do
          if ← absent thrown then return else throw thrown
      importInside invoke module everything rest

/-- Imports the modules inside a module that are asked for by name. -/
def importListed (invoke : Invoke) (module names : Handle) : Run Unit := do
  let wanted ← iterate invoke names
  let all ← wanted.anyM fun name => do return (← text? name) == some (.ofString "*")
  importInside invoke module false wanted
  if all then
    match ← getAttribute? invoke module "__all__" with
    | some listed => importInside invoke module true (← iterate invoke listed)
    | none => return

/-- The module that an import without a list of names is about: that of the first name. -/
def frontModule (invoke : Invoke) (level : Nat) (name full : String) (module : Handle) :
    Run Handle := do
  let parts := name.splitOn "."
  if parts.length = 1 then return module
  else if level = 0 then importModule invoke (parts.headD "")
  else
    let count := (full.splitOn ".").length + 1 - parts.length
    let front := String.intercalate "." ((full.splitOn ".").take count)
    match ← loadedModule? invoke front with
    | some found => return found
    | none =>
      let shown := (CodePoints.ofString front).quoted
      failText .keyError (shown.append (.ofString " not in sys.modules as expected"))

/-- The function that an import statement calls: the answer is the module of the first name, unless
names are asked for. -/
def importRoutine (invoke : Invoke) (arguments : Arguments) : Run Handle := do
  let arguments ← arrangeNamed "__import__"
    ⟨["name", "globals", "locals", "fromlist", "level"], 0, 1, 0⟩ arguments
  let level ← if (arguments.nth 4).isNull then pure 0 else asSmall invoke (arguments.nth 4)
  match ← text? arguments.first with
  | none => fail .typeError "module name must be a string"
  | some text =>
    let name := text.lossy
    if level < 0 then fail .valueError "level must be >= 0"
    let level := level.toNat
    if level = 0 ∧ name = "" then fail .valueError "Empty module name"
    let full ← if level = 0 then pure name
      else absoluteName invoke arguments.second level name
    let module ← importModule invoke full
    let names := arguments.nth 3
    let named ← if names.isNull then pure false else isTrue invoke names
    if !named then
      frontModule invoke level name full module
    else
      if (← getAttribute? invoke module "__path__").isSome then importListed invoke module names
      return module

/-! Imports for the host. -/

/-- The module of a name as the host imports it: by the function that import statements call, after
which the module must be there. -/
def importNamed (invoke : Invoke) (name : String) : Run Handle := do
  let key ← newString name
  let builtins ← importModule invoke "builtins"
  let globals ← newNamed [("__builtins__", builtins)]
  let importer ← getAttribute invoke builtins "__import__"
  let _ ← invoke importer (.of [key, globals, globals, ← newList [], Fixed.zero])
  match ← loadedModule? invoke name with
  | some found => return found
  | none => raise (← newException .keyError [key])

/-- The module whose names evaluated texts see: the main one, made anew if another object stands in
its place. -/
def mainModule (invoke : Invoke) : Run Handle := do
  let present ← match ← loadedModule? invoke "__main__" with
    | some found => do
      match ← body found with
      | .module => pure (some found)
      | _ => pure none
    | none => pure none
  match present with
  | some main => return main
  | none =>
    let main ← newModule "__main__"
    dictSet invoke Fixed.modules (← newString "__main__") main
    return main

end ForeignBridge.Foreign.Run
