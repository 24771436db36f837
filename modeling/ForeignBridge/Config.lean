import ForeignBridge.Text.Outline

/-! # Configuration

What the first start of the interpreter is told: the entries to put in front of its search path,
and whether its symbols are made visible to other libraries.
-/

namespace ForeignBridge

/-- How to start the interpreter. -/
structure Config where
  /-- Put in front of the search path, the first entry first. -/
  searchPath : List String
  promoteSymbols : Bool
deriving DecidableEq, Repr

namespace Config

/-- The current directory is searched and symbols are visible. -/
def standard : Config := ⟨["."], true⟩

/-- The segments of a list of paths that is separated by colons, empty ones left out. -/
def splitPaths (paths : String) : List String :=
  ((paths.splitOn ":").filter fun segment => !segment.isEmpty)

/-- The configuration for two variables of the environment: the paths to search before the current
directory, and a wish to keep symbols local, whatever its text. -/
def ofVariables (paths localSymbols : Option String) : Config :=
  { searchPath := (paths.map splitPaths).getD [] ++ standard.searchPath
    promoteSymbols := localSymbols.isNone }

/-- The structure of a configuration. -/
def outline (config : Config) : Outline :=
  .struct "Config" [
    ("sys_path", .list (config.searchPath.map .ofString)),
    ("promote_libpython", .ofBool config.promoteSymbols)]

end Config

end ForeignBridge
