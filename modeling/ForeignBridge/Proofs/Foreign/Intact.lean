import ForeignBridge.Proofs.Foreign.Attributes

/-! # Machines in working order

What a start of the interpreter relies on, whatever has become of the built-in names that it looks up and
of the search path: the modules that it asks for are there, the function that import statements call is
in its place, and what stands for the search path, if anything does, is a list.
-/

namespace ForeignBridge.Foreign

namespace Fixed

/-- What comes after the constants is none of them. -/
private theorem ne_none {handle : Handle} (later : constants < handle.address) : handle ≠ none := by
  rintro rfl
  have before : none.address ≤ constants := by
    rw [show none.address = classes + 1 from rfl,
      show constants = classes + 8 + intCount + 512 from rfl]
    omega
  exact Nat.not_lt.mpr before later

theorem builtins_ne_none : builtins ≠ none := ne_none (Nat.lt_add_of_pos_right (Nat.succ_pos 0))

theorem system_ne_none : system ≠ none := ne_none (Nat.lt_add_of_pos_right (Nat.succ_pos 2))

theorem not_isContainer_module (names : Handle) : ¬ (moduleCell names).IsContainer := by
  rintro (same | same) <;> cases Core.handle_inj.mp same

private theorem standing_inj {i j : ℕ}
    (same : (⟨constants + i⟩ : Handle) = ⟨constants + j⟩) : i = j :=
  Nat.add_left_cancel (congrArg Handle.address same)

theorem modules_ne_builtinNames : modules ≠ builtinNames := fun same => by
  cases standing_inj (i := 4) (j := 6) same

theorem modules_ne_systemNames : modules ≠ systemNames := fun same => by
  cases standing_inj (i := 4) (j := 8) same

theorem builtinNames_ne_systemNames : builtinNames ≠ systemNames := fun same => by
  cases standing_inj (i := 6) (j := 8) same

end Fixed

/-- What stands for names is no list. -/
theorem Heap.Names.ne_list {heap : Heap} {dict list : Handle} {names : NameList} {body : Body}
    (named : heap.Names dict names) (found : heap.get? list = some (.ofCore .list body)) :
    list ≠ dict := by
  rintro rfl
  obtain ⟨⟨content, there, _⟩, _⟩ := named
  rw [found, Option.some.injEq] at there
  cases Core.handle_inj.mp (congrArg Cell.type there)

/-- The function that import statements call. -/
def Routine.importer : Routine := ⟨.module "builtins", "__import__", .alone, .free⟩

/-- The names that all modules have. -/
def moduleAttributes : List String :=
  "__hash__" :: (Catalog.ofCore .module ++ Catalog.ofCore .object).map (·.1)

/-- No class of modules has any other name. -/
theorem findSome?_module {name : String} (other : name ∉ moduleAttributes) :
    Core.module.lineage.findSome? (·.attribute? name) = none := by
  simp only [moduleAttributes, List.map_append, List.mem_cons, List.mem_append, not_or] at other
  obtain ⟨plain, inModule, inObject⟩ := other
  have absent {core : Core} (unlisted : name ∉ (Catalog.ofCore core).map (·.1)) :
      core.attribute? name = none :=
    Core.attribute?_eq_none plain fun line member same =>
      unlisted (List.mem_map.mpr ⟨line, member, same⟩)
  rw [show Core.module.lineage = [.module, .object] from rfl, List.findSome?_cons, absent inModule,
    List.findSome?_cons, absent inObject, List.findSome?_nil]

/-- The built-in names that the host looks up, in the order in which it does. -/
def neededNames : List String := ["None", "bool", "int", "float", "str", "list", "dict"]

/-- The names that the host looks up are none that all modules have. -/
theorem plain_of_needed : ∀ name ∈ neededNames, name ∉ moduleAttributes := by decide

theorem noNul_of_needed {name : String} (needed : name ∈ neededNames) :
    name.contains (Char.ofNat 0) = false := by
  simp only [neededNames, List.mem_cons, List.not_mem_nil, or_false] at needed
  rcases needed with rfl | rfl | rfl | rfl | rfl | rfl | rfl <;> simp

/-- Nor is the name of the search path. -/
theorem plain_path : "path" ∉ moduleAttributes := by decide

namespace Machine

/-- That a module has been imported under a name. -/
def Loads (machine : Machine) (name : String) (module : Handle) : Prop :=
  ∃ modules : NameList, machine.heap.Names Fixed.modules modules ∧
    modules.lookup (.ofString name) = some module

theorem Loads.kept {name : String} {module : Handle} {filled : Handle → Prop} {before after : Machine}
    (loads : before.Loads name module) (kept : before.Extends filled after)
    (apart : ¬ filled Fixed.modules) : after.Loads name module := by
  obtain ⟨modules, named, found⟩ := loads
  exact ⟨modules, named.kept kept apart, found⟩

/-- A machine on which modules are imported as from the start, with the names in the module of built-in
names and in the module of the interpreter. -/
structure Intact (machine : Machine) (builtins system : NameList) : Prop where
  sound : machine.heap.Sound
  interns : machine.Interns
  unhandled : machine.handling = none
  builtinsModule : machine.heap.get? Fixed.builtins = some (Fixed.moduleCell Fixed.builtinNames)
  systemModule : machine.heap.get? Fixed.system = some (Fixed.moduleCell Fixed.systemNames)
  builtinNames : machine.heap.Names Fixed.builtinNames builtins
  systemNames : machine.heap.Names Fixed.systemNames system
  builtinsLoaded : machine.Loads "builtins" Fixed.builtins
  systemLoaded : machine.Loads "sys" Fixed.system
  importer : ∃ function, builtins.lookup (.ofString "__import__") = some function ∧
    machine.heap.get? function = some (.ofCore .builtinFunction (.routine .importer))
  builtinsPlain : builtins.lookup (.ofString "__getattr__") = none
  systemPlain : system.lookup (.ofString "__getattr__") = none
  path : ∀ list, system.lookup (.ofString "path") = some list →
    ∃ items, machine.heap.get? list = some (.ofCore .list (.list items))

namespace Intact

variable {before after : Machine} {filled : Handle → Prop} {builtins system : NameList}

/-- What is left to check of a machine on which something has been filled. -/
theorem of_extends {laterBuiltins laterSystem : NameList} (intact : before.Intact builtins system)
    (kept : before.Extends filled after) (modules : ¬ filled Fixed.modules)
    (builtinNames : after.heap.Names Fixed.builtinNames laterBuiltins)
    (systemNames : after.heap.Names Fixed.systemNames laterSystem)
    (importer : laterBuiltins.lookup (.ofString "__import__") =
      builtins.lookup (.ofString "__import__"))
    (builtinsPlain : laterBuiltins.lookup (.ofString "__getattr__") = none)
    (systemPlain : laterSystem.lookup (.ofString "__getattr__") = none)
    (path : ∀ list, laterSystem.lookup (.ofString "path") = some list →
      ∃ items, after.heap.get? list = some (.ofCore .list (.list items))) :
    after.Intact laterBuiltins laterSystem where
  sound := kept.sound intact.sound
  interns := intact.interns.kept kept
  unhandled := (congrArg Registers.handling kept.registers).trans intact.unhandled
  builtinsModule := kept.keeps.cells intact.builtinsModule fun shape =>
    absurd shape (Fixed.not_isContainer_module _)
  systemModule := kept.keeps.cells intact.systemModule fun shape =>
    absurd shape (Fixed.not_isContainer_module _)
  builtinNames := builtinNames
  systemNames := systemNames
  builtinsLoaded := intact.builtinsLoaded.kept kept modules
  systemLoaded := intact.systemLoaded.kept kept modules
  importer := by
    obtain ⟨function, found, routine⟩ := intact.importer
    exact ⟨function, importer.trans found, kept.keeps.cells routine fun shape =>
      absurd shape (Cell.not_isContainer nofun nofun)⟩
  builtinsPlain := builtinsPlain
  systemPlain := systemPlain
  path := path

/-- More objects do no harm. -/
theorem kept (intact : before.Intact builtins system) (kept : before.Extends (fun _ => False) after) :
    after.Intact builtins system :=
  intact.of_extends kept id (intact.builtinNames.kept kept id) (intact.systemNames.kept kept id) rfl
    intact.builtinsPlain intact.systemPlain fun list found => by
      obtain ⟨items, there⟩ := intact.path list found
      exact ⟨items, kept.cell there⟩

end Intact

/-! A machine in working order. -/

/-- The names of the modules that the host imports. -/
def loadedNames : List (String × Handle) := [("builtins", Fixed.builtins), ("sys", Fixed.system)]

/-- The function for imports and the built-in names that the host looks up, but for one that is
missing. -/
def fittedNames : List (String × Handle) :=
  [("__import__", Fixed.routine (Routine.all.toList.idxOf .importer)), ("None", Fixed.none),
    ("bool", Core.bool.handle), ("int", Core.int.handle), ("float", Core.float.handle),
    ("str", Core.str.handle), ("dict", Core.dict.handle)]

/-- The name of the search path. -/
def pathNames : List (String × Handle) := [("path", Fixed.searchPath)]

/-- Puts these names where they belong. -/
def fit : Run Unit := do
  loadedNames.forM fun pair => Run.putName Fixed.modules pair.1 pair.2
  fittedNames.forM fun pair => Run.putName Fixed.builtinNames pair.1 pair.2
  pathNames.forM fun pair => Run.putName Fixed.systemNames pair.1 pair.2

/-- The bare machine once something has been run. -/
def bareAfter (run : Run Unit) : Machine := (run.on bare).2

theorem bareAfter_eq {run : Run Unit} {after : Machine} (step : run.on bare = (.ok (), after)) :
    bareAfter run = after := by
  rw [bareAfter, step]

/-- The names of some pairs. -/
def listed (pairs : List (String × Handle)) : NameList :=
  pairs.foldl (fun names pair => names.put (.ofString pair.1) pair.2) []

private theorem names_bare {dict : Handle}
    (found : Fixed.heap.get? dict = some (.ofCore .dict (.dict .empty))) : bare.heap.Names dict [] :=
  ⟨⟨.empty, found, ⟨.nil, nofun⟩, .nil⟩, .nil, nofun⟩

private theorem get?_importer : Fixed.heap.get? (Fixed.routine (Routine.all.toList.idxOf .importer)) =
    some (.ofCore .builtinFunction (.routine .importer)) := by
  have member : Routine.importer ∈ Routine.all.toList := by
    have line : Routine.importer ∈ Catalog.owned (.module "builtins") Catalog.builtins :=
      Catalog.mem_owned.mpr ⟨rfl, by decide⟩
    simp only [Routine.all, Array.toList_append, List.mem_append, line, or_true, true_or]
  refine @Fixed.get?_routine _ .importer ?_
  rw [← Array.getElem?_toList]
  exact List.getElem?_idxOf member

/-- The objects of these names are there from the start. -/
private theorem has_bare : ∀ pair ∈ loadedNames ++ fittedNames ++ pathNames,
    bare.heap.has pair.2 = true := by
  have has {handle : Handle} {cell : Cell} (found : Fixed.heap.get? handle = some cell) :
      bare.heap.has handle = true := Option.isSome_iff_exists.mpr ⟨cell, found⟩
  simp only [loadedNames, fittedNames, pathNames, List.cons_append, List.nil_append,
    List.forall_mem_cons]
  exact ⟨has Fixed.get?_builtins, has Fixed.get?_system, has get?_importer, has Fixed.get?_none,
    has (Fixed.get?_class _), has (Fixed.get?_class _), has (Fixed.get?_class _),
    has (Fixed.get?_class _), has (Fixed.get?_class _), has Fixed.get?_searchPath,
    List.forall_mem_nil _⟩

/-- The machine with these names is in working order. -/
theorem intact_fit : (bareAfter fit).Intact (listed fittedNames) (listed pathNames) := by
  have interns : bare.Interns := nofun
  have present := has_bare
  simp only [List.forall_mem_append] at present
  obtain ⟨first, firstStep, firstKept, loaded⟩ := Run.on_putNames sound_bare
    (names_bare Fixed.get?_modules) present.1.1
  obtain ⟨second, secondStep, secondKept, builtins⟩ := Run.on_putNames (firstKept.sound sound_bare)
    ((names_bare Fixed.get?_builtinNames).kept firstKept
      Fixed.modules_ne_builtinNames.symm)
    fun pair member => firstKept.grows.has (present.1.2 pair member)
  obtain ⟨third, thirdStep, thirdKept, system⟩ := Run.on_putNames
    (secondKept.sound (firstKept.sound sound_bare))
    (((names_bare Fixed.get?_systemNames).kept firstKept Fixed.modules_ne_systemNames.symm).kept
      secondKept Fixed.builtinNames_ne_systemNames.symm)
    fun pair member => secondKept.grows.has (firstKept.grows.has (present.2 pair member))
  have same : fit.on bare = (.ok (), third) := by
    unfold fit
    refine (Run.on_bind _ firstStep).trans ?_
    refine (Run.on_bind _ secondStep).trans ?_
    exact thirdStep
  rw [bareAfter_eq same]
  -- what stays as it is while the three dictionaries are filled
  have kept {handle : Handle} {cell : Cell} (found : Fixed.heap.get? handle = some cell)
      (other : ¬ cell.IsContainer) : third.heap.get? handle = some cell :=
    thirdKept.keeps.cells (secondKept.keeps.cells (firstKept.keeps.cells found fun shape =>
      absurd shape other) fun shape => absurd shape other) fun shape => absurd shape other
  have modules := (loaded.kept secondKept Fixed.modules_ne_builtinNames).kept thirdKept
    Fixed.modules_ne_systemNames
  have registers := (thirdKept.registers.trans secondKept.registers).trans firstKept.registers
  exact {
    sound := thirdKept.sound (secondKept.sound (firstKept.sound sound_bare))
    interns := ((interns.kept firstKept).kept secondKept).kept thirdKept
    unhandled := congrArg Registers.handling registers
    builtinsModule := kept Fixed.get?_builtins (Fixed.not_isContainer_module _)
    systemModule := kept Fixed.get?_system (Fixed.not_isContainer_module _)
    builtinNames := builtins.kept thirdKept Fixed.builtinNames_ne_systemNames
    systemNames := system
    builtinsLoaded := ⟨_, modules, by simp [loadedNames, NameList.lookup_put, CodePoints.ofString_inj]⟩
    systemLoaded := ⟨_, modules, by simp [loadedNames, NameList.lookup_put]⟩
    importer := ⟨_, by simp [listed, fittedNames, NameList.lookup_put, CodePoints.ofString_inj],
      kept get?_importer (Cell.not_isContainer nofun nofun)⟩
    builtinsPlain := by
      simp [listed, fittedNames, NameList.lookup_put, CodePoints.ofString_inj]
    systemPlain := by
      simp [listed, pathNames, NameList.lookup_put, CodePoints.ofString_inj]
    path := fun list found => by
      simp only [listed, pathNames, List.foldl_cons, List.foldl_nil, NameList.lookup_put, ↓reduceIte,
        Option.some.injEq] at found
      exact ⟨[], found ▸ thirdKept.keeps.cells (secondKept.keeps.cells (firstKept.keeps.cells
        Fixed.get?_searchPath
        fun _ => (names_bare Fixed.get?_modules).ne_list Fixed.get?_searchPath)
        fun _ => (names_bare Fixed.get?_builtinNames).ne_list Fixed.get?_searchPath)
        fun _ => (names_bare Fixed.get?_systemNames).ne_list Fixed.get?_searchPath⟩ }

end Machine

end ForeignBridge.Foreign
