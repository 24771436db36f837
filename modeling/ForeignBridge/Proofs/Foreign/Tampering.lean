import ForeignBridge.Proofs.Foreign.Intact

/-! # Names that programs change

A program may give built-in names other objects, take them away and give them back, and may do with the
search path what it likes as long as that is a list when it is there. The machine stays in working order.
-/

namespace ForeignBridge.Foreign

namespace Run

variable {machine : Machine} {module dict value : Handle} {names : NameList} {name : String}

theorem on_isOpen_module (found : machine.heap.get? module = some (Fixed.moduleCell dict)) :
    (isOpen module).on machine = (.ok true, machine) := by
  rw [isOpen, on_bind _ (on_cell found)]
  rfl

/-- No class of modules has a name that not all modules have. -/
theorem on_typeAttribute_module (sound : machine.heap.Sound)
    (found : machine.heap.get? module = some (Fixed.moduleCell dict)) (other : name ∉ moduleAttributes) :
    (typeAttribute module name).on machine = (.ok none, machine) := by
  rw [@on_typeAttribute machine module _ .module sound found rfl name, findSome?_module other]

/-- Raising that a module does not have an attribute of its own makes objects only. -/
theorem on_noAttribute_module {α : Type} (sound : machine.heap.Sound)
    (unhandled : machine.handling = none)
    (found : machine.heap.get? module = some (Fixed.moduleCell dict)) (name : String) :
    ∃ thrown after, (noAttribute module name : Run α).on machine = (.error thrown, after) ∧
      machine.Extends (fun _ => False) after := by
  have title : (typeName module).on machine = (.ok Core.module.name, machine) := by
    rw [typeName, on_bind _ (on_cell found)]
    refine (on_bind _ (on_body (get?_class sound .module))).trans ?_
    rfl
  obtain ⟨thrown, after, failed, kept⟩ := @on_failAttribute machine α sound unhandled module
    name ("'" ++ Core.module.name ++ "' object has no attribute '" ++ name ++ "'")
  refine ⟨thrown, after, ?_, kept⟩
  rw [noAttribute, on_bind _ (on_body found)]
  exact (on_bind _ title).trans failed

/-- To set an attribute of a module is to put an object among its names. -/
theorem on_setAttribute_module (invoke : Invoke) (sound : machine.heap.Sound)
    (found : machine.heap.get? module = some (Fixed.moduleCell dict))
    (named : machine.heap.Names dict names) (other : name ∉ moduleAttributes)
    (present : machine.heap.has value = true) :
    ∃ after, (setAttribute invoke module name value).on machine = (.ok (), after) ∧
      machine.Extends (· = dict) after ∧ after.heap.Names dict (names.put (.ofString name) value) := by
  obtain ⟨after, step, kept, now⟩ := on_putName sound named present name
  have stored : (store module name value).on machine = (.ok (), after) := by
    rw [store, on_bind _ (on_cell found)]
    exact step
  have unruled := on_typeAttribute_module sound found other
  refine ⟨after, ?_, kept, now⟩
  rw [setAttribute, on_bind _ (@on_core? machine module _ .module found rfl)]
  simp only [Option.isSome_some, ↓reduceIte]
  rw [setPlainAttribute, on_bind _ (on_body found)]
  refine (on_bind _ unruled).trans ?_
  refine (on_bind _ (on_pure none)).trans ?_
  refine (on_bind _ (on_isOpen_module found)).trans ?_
  exact stored

/-- To delete an attribute of a module is to take it from its names, if it is among them. -/
theorem on_deleteAttribute_module (invoke : Invoke) (sound : machine.heap.Sound)
    (unhandled : machine.handling = none)
    (found : machine.heap.get? module = some (Fixed.moduleCell dict))
    (named : machine.heap.Names dict names) (other : name ∉ moduleAttributes) :
    ∃ result after, (deleteAttribute invoke module name).on machine = (result, after) ∧
      machine.Extends (· = dict) after ∧ after.heap.Names dict (names.erase (.ofString name)) := by
  obtain ⟨was, after, step, kept, now⟩ := on_dropName named name
  have dropped : (dropOwn module name).on machine = (.ok was, after) := by
    rw [dropOwn, on_bind _ (on_cell found)]
    exact step
  have unruled := on_typeAttribute_module sound found other
  have deletes : (deleteAttribute invoke module name).on machine =
      (if was then pure () else noAttribute module name : Run Unit).on after := by
    rw [deleteAttribute, on_bind _ (@on_core? machine module _ .module found rfl)]
    simp only [Option.isSome_some, ↓reduceIte]
    rw [deletePlainAttribute, on_bind _ (on_body found)]
    refine (on_bind _ unruled).trans ?_
    refine (on_bind _ (on_pure none)).trans ?_
    refine (on_bind _ (on_isOpen_module found)).trans ?_
    refine (on_bind _ dropped).trans ?_
    cases was <;> rfl
  cases was with
  | true => exact ⟨_, after, deletes, kept, now⟩
  | false =>
    obtain ⟨thrown, later, failed, late⟩ := @on_noAttribute_module after module dict Unit
      (kept.sound sound)
      ((congrArg Registers.handling kept.registers).trans unhandled)
      (kept.keeps.cells found fun shape => absurd shape (Fixed.not_isContainer_module _)) name
    exact ⟨_, later, deletes.trans failed, kept.trans late.all, now.kept late id⟩

end Run

namespace Machine

/-- What a program may do to the built-in names that the host looks up and to the search path: give a
name an object, take a name away, put another list in the place of the search path, fill a list, the
search path maybe, with other items, take the search path away, and make objects of any kind. -/
inductive Tampers : Machine → Machine → Prop
  | bind {before after : Machine} {name : String} {value : Handle} {result : Except Thrown Unit}
      (needed : name ∈ neededNames) (present : before.heap.has value = true)
      (run : (Run.setAttribute Run.call Fixed.builtins name value).on before = (result, after)) :
      Tampers before after
  | unbind {before after : Machine} {name : String} {result : Except Thrown Unit}
      (needed : name ∈ neededNames)
      (run : (Run.deleteAttribute Run.call Fixed.builtins name).on before = (result, after)) :
      Tampers before after
  | replacePath {before after : Machine} {list : Handle} {items : List Handle}
      {result : Except Thrown Unit}
      (plain : before.heap.get? list = some (.ofCore .list (.list items)))
      (run : (Run.setAttribute Run.call Fixed.system "path" list).on before = (result, after)) :
      Tampers before after
  | fill {before after : Machine} {list : Handle} {old items : List Handle}
      {result : Except Thrown Unit}
      (plain : before.heap.get? list = some (.ofCore .list (.list old)))
      (run : (Run.setBody list (.list items)).on before = (result, after)) : Tampers before after
  | removePath {before after : Machine} {result : Except Thrown Unit}
      (run : (Run.deleteAttribute Run.call Fixed.system "path").on before = (result, after)) :
      Tampers before after
  | make {before after : Machine} (kept : before.Extends (fun _ => False) after) :
      Tampers before after

namespace Intact

variable {before after : Machine} {builtins system later : NameList}

/-- Other names in the module of built-in names do no harm, if the importing function is the same. -/
theorem rename (intact : before.Intact builtins system)
    (kept : before.Extends (· = Fixed.builtinNames) after)
    (named : after.heap.Names Fixed.builtinNames later)
    (importer : later.lookup (.ofString "__import__") = builtins.lookup (.ofString "__import__"))
    (plain : later.lookup (.ofString "__getattr__") = none) : after.Intact later system :=
  intact.of_extends kept Fixed.modules_ne_builtinNames named
    (intact.systemNames.kept kept Fixed.builtinNames_ne_systemNames.symm) importer plain
    intact.systemPlain fun list found => by
      obtain ⟨items, there⟩ := intact.path list found
      exact ⟨items, kept.keeps.cells there fun _ => intact.builtinNames.ne_list there⟩

/-- Other names in the module of the interpreter do no harm, if the search path is a list. -/
theorem repath (intact : before.Intact builtins system)
    (kept : before.Extends (· = Fixed.systemNames) after)
    (named : after.heap.Names Fixed.systemNames later)
    (plain : later.lookup (.ofString "__getattr__") = none)
    (path : ∀ list, later.lookup (.ofString "path") = some list →
      ∃ items, before.heap.get? list = some (.ofCore .list (.list items))) :
    after.Intact builtins later :=
  intact.of_extends kept Fixed.modules_ne_systemNames
    (intact.builtinNames.kept kept Fixed.builtinNames_ne_systemNames) named rfl
    intact.builtinsPlain plain fun list found => by
      obtain ⟨items, there⟩ := path list found
      exact ⟨items, kept.keeps.cells there fun _ => intact.systemNames.ne_list there⟩

/-- The names that the host looks up are none that the machine relies on. -/
private theorem rules_ne_needed {name : String} (needed : name ∈ neededNames) :
    CodePoints.ofString "__import__" ≠ .ofString name ∧
      CodePoints.ofString "__getattr__" ≠ .ofString name := by
  simp only [ne_eq, CodePoints.ofString_inj]
  constructor <;> (rintro rfl; revert needed; decide)

/-- A name that the host looks up may be given an object. -/
theorem bind {name : String} {value : Handle} (intact : before.Intact builtins system)
    (needed : name ∈ neededNames) (present : before.heap.has value = true) :
    ∃ after, (Run.setAttribute Run.call Fixed.builtins name value).on before = (.ok (), after) ∧
      before.Extends (· = Fixed.builtinNames) after ∧
      after.Intact (builtins.put (.ofString name) value) system := by
  obtain ⟨after, step, kept, named⟩ := Run.on_setAttribute_module Run.call intact.sound
    intact.builtinsModule intact.builtinNames (plain_of_needed name needed) present
  refine ⟨after, step, kept, intact.rename kept named ?_ ?_⟩
  · rw [NameList.lookup_put, if_neg (rules_ne_needed needed).1]
  · rw [NameList.lookup_put, if_neg (rules_ne_needed needed).2, intact.builtinsPlain]

/-- A list may be filled with other items. -/
theorem fill {list : Handle} {old : List Handle} (intact : before.Intact builtins system)
    (plain : before.heap.get? list = some (.ofCore .list (.list old))) (items : List Handle) :
    Machine.Intact { before with heap := before.heap.revise list (.ofCore .list (.list items)) }
      builtins system := by
  have kept := Machine.Extends.revise plain (.inl rfl) (.ofCore .list (.list items))
  obtain ⟨modules, loaded, _⟩ := intact.builtinsLoaded
  refine intact.of_extends kept (loaded.ne_list plain).symm
    (intact.builtinNames.kept kept (intact.builtinNames.ne_list plain).symm)
    (intact.systemNames.kept kept (intact.systemNames.ne_list plain).symm) rfl intact.builtinsPlain
    intact.systemPlain fun path found => ?_
  by_cases same : path = list
  · subst same
    exact ⟨items, Heap.get?_revise_self plain (by simp [Cell.isFixed, Cell.ofCore, Cell.of])⟩
  · obtain ⟨others, there⟩ := intact.path path found
    exact ⟨others, kept.keeps.cells there fun _ => same⟩

/-- Whatever a program does to the names and to the search path, the machine stays in working order. -/
theorem tampered (intact : before.Intact builtins system) (tampers : Tampers before after) :
    ∃ laterBuiltins laterSystem, after.Intact laterBuiltins laterSystem := by
  have rule : CodePoints.ofString "__getattr__" ≠ .ofString "path" := by
    simp [CodePoints.ofString_inj]
  cases tampers with
  | @bind name value result needed present run =>
    obtain ⟨after, step, -, later⟩ := intact.bind needed present
    rw [step] at run
    cases run
    exact ⟨_, system, later⟩
  | @unbind name result needed run =>
    obtain ⟨outcome, after, step, kept, named⟩ := Run.on_deleteAttribute_module Run.call intact.sound
      intact.unhandled intact.builtinsModule intact.builtinNames
      (plain_of_needed name needed)
    rw [step] at run
    cases run
    refine ⟨_, system, intact.rename kept named ?_ ?_⟩
    · rw [NameList.lookup_erase, if_neg (rules_ne_needed needed).1]
    · rw [NameList.lookup_erase, if_neg (rules_ne_needed needed).2, intact.builtinsPlain]
  | @replacePath list items result plain run =>
    obtain ⟨after, step, kept, named⟩ := Run.on_setAttribute_module Run.call intact.sound
      intact.systemModule intact.systemNames plain_path
      (Option.isSome_iff_exists.mpr ⟨_, plain⟩)
    rw [step] at run
    cases run
    refine ⟨builtins, _, intact.repath kept named ?_ fun other found => ?_⟩
    · rw [NameList.lookup_put, if_neg rule, intact.systemPlain]
    · rw [NameList.lookup_put, if_pos rfl, Option.some.injEq] at found
      exact ⟨items, found ▸ plain⟩
  | @fill list old items result plain run =>
    rw [Run.on_setBody plain] at run
    cases run
    exact ⟨builtins, system, intact.fill plain items⟩
  | @removePath result run =>
    obtain ⟨outcome, after, step, kept, named⟩ := Run.on_deleteAttribute_module Run.call intact.sound
      intact.unhandled intact.systemModule intact.systemNames plain_path
    rw [step] at run
    cases run
    refine ⟨builtins, _, intact.repath kept named ?_ fun list found => ?_⟩
    · rw [NameList.lookup_erase, if_neg rule, intact.systemPlain]
    · rw [NameList.lookup_erase, if_pos rfl] at found
      cases found
  | make kept => exact ⟨builtins, system, intact.kept kept⟩

end Intact

end Machine

end ForeignBridge.Foreign
