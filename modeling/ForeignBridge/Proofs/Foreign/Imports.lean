import ForeignBridge.Proofs.Foreign.Intact
import ForeignBridge.Proofs.Text.Without

/-! # Imports of modules that are there

The host imports a module through the function that import statements call, which is looked up among the
built-in names. For a module that has been imported this makes objects only.
-/

namespace ForeignBridge.Foreign

/-- The names of a string are its characters. -/
theorem CodePoints.lossy_ofString (text : String) : (CodePoints.ofString text).lossy = text := by
  simp [lossy, ofString, Function.comp_def, String.ofList_toList]

namespace Run

variable {machine : Machine} {name : String} {module : Handle}

theorem on_loadedModule? (invoke : Invoke) (sound : machine.heap.Sound)
    (loads : machine.Loads name module) : ∃ after,
      (loadedModule? invoke name).on machine = (.ok (some module), after) ∧
      machine.Extends (fun _ => False) after := by
  obtain ⟨key, after, step, kept, holds⟩ := on_newText sound (.ofString name)
  obtain ⟨modules, named, found⟩ := loads
  refine ⟨after, ?_, kept⟩
  rw [loadedModule?, newString, on_bind _ step,
    on_dictGet? invoke (kept.sound sound) (named.kept kept id) holds, found]

theorem on_importModule (invoke : Invoke) (sound : machine.heap.Sound)
    (loads : machine.Loads name module) (other : module ≠ Fixed.none) : ∃ after,
      (importModule invoke name).on machine = (.ok module, after) ∧
      machine.Extends (fun _ => False) after := by
  obtain ⟨after, step, kept⟩ := on_loadedModule? invoke sound loads
  refine ⟨after, ?_, kept⟩
  rw [importModule, importWithin, on_bind _ step]
  simp only [other, ↓reduceIte]
  rfl

theorem get?_zero (sound : machine.heap.Sound) :
    machine.heap.get? Fixed.zero = some (.ofCore .int (.int 0)) :=
  sound.fixed (Fixed.get?_int rfl) (by simp [Cell.isFixed, Cell.ofCore, Cell.of])

/-- The object of zero stands for zero. -/
theorem on_asIndex_zero (invoke : Invoke) (sound : machine.heap.Sound) :
    (asIndex invoke Fixed.zero).on machine = (.ok 0, machine) := by
  have there := get?_zero sound
  have given : (givenIndex? invoke Fixed.zero).on machine = (.ok (some 0), machine) := by
    rw [givenIndex?, on_bind _ (on_body there)]
    rfl
  rw [asIndex, on_bind _ given]
  rfl

theorem on_asSmall_zero (invoke : Invoke) (sound : machine.heap.Sound) :
    (asSmall invoke Fixed.zero).on machine = (.ok 0, machine) := by
  rw [asSmall, on_bind _ (on_asIndex_zero invoke sound)]
  rfl

theorem on_isTrue_emptyList (invoke : Invoke) {list : Handle}
    (found : machine.heap.get? list = some (.ofCore .list (.list []))) :
    (isTrue invoke list).on machine = (.ok false, machine) := by
  rw [isTrue, isTrueWithin, on_bind _ (on_cell found)]
  simp only [plainTruth?, Cell.ofCore, Cell.of, Core.ofHandle?_handle, List.isEmpty_nil]
  rfl

/-- An import of a module that is there makes objects only. -/
theorem on_importRoutine (invoke : Invoke) (sound : machine.heap.Sound)
    (loads : machine.Loads name module) (other : module ≠ Fixed.none) (named : name ≠ "")
    (plain : '.' ∉ name.toList) {key globals list : Handle}
    (holds : machine.heap.get? key = some (.ofCore .str (.text (.ofString name))))
    (empty : machine.heap.get? list = some (.ofCore .list (.list []))) : ∃ after,
      (importRoutine invoke (.of [key, globals, globals, list, Fixed.zero])).on machine =
        (.ok module, after) ∧ machine.Extends (fun _ => False) after := by
  let given : Arguments := .of [key, globals, globals, list, Fixed.zero]
  have arranged : (arrangeNamed "__import__" ⟨["name", "globals", "locals", "fromlist", "level"], 0, 1, 0⟩
      given).on machine = (.ok given, machine) := rfl
  have level : (asSmall invoke (given.nth 4)).on machine = (.ok 0, machine) :=
    on_asSmall_zero invoke sound
  have levelGiven : (given.nth 4).isNull = false := Heap.not_isNull_of_get? (get?_zero sound)
  have text : (text? given.first).on machine = (.ok (some (.ofString name)), machine) := on_text? holds
  obtain ⟨after, step, kept⟩ := on_importModule invoke sound loads other
  have listGiven : (given.nth 3).isNull = false := Heap.not_isNull_of_get? empty
  have noneNamed : (isTrue invoke (given.nth 3)).on after = (.ok false, after) :=
    on_isTrue_emptyList invoke (kept.cell empty)
  refine ⟨after, ?_, kept⟩
  rw [importRoutine, on_bind _ arranged]
  simp only [levelGiven, Bool.false_eq_true, ↓reduceIte]
  rw [on_bind _ level, on_bind _ text]
  simp only [CodePoints.lossy_ofString, named, and_false, ↓reduceIte, Int.toNat_zero, Int.lt_irrefl]
  refine (on_bind _ (on_pure name)).trans ?_
  rw [on_bind _ step]
  simp only [listGiven, Bool.false_eq_true, ↓reduceIte]
  rw [on_bind _ noneNamed]
  simp only [frontModule, Text.splitOn_dot plain, List.length_singleton, ↓reduceIte, Bool.not_false]
  rfl

/-- To call the function that import statements call is to import. -/
theorem on_call_importer {handle : Handle} (arguments : Arguments)
    (found : machine.heap.get? handle = some (.ofCore .builtinFunction (.routine .importer))) :
    ∃ invoke, (call handle arguments).on machine = (importRoutine invoke arguments).on machine := by
  refine ⟨invokeWithin 999, ?_⟩
  rw [call, callLimit, invokeWithin, callObject]
  refine (on_bind _ (on_body found)).trans ?_
  change (callRoutine _ handle .importer arguments).on machine = _
  rw [callRoutine]
  have arranged : (arrange .importer Routine.importer.label arguments).on machine =
      (.ok arguments, machine) := rfl
  refine (on_bind _ arranged).trans ?_
  rfl

/-- A dictionary of a name is one object more, apart from the object of the name. -/
theorem on_newNamed (sound : machine.heap.Sound) (pairs : List (String × Handle)) : ∃ dict after,
      (newNamed pairs).on machine = (.ok dict, after) ∧
      machine.Extends (fun _ => False) after := by
  have made := Machine.Extends.new machine (.ofCore .dict (.dict .empty))
  have found := Heap.get?_add_self machine.heap (.ofCore .dict (.dict .empty))
  obtain ⟨after, step, kept, _⟩ := on_putNames_lists (made.sound sound)
    ⟨⟨.empty, found, ⟨.nil, nofun⟩, .nil⟩, .nil⟩ pairs
  refine ⟨(machine.heap.add (.ofCore .dict (.dict .empty))).1, after, ?_, kept.fill_new⟩
  rw [newNamed, newEmptyDict, newOf, on_bind _ (on_new _), on_bind _ step]
  rfl

/-- The host's import of a module that is there makes objects only. -/
theorem on_importNamed {builtins system : NameList} (intact : machine.Intact builtins system)
    (loads : machine.Loads name module) (other : module ≠ Fixed.none) (named : name ≠ "")
    (plain : '.' ∉ name.toList) : ∃ after,
      (importNamed call name).on machine = (.ok module, after) ∧
      machine.Extends (fun _ => False) after := by
  obtain ⟨key, first, keyStep, kept, holds⟩ := on_newText intact.sound (.ofString name)
  have intactFirst := intact.kept kept
  obtain ⟨second, importStep, next⟩ := on_importModule call intactFirst.sound
    intactFirst.builtinsLoaded Fixed.builtins_ne_none
  have intactSecond := intactFirst.kept next
  obtain ⟨globals, third, globalsStep, more⟩ := on_newNamed intactSecond.sound
    [("__builtins__", _)]
  have intactThird := intactSecond.kept more
  obtain ⟨function, found, routine⟩ := intactThird.importer
  have importerStep := on_getAttribute_module call intactThird.sound intactThird.builtinsModule
    intactThird.builtinNames (findSome?_module (by decide)) found
  have empty := Heap.get?_add_self third.heap (.ofCore .list (.list []))
  have listed := Machine.Extends.new third (.ofCore .list (.list []))
  have intactListed := intactThird.kept listed
  obtain ⟨invoke, called⟩ := on_call_importer
    (.of [key, globals, globals, (third.heap.add (.ofCore .list (.list []))).1, Fixed.zero])
    (listed.cell routine)
  have early := ((kept.trans next).trans more).trans listed
  obtain ⟨fourth, routineStep, called'⟩ := on_importRoutine invoke intactListed.sound
    (loads.kept early id) other named plain
    (((next.trans more).trans listed).cell holds) empty
  obtain ⟨after, loadedStep, last⟩ := on_loadedModule? call (intactListed.kept called').sound
    (loads.kept (early.trans called') id)
  refine ⟨after, ?_, (early.trans called').trans last⟩
  rw [importNamed, newString, on_bind _ keyStep, on_bind _ importStep, on_bind _ globalsStep,
    on_bind _ importerStep, newList, newOf, on_bind _ (on_new _), on_bind _ (called.trans routineStep),
    on_bind _ loadedStep]
  rfl

end Run

end ForeignBridge.Foreign
