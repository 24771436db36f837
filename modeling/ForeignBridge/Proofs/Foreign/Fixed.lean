import Mathlib.Tactic.Ring
import ForeignBridge.Foreign.Scalar
import ForeignBridge.Foreign.Start

/-! # The fixed objects

The singletons, the small integers and the short texts stand in memory from the start. None of them
ever changes, so each is what it is on every machine that has come about from the first one.
-/

namespace ForeignBridge.Foreign

namespace Core

set_option maxRecDepth 4000 in
@[simp] theorem ofHandle?_handle (core : Core) : ofHandle? core.handle = some core := by
  cases core <;> rfl

@[simp] theorem handle_inj {a b : Core} : a.handle = b.handle ↔ a = b := by
  refine ⟨fun same => ?_, fun same => same ▸ rfl⟩
  have := ofHandle?_handle a
  rw [same, ofHandle?_handle] at this
  exact (Option.some.inj this).symm

/-- A built-in class stands at its place among all of them. -/
theorem all_ctorIdx (core : Core) : all[core.ctorIdx]? = some core := by
  simpa [ofHandle?, handle, Handle.isNull] using ofHandle?_handle core

theorem ctorIdx_lt (core : Core) : core.ctorIdx < all.size :=
  (Array.getElem?_eq_some_iff.mp (all_ctorIdx core)).1

theorem ctorIdx_inj {a b : Core} (same : a.ctorIdx = b.ctorIdx) : a = b := by
  rw [← handle_inj, handle, handle, same]

end Core

namespace Fixed

private theorem get?_heap {handle : Handle} (present : handle.isNull = Bool.false) :
    heap.get? handle = cells[handle.address - 1]? := by
  rw [Heap.get?_of_address present, heap, Array.getElem?_map]
  cases cells[handle.address - 1]? <;> rfl

private theorem get?_heap_mk (index : ℕ) : heap.get? ⟨index + 1⟩ = cells[index]? :=
  get?_heap rfl

/-- The cells of the fixed objects, by their places. -/
private theorem cells_split : ∃ classCells moduleCells routineCells : Array Cell,
    classCells = Core.all.map (fun core => .ofCore .type (.core core)) ∧
      moduleCells = #[moduleCell builtinNames, moduleCell mainNames, moduleCell systemNames,
        .ofCore .dict (.dict .empty), .ofCore .list (.list []), .ofCore .dict (.dict .empty),
        .ofCore .dict (.dict .empty), .ofCore .dict (.dict .empty), moduleCell finderNames,
        .ofCore .dict (.dict .empty)] ∧
      routineCells = Routine.all.map (fun routine =>
        .ofCore (routineClass routine.flavour) (.routine routine)) ∧
      classCells.size = classes ∧
      cells = classCells ++
        #[.ofCore .noneType .plain, .ofCore .notImplementedType .plain, .ofCore .ellipsisType .plain,
          .ofCore .bool (.int 0), .ofCore .bool (.int 1), .ofCore .tuple (.tuple []),
          .ofCore .bytes (.bytes [])] ++
        (Array.range intCount).map (fun (i : ℕ) => Cell.ofCore .int (.int (leastInt + (i : ℤ)))) ++
        #[.ofCore .str (.text ⟨[]⟩)] ++
        (Array.range 256).map (fun code => Cell.ofCore .str (.text ⟨[code]⟩)) ++
        (Array.range 256).map (fun byte => Cell.ofCore .bytes (.bytes [byte])) ++
        moduleCells ++ routineCells :=
  ⟨_, _, _, rfl, rfl, rfl, Array.size_map, rfl⟩

private theorem get?_singleton {i : ℕ} {cell : Cell} (bound : i < 7)
    (found : (#[Cell.ofCore .noneType .plain, .ofCore .notImplementedType .plain,
      .ofCore .ellipsisType .plain, .ofCore .bool (.int 0), .ofCore .bool (.int 1),
      .ofCore .tuple (.tuple []), .ofCore .bytes (.bytes [])] : Array Cell)[i]? = some cell) :
    heap.get? ⟨classes + i + 1⟩ = some cell := by
  obtain ⟨classCells, moduleCells, routineCells, _, _, _, size, same⟩ := cells_split
  rw [get?_heap_mk, same]
  simp only [Array.append_assoc]
  rw [Array.getElem?_append_right (by omega), Array.getElem?_append_left (by
    rw [size]
    simpa using bound), size]
  simpa using found

/-- A built-in class stands at its address. -/
theorem get?_class (core : Core) : heap.get? core.handle = some (.ofCore .type (.core core)) := by
  obtain ⟨classCells, moduleCells, routineCells, filled, _, _, size, same⟩ := cells_split
  rw [Core.handle, get?_heap_mk, same]
  simp only [Array.append_assoc]
  rw [Array.getElem?_append_left (by rw [size]; exact core.ctorIdx_lt), filled, Array.getElem?_map,
    core.all_ctorIdx]
  rfl

/-- The modules that are there from the start, their dictionaries and the first search path. -/
private theorem get?_standing {i n : ℕ} {cell : Cell} (place : n = i + 1) (found : (#[moduleCell builtinNames, moduleCell mainNames,
      moduleCell systemNames, .ofCore .dict (.dict .empty), .ofCore .list (.list []),
      .ofCore .dict (.dict .empty), .ofCore .dict (.dict .empty), .ofCore .dict (.dict .empty),
      moduleCell finderNames, .ofCore .dict (.dict .empty)] : Array Cell)[i]? = some cell) :
    heap.get? ⟨constants + n⟩ = some cell := by
  subst place
  obtain ⟨classCells, moduleCells, routineCells, _, filled, _, size, same⟩ := cells_split
  have bound : i < moduleCells.size := by
    rw [filled]
    exact (Array.getElem?_eq_some_iff.mp found).1
  rw [show constants + (i + 1) = classes + 8 + intCount + 512 + i + 1 from (Nat.add_assoc ..).symm,
    get?_heap_mk, same]
  simp only [Array.append_assoc]
  rw [Array.getElem?_append_right (by omega), Array.getElem?_append_right (by simp; omega),
    Array.getElem?_append_right (by simp; omega), Array.getElem?_append_right (by simp; omega),
    Array.getElem?_append_right (by simp; omega), Array.getElem?_append_right (by simp; omega),
    Array.getElem?_append_left (by simp; omega)]
  simp only [size, Array.size_map, Array.size_range, List.size_toArray, List.length_cons,
    List.length_nil]
  rw [show classes + 8 + intCount + 512 + i - classes - 7 - intCount - 1 - 256 - 256 = i by omega,
    filled, found]

theorem get?_builtins : heap.get? builtins = some (moduleCell builtinNames) :=
  @get?_standing 0 1 _ rfl rfl

theorem get?_system : heap.get? system = some (moduleCell systemNames) := @get?_standing 2 3 _ rfl rfl

theorem get?_modules : heap.get? modules = some (.ofCore .dict (.dict .empty)) :=
  @get?_standing 3 4 _ rfl rfl

theorem get?_searchPath : heap.get? searchPath = some (.ofCore .list (.list [])) :=
  @get?_standing 4 5 _ rfl rfl

theorem get?_builtinNames : heap.get? builtinNames = some (.ofCore .dict (.dict .empty)) :=
  @get?_standing 5 6 _ rfl rfl

theorem get?_mainNames : heap.get? mainNames = some (.ofCore .dict (.dict .empty)) :=
  @get?_standing 6 7 _ rfl rfl

theorem get?_systemNames : heap.get? systemNames = some (.ofCore .dict (.dict .empty)) :=
  @get?_standing 7 8 _ rfl rfl

theorem get?_finderNames : heap.get? finderNames = some (.ofCore .dict (.dict .empty)) :=
  @get?_standing 9 10 _ rfl rfl

/-- A routine stands at its address. -/
theorem get?_routine {index : ℕ} {found : Routine} (there : Routine.all[index]? = some found) :
    heap.get? (routine index) =
      some (.ofCore (routineClass found.flavour) (.routine found)) := by
  obtain ⟨classCells, moduleCells, routineCells, _, modules, filled, size, same⟩ := cells_split
  have ten : moduleCells.size = 10 := by
    rw [modules]
    rfl
  rw [routine, show constants + 11 + index = classes + 8 + intCount + 512 + 10 + index + 1 by
    rw [show constants = classes + 8 + intCount + 512 from rfl]
    omega, get?_heap_mk, same]
  simp only [Array.append_assoc]
  rw [Array.getElem?_append_right (by omega), Array.getElem?_append_right (by simp; omega),
    Array.getElem?_append_right (by simp; omega), Array.getElem?_append_right (by simp; omega),
    Array.getElem?_append_right (by simp; omega), Array.getElem?_append_right (by simp; omega),
    Array.getElem?_append_right (by simp; omega)]
  simp only [size, ten, Array.size_map, Array.size_range, List.size_toArray, List.length_cons,
    List.length_nil]
  rw [show classes + 8 + intCount + 512 + 10 + index - classes - 7 - intCount - 1 - 256 - 256 - 10 =
    index by omega, filled, Array.getElem?_map, there]
  rfl

/-- A fixed object stands at one of the first addresses. -/
theorem address_le {handle : Handle} {cell : Cell} (found : heap.get? handle = some cell) :
    handle.address ≤ cells.size := by
  have bound := (Heap.address_le_of_get? found).2
  rwa [heap, Array.size_map] at bound

theorem get?_none : heap.get? none = some (.ofCore .noneType .plain) :=
  get?_singleton (i := 0) (by omega) rfl

theorem get?_emptyTuple : heap.get? emptyTuple = some (.ofCore .tuple (.tuple [])) :=
  get?_singleton (i := 5) (by omega) rfl

theorem get?_truth (b : Bool) :
    heap.get? (Run.truth b) = some (.ofCore .bool (.int (if b then 1 else 0))) := by
  cases b with
  | false => exact get?_singleton (i := 3) (by omega) rfl
  | true => exact get?_singleton (i := 4) (by omega) rfl

/-- The object of a small integer holds that integer. -/
theorem get?_int {n : ℤ} {handle : Handle} (small : int? n = some handle) :
    heap.get? handle = some (.ofCore .int (.int n)) := by
  unfold int? at small
  split at small
  · rename_i bound
    obtain ⟨i, rfl⟩ : ∃ i : ℕ, n = leastInt + i := ⟨(n - leastInt).toNat, by omega⟩
    have below : i < intCount := by omega
    obtain rfl := Option.some.inj small
    obtain ⟨classCells, moduleCells, routineCells, _, _, _, size, same⟩ := cells_split
    have address : classes + 8 + (leastInt + (i : ℤ) - leastInt).toNat = classes + 7 + i + 1 := by
      omega
    rw [address, get?_heap_mk, same]
    simp only [Array.append_assoc]
    rw [Array.getElem?_append_right (by omega), Array.getElem?_append_right (by simp; omega),
      Array.getElem?_append_left (by simp; omega)]
    simp [size, below, show classes + 7 + i - classes - 7 = i by omega]
  · cases small

/-- The object of a text that is very short holds that text. -/
theorem get?_text {text : CodePoints} {handle : Handle} (short : text? text = some handle) :
    heap.get? handle = some (.ofCore .str (.text text)) := by
  obtain ⟨classCells, moduleCells, routineCells, _, _, _, size, same⟩ := cells_split
  obtain ⟨codes⟩ := text
  unfold text? at short
  split at short
  · rename_i empty
    obtain rfl : codes = [] := empty
    obtain rfl := Option.some.inj short
    rw [emptyText, show classes + 8 + intCount = classes + 7 + intCount + 1 by omega, get?_heap_mk,
      same]
    simp only [Array.append_assoc]
    rw [Array.getElem?_append_right (by omega), Array.getElem?_append_right (by simp; omega),
      Array.getElem?_append_right (by simp; omega), Array.getElem?_append_left (by simp; omega)]
    simp [size, show classes + 7 + intCount - classes - 7 - intCount = 0 by omega]
  · rename_i code single
    obtain rfl : codes = [code] := single
    split at short
    · rename_i bound
      obtain rfl := Option.some.inj short
      rw [show classes + 9 + intCount + code = classes + 8 + intCount + code + 1 by omega,
        get?_heap_mk, same]
      simp only [Array.append_assoc]
      rw [Array.getElem?_append_right (by omega), Array.getElem?_append_right (by simp; omega),
        Array.getElem?_append_right (by simp; omega), Array.getElem?_append_right (by simp; omega),
        Array.getElem?_append_left (by simp; omega)]
      simp [size, bound,
        show classes + 8 + intCount + code - classes - 7 - intCount - 1 = code by omega]
    · cases short
  · cases short

end Fixed

end ForeignBridge.Foreign
