import ForeignBridge.Proofs.Bridge.Reading
import ForeignBridge.Proofs.Foreign.Grafts

/-! # Making single objects

An object for a value without parts is there already, or it is one more. The host has a reference to it
when it has been made; nothing else is changed.
-/

namespace ForeignBridge

open Foreign
open Foreign.Run (newInt newString truth)

namespace World

/-- The world with another machine, in which the host has references to some more objects. -/
def advance (world : World) (machine : Machine) (handles : List Handle) : World :=
  (world.withMachine machine).withHeld (present handles ++ world.held)

variable {world : World} {machine next : Machine} {handles others : List Handle}

@[simp] theorem advance_machine (world : World) (machine : Machine) (handles : List Handle) :
    (world.advance machine handles).machine = machine := rfl

@[simp] theorem advance_pending (world : World) (machine : Machine) (handles : List Handle) :
    (world.advance machine handles).pending = world.pending := rfl

@[simp] theorem advance_self (world : World) : world.advance world.machine [] = world := rfl

theorem advance_advance : (world.advance machine handles).advance next others =
    world.advance next (others ++ handles) := by
  simp only [advance, present_append, List.append_assoc]
  rfl

/-- References that have been taken in the meantime are given back. -/
theorem foldl_giveBack_advance (world : World) (same : others.Perm handles) :
    others.foldl giveBack (world.advance machine handles) = world.advance machine [] :=
  @foldl_giveBack_all others (present handles) world.held (world.withMachine machine)
    (same.symm.filter _)

/-- References that have been taken later are given back. -/
theorem foldl_giveBack_later {kept : List Handle} (world : World) (same : others.Perm handles) :
    others.foldl giveBack ((world.advance machine kept).advance next handles) =
      world.advance next kept := foldl_giveBack_advance (world.advance machine kept) same

/-- A reference that is held beside others stays when they are given back. -/
theorem foldl_giveBack_beside (same : others.Perm handles) (handle : Handle) :
    others.foldl giveBack (world.advance machine (handle :: handles)) =
      world.advance machine [handle] := by
  have holds : (present (handle :: handles)).Perm (present others ++ present [handle]) := by
    have top : present (handle :: handles) = present [handle] ++ present handles :=
      present_append [handle] handles
    rw [top]
    exact (List.perm_append_comm).trans ((same.symm.filter _).append_right _)
  obtain ⟨left, alone, back⟩ :=
    @foldl_giveBack_top others (present [handle]) _ world.held (world.withMachine machine) holds
  obtain rfl : left = present [handle] := by
    cases null : handle.isNull with
    | true =>
      rw [present_cons_of_isNull null] at alone ⊢
      exact alone.eq_nil
    | false =>
      rw [present_cons null] at alone ⊢
      exact alone.eq_singleton
  exact back

end World

namespace Bridge

variable {world : World} {low : ℕ} {handle : Handle} {value : Value}

/-- What it is to make an object: the host gets a reference to it, and apart from new objects nothing is
changed. -/
structure Makes (low : ℕ) (act : Bridge Handle) (world : World) (handle : Handle) (machine : Machine) :
    Prop where
  on : act.on world = (.ok handle, world.advance machine [handle])
  grafts : world.machine.Grafts low (fun _ => False) machine
  near : Heap.Near low world.machine.heap machine.heap handle

/-- An object that is there already is handed out as it is. -/
theorem makes_there {run : Run Handle} {cell : Cell}
    (step : run.on world.machine = (.ok handle, world.machine))
    (found : world.machine.heap.get? handle = some cell) (bound : handle.address ≤ low) :
    Makes low (made run) world handle world.machine where
  on := by
    rw [made_on_ok step (Option.isSome_iff_exists.mpr ⟨_, found⟩), World.advance,
      present_cons (Heap.not_isNull_of_get? found)]
    rfl
  grafts := .refl _ _ _
  near := .inl bound

theorem made_newOf_on (core : Core) (body : Body) (world : World) :
    Bridge.on (made (Run.newOf core body)) world = (.ok world.machine.heap.next,
      world.advance (world.machine.push (.ofCore core body)) [world.machine.heap.next]) := by
  have there : (world.machine.push (.ofCore core body)).heap.get? world.machine.heap.next = some _ :=
    Heap.get?_add_self world.machine.heap (.ofCore core body)
  have step : (Run.newOf core body).on world.machine =
    (.ok world.machine.heap.next, world.machine.push (.ofCore core body)) := Run.on_new _
  rw [made_on_ok step (Option.isSome_iff_exists.mpr ⟨_, there⟩), World.advance,
    present_cons (Heap.not_isNull_of_get? there)]
  rfl

/-- An object that is one more refers to nothing above the mark. -/
theorem makes_new {core : Core} {body : Body} (unguarded : (Cell.ofCore core body).IsUnguarded)
    (small : ∀ part ∈ body.references, part.address ≤ low) :
    Makes low (made (Run.newOf core body)) world world.machine.heap.next
      (world.machine.push (.ofCore core body)) where
  on := made_newOf_on core body world
  grafts := (Machine.Grafts.refl low _ world.machine).push unguarded fun part member =>
    .inl (small part (by rwa [Cell.references_ofCore] at member))
  near := .inr ⟨Nat.lt_succ_self _, (Heap.size_add ..).ge⟩

/-- An object is handed out as the object it is. -/
theorem makes_own (bound : handle.address ≤ low) : Makes low (do
    own handle
    return handle) world handle world.machine where
  on := by
    rw [on_bind_eq, on_lift, own_on, World.advance]
    cases null : handle.isNull with
    | true =>
      rw [present_cons_of_isNull null]
      rfl
    | false =>
      rw [present_cons null]
      rfl
  grafts := .refl _ _ _
  near := .inl bound

/-- What an act makes there is no choice about. -/
theorem Makes.unique {act : Bridge Handle} {other : Handle} {machine last : Machine}
    (one : Makes low act world handle machine) (two : Makes low act world other last) :
    handle = other ∧ machine = last := by
  have same := one.on.symm.trans two.on
  rw [Prod.mk.injEq, Except.ok.injEq] at same
  exact ⟨same.1, congrArg World.machine same.2⟩

/-- A truth value is one of two objects that are there already. -/
theorem makes_truth (sound : world.machine.heap.Sound) (fixed : Fixed.cells.size ≤ low) (b : Bool) :
    Makes low (build (.bool b)) world (truth b) world.machine :=
  have there := sound.fixed (Fixed.get?_truth b) (by simp [Cell.isFixed, Cell.ofCore, Cell.of])
  @makes_there world low _ (return truth b) _ rfl there
    ((Fixed.address_le (Fixed.get?_truth b)).trans fixed)

theorem sameKey_self (isKey : value.isKey = true) (number : ∀ x, value ≠ .float x) :
    value.sameKey value = true := by
  cases value with
  | float x => exact (number x rfl).elim
  | null => rfl
  | bool b => simp [Value.sameKey, Value.whole?]
  | int n => simp [Value.sameKey, Value.whole?]
  | text s => simp [Value.sameKey]
  | list items => cases isKey
  | map pairs => cases isKey
  | record fields => cases isKey
  | object handle => cases isKey
  | function identity => cases isKey

/-- The object of a value without parts is there already, or it is new; what equals nothing is always
new. -/
theorem makes_scalar (sound : world.machine.heap.Sound) (fixed : Fixed.cells.size ≤ low)
    (isKey : value.isKey = true) : ∃ handle machine cell,
      Makes low (build value) world handle machine ∧ value.cell? = some cell ∧
      machine.heap.get? handle = some cell ∧ (value = .null → handle = Fixed.none) ∧
      (world.machine.heap.cells.size < handle.address ∨ value.sameKey value = true) := by
  have found {handle : Handle} {core : Core} {body : Body}
      (there : Fixed.heap.get? handle = some (.ofCore core body))
      (isFixed : (Cell.ofCore core body).isFixed = true) :
      world.machine.heap.get? handle = some (.ofCore core body) ∧ handle.address ≤ low :=
    ⟨sound.fixed there isFixed, (Fixed.address_le there).trans fixed⟩
  have new (core : Core) (body : Body) (unguarded : (Cell.ofCore core body).IsUnguarded)
      (bare : body.references = []) := @makes_new world low core body unguarded (by
        simp [bare])
  cases value with
  | null =>
    obtain ⟨there, bound⟩ := found Fixed.get?_none (by simp [Cell.isFixed, Cell.ofCore, Cell.of])
    exact ⟨_, _, _, makes_own bound, rfl, there, fun _ => rfl, .inr rfl⟩
  | bool b =>
    obtain ⟨there, _⟩ := found (Fixed.get?_truth b) (by simp [Cell.isFixed, Cell.ofCore, Cell.of])
    exact ⟨_, _, _, makes_truth sound fixed b, rfl, there, (by simp),
      .inr (sameKey_self isKey (by simp))⟩
  | int n =>
    cases small : Fixed.int? n.toInt with
    | some handle =>
      obtain ⟨there, bound⟩ := found (Fixed.get?_int small)
        (by simp [Cell.isFixed, Cell.ofCore, Cell.of])
      have step : (newInt n.toInt).on world.machine = (.ok handle, world.machine) := by
        rw [newInt, small]
        rfl
      exact ⟨_, _, _, makes_there step there bound, rfl, there, (by simp),
        .inr (sameKey_self isKey (by simp))⟩
    | none =>
      have same : newInt n.toInt = Run.newOf .int (.int n.toInt) := by rw [newInt, small]
      rw [build, same]
      exact ⟨_, _, _, new .int _ (Cell.isUnguarded_ofCore _ (by decide)) rfl, rfl,
        Heap.get?_add_self _ _, (by simp), .inl (Nat.lt_succ_self _)⟩
  | float x =>
    exact ⟨_, _, _, new .float (.float x) (Cell.isUnguarded_ofCore _ (by decide)) rfl, rfl,
      Heap.get?_add_self _ _, (by simp), .inl (Nat.lt_succ_self _)⟩
  | text s =>
    cases short : Fixed.text? (.ofString s) with
    | some handle =>
      obtain ⟨there, bound⟩ := found (Fixed.get?_text short)
        (by simp [Cell.isFixed, Cell.ofCore, Cell.of])
      have step : (newString s).on world.machine = (.ok handle, world.machine) := by
        rw [newString, Run.newText, short]
        rfl
      exact ⟨_, _, _, makes_there step there bound, rfl, there, (by simp),
        .inr (sameKey_self isKey (by simp))⟩
    | none =>
      have same : newString s = Run.newOf .str (.text (.ofString s)) := by
        rw [newString, Run.newText, short]
      rw [build, same]
      exact ⟨_, _, _, new .str _ (Cell.isUnguarded_ofCore _ (by decide)) rfl, rfl,
        Heap.get?_add_self _ _, (by simp), .inl (Nat.lt_succ_self _)⟩
  | list items => cases isKey
  | map pairs => cases isKey
  | record fields => cases isKey
  | object handle => cases isKey
  | function identity => cases isKey

/-- The object of a value without parts is found by the value. -/
theorem makes_key (sound : world.machine.heap.Sound) (fixed : Fixed.cells.size ≤ low)
    (isKey : value.isKey = true) : ∃ handle machine scalar,
      Makes low (build value) world handle machine ∧ IsKey machine.heap handle value scalar ∧
      (world.machine.heap.cells.size < handle.address ∨ value.sameKey value = true) := by
  obtain ⟨handle, machine, cell, makes, stands, found, single, fresh⟩ :=
    makes_scalar sound fixed isKey
  obtain ⟨scalar, holds, ofCell, nothing⟩ := Value.ofCell?_of_cell? stands
  exact ⟨handle, machine, scalar, makes, ⟨holds, ⟨cell, found, ofCell⟩, single ∘ nothing⟩, fresh⟩

end Bridge

end ForeignBridge
