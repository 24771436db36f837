import ForeignBridge.Bridge.Start
import ForeignBridge.Proofs.Bridge.Act
import ForeignBridge.Proofs.Foreign.Imports

/-! # Looking names up

On a machine in working order a name that the host looks up in a module is found if the module has it,
and nothing is left of the search if not. Nor does it leave anything but new objects behind to import a
module that is there.
-/

namespace ForeignBridge

open Foreign (Heap Machine NameList Run moduleAttributes)
open Foreign.Run (call)

namespace World

/-- Worlds that differ in references and in what a machine gains that has all the other one has, apart
from what has been filled. -/
structure Extends (filled : Handle → Prop) (before after : World) : Prop where
  machine : before.machine.Extends filled after.machine
  pending : after.pending = before.pending
  session : after.session = before.session
  registry : after.registry = before.registry
  lastError : after.lastError = before.lastError
  environment : after.environment = before.environment

namespace Extends

variable {filled more : Handle → Prop} {first second third : World}

theorem refl (filled : Handle → Prop) (world : World) : world.Extends filled world :=
  ⟨.refl _ _, rfl, rfl, rfl, rfl, rfl⟩

theorem trans (early : first.Extends filled second) (late : second.Extends filled third) :
    first.Extends filled third where
  machine := early.machine.trans late.machine
  pending := late.pending.trans early.pending
  session := late.session.trans early.session
  registry := late.registry.trans early.registry
  lastError := late.lastError.trans early.lastError
  environment := late.environment.trans early.environment

theorem mono (kept : first.Extends filled second) (part : ∀ handle, filled handle → more handle) :
    first.Extends more second :=
  ⟨kept.machine.mono part, kept.pending, kept.session, kept.registry, kept.lastError, kept.environment⟩

/-- Where nothing is filled, nothing changes. -/
theorem all (kept : first.Extends (fun _ => False) second) : first.Extends filled second :=
  kept.mono fun _ => False.elim

/-- What a machine gains while it runs, with the references that the host then has. -/
theorem ran {machine : Machine} (kept : first.machine.Extends filled machine)
    (held overdrawn : List Handle) :
    first.Extends filled { first with machine, held, overdrawn } :=
  ⟨kept, rfl, rfl, rfl, rfl, rfl⟩

/-- References that are given back count for nothing. -/
theorem givenBack (kept : first.Extends filled second) (handles : List Handle) :
    first.Extends filled (handles.foldl World.giveBack second) := by
  obtain ⟨held, overdrawn, same⟩ := World.foldl_giveBack handles second
  rw [same]
  exact kept.trans (.ran (.refl _ _) held overdrawn)

end Extends

end World

namespace Bridge

variable {α : Type} {world : World} {filled : Handle → Prop} {builtins system names : NameList}
  {module dict : Handle} {name moduleName : String}

theorem requireNoNul_on {text : String} (plain : text.contains (Char.ofNat 0) = false)
    (world : World) : Bridge.on (requireNoNul text) world = (.ok (), world) := by
  rw [requireNoNul, plain]
  rfl

/-- A world in which names are looked up in a module whose names are in a dictionary. -/
structure HasNames (world : World) (module dict : Handle) (names : NameList) : Prop where
  sound : world.machine.heap.Sound
  unhandled : world.machine.handling = none
  silent : world.pending = none
  found : world.machine.heap.get? module = some (Foreign.Fixed.moduleCell dict)
  named : world.machine.heap.Names dict names
  plain : names.lookup (.ofString "__getattr__") = none

/-- A name that a module has is found, and the host has a reference to its object. -/
theorem getAttribute_found (ready : HasNames world module dict names) (other : name ∉ moduleAttributes)
    (noNul : name.contains (Char.ofNat 0) = false) {value : Handle}
    (there : names.lookup (.ofString name) = some value) : ∃ after,
      Act.on (getAttribute module name) world = (some value, after) ∧
      world.Extends (fun _ => False) after := by
  have step := Run.on_getAttribute_module call ready.sound ready.found ready.named
    (Foreign.findSome?_module other) there
  have owned := attemptOwned_on_ok step (ready.named.has there)
  refine ⟨_, ?_, .ran (.refl _ _) (value :: world.held) world.overdrawn⟩
  rw [getAttribute, Heap.not_isNull_of_get? ready.found, noNul, Bool.or_false,
    if_neg Bool.false_ne_true, Act.on_bind, owned]
  rfl

/-- A name that a module does not have is not found, and nothing is pending for that. -/
theorem getAttribute_missing (ready : HasNames world module dict names)
    (other : name ∉ moduleAttributes) (noNul : name.contains (Char.ofNat 0) = false)
    (absent : names.lookup (.ofString name) = none) : ∃ after,
      Act.on (getAttribute module name) world = (none, after) ∧
      world.Extends (fun _ => False) after := by
  obtain ⟨thrown, machine, step, kept⟩ := Run.on_getAttribute_module_missing call ready.sound
    ready.unhandled ready.found ready.named (Foreign.findSome?_module other) absent
    ready.plain
  refine ⟨{ world.withMachine machine with pending := none }, ?_, kept, ready.silent.symm, rfl, rfl,
    rfl, rfl⟩
  rw [getAttribute, Heap.not_isNull_of_get? ready.found, noNul, Bool.or_false,
    if_neg Bool.false_ne_true, Act.on_bind, attemptOwned_on_error step]
  rfl

theorem requireAttribute_found (ready : HasNames world module dict names)
    (other : name ∉ moduleAttributes) (noNul : name.contains (Char.ofNat 0) = false) {value : Handle}
    (there : names.lookup (.ofString name) = some value) (moduleName : String) : ∃ after,
      Bridge.on (requireAttribute module moduleName name) world = (.ok value, after) ∧
      world.Extends (fun _ => False) after := by
  obtain ⟨after, step, kept⟩ := getAttribute_found ready other noNul there
  refine ⟨after, ?_, kept⟩
  rw [requireAttribute, on_bind_eq, on_lift, step]
  rfl

theorem requireAttribute_missing (ready : HasNames world module dict names)
    (other : name ∉ moduleAttributes) (noNul : name.contains (Char.ofNat 0) = false)
    (absent : names.lookup (.ofString name) = none) (moduleName : String) : ∃ after,
      Bridge.on (requireAttribute module moduleName name) world =
        (.error (.bootstrap (moduleName ++ "." ++ name ++ " is missing")), after) ∧
      world.Extends (fun _ => False) after := by
  obtain ⟨after, step, kept⟩ := getAttribute_missing ready other noNul absent
  refine ⟨after, ?_, kept⟩
  rw [requireAttribute, on_bind_eq, on_lift, step]
  rfl

/-- A world whose machine is in working order and in which nothing is pending. -/
structure Prepared (world : World) (builtins system : NameList) : Prop where
  intact : world.machine.Intact builtins system
  silent : world.pending = none

namespace Prepared

theorem kept {after : World} (ready : Prepared world builtins system)
    (kept : world.Extends (fun _ => False) after) : Prepared after builtins system :=
  ⟨ready.intact.kept kept.machine, kept.pending.trans ready.silent⟩

theorem hasBuiltins (ready : Prepared world builtins system) :
    HasNames world Foreign.Fixed.builtins Foreign.Fixed.builtinNames builtins :=
  ⟨ready.intact.sound, ready.intact.unhandled, ready.silent,
    ready.intact.builtinsModule, ready.intact.builtinNames, ready.intact.builtinsPlain⟩

theorem hasSystem (ready : Prepared world builtins system) :
    HasNames world Foreign.Fixed.system Foreign.Fixed.systemNames system :=
  ⟨ready.intact.sound, ready.intact.unhandled, ready.silent,
    ready.intact.systemModule, ready.intact.systemNames, ready.intact.systemPlain⟩

end Prepared

/-- A module that is there is imported, and the host has a reference to it. -/
theorem importModule_there (ready : Prepared world builtins system)
    (loads : world.machine.Loads name module) (other : module ≠ Foreign.Fixed.none)
    (named : name ≠ "") (plain : '.' ∉ name.toList)
    (noNul : name.contains (Char.ofNat 0) = false) : ∃ after,
      Bridge.on (importModule name) world = (.ok module, after) ∧
      world.Extends (fun _ => False) after := by
  obtain ⟨machine, step, kept⟩ := Run.on_importNamed ready.intact loads other named plain
  have present : machine.heap.has module = true := by
    obtain ⟨modules, there, found⟩ := loads
    exact kept.grows.has (there.has found)
  refine ⟨_, ?_, .ran kept (module :: world.held) world.overdrawn⟩
  rw [importModule, on_bind _ (requireNoNul_on noNul world), orThrow, on_bind_eq, on_lift,
    attemptOwned_on_ok step present]
  rfl

end Bridge

end ForeignBridge
