import ForeignBridge.Proofs.Bridge.Lookups
import ForeignBridge.Proofs.Foreign.Calls

/-! # In front of the search path

Each entry is put in front by a call of a method of the list, the last entry first, so in the end the
entries stand in front in their order.
-/

namespace ForeignBridge

open Foreign (Cell Heap Machine NameList Run)
open Foreign.Run (call)

namespace Foreign

namespace Machine

/-- That an object holds a text. -/
def HoldsText (machine : Machine) (handle : Handle) (text : String) : Prop :=
  machine.heap.get? handle = some (.ofCore .str (.text (.ofString text)))

theorem HoldsText.kept {filled : Handle → Prop} {before after : Machine} {handle : Handle}
    {text : String} (holds : before.HoldsText handle text) (kept : before.Extends filled after) :
    after.HoldsText handle text :=
  kept.keeps.cells holds fun shape => absurd shape (Cell.not_isContainer nofun nofun)

/-- A machine on which entries have been put in front of the search path, if there is one, and nothing
else that was there has changed. -/
structure Opens (system : NameList) (entries : List String) (before after : Machine) : Prop where
  kept : before.Extends (fun list => system.lookup (.ofString "path") = some list) after
  path : ∀ list items, system.lookup (.ofString "path") = some list →
    before.heap.get? list = some (.ofCore .list (.list items)) →
    ∃ texts, after.heap.get? list = some (.ofCore .list (.list (texts ++ items))) ∧
      List.Forall₂ after.HoldsText texts entries

/-- More objects do no harm. -/
theorem Opens.early {system : NameList} {entries : List String} {first second third : Machine}
    (early : first.Extends (fun _ => False) second) (opens : second.Opens system entries third) :
    first.Opens system entries third :=
  ⟨early.all.trans opens.kept, fun list items same there => opens.path list items same (early.cell there)⟩

/-- The machine stays in working order, with the same names. -/
theorem Opens.intact {builtins system : NameList} {entries : List String} {before after : Machine}
    (opens : before.Opens system entries after) (intact : before.Intact builtins system) :
    after.Intact builtins system := by
  have apart {dict : Handle} {names : NameList} (named : before.heap.Names dict names) :
      system.lookup (.ofString "path") ≠ some dict := fun found => by
    obtain ⟨items, there⟩ := intact.path dict found
    exact named.ne_list there rfl
  obtain ⟨modules, loaded, _⟩ := intact.builtinsLoaded
  refine intact.of_extends opens.kept (apart loaded)
    (intact.builtinNames.kept opens.kept (apart intact.builtinNames))
    (intact.systemNames.kept opens.kept (apart intact.systemNames)) rfl intact.builtinsPlain
    intact.systemPlain fun list found => ?_
  obtain ⟨items, there⟩ := intact.path list found
  obtain ⟨texts, now, _⟩ := opens.path list items found there
  exact ⟨texts ++ items, now⟩

end Machine

end Foreign

namespace Bridge

variable {world : World} {path method : Handle} {items : List Handle}

/-- If nothing is pending there is nothing to fail with. -/
theorem check_on_silent (silent : world.pending = none) : Bridge.on check world = (.ok (), world) := by
  have fetched : Act.on fetch world = (none, world) := by
    rw [fetch, Act.on_get_bind, silent]
    rfl
  rw [check, on_bind_eq, on_lift, fetched]
  rfl

theorem settledObject_on (silent : world.pending = none) (handle : Handle) :
    Bridge.on (settledObject (some handle)) world = (.ok handle, world) := by
  rw [settledObject, settled, on_bind _ (elseRelease_on_ok (check_on_silent silent))]
  rfl

/-! The arguments. -/

/-- An object that is there already is handed out again. -/
theorem made_on_there {run : Run Handle} {handle : Handle} {machine : Machine} {cell : Cell}
    (step : run.on world.machine = (.ok handle, machine))
    (kept : world.machine.Extends (fun _ => False) machine)
    (found : machine.heap.get? handle = some cell) : ∃ after,
      Bridge.on (made run) world = (.ok handle, after) ∧ world.Extends (fun _ => False) after ∧
      after.machine = machine :=
  ⟨_, made_on_ok step (Option.isSome_iff_exists.mpr ⟨_, found⟩), .ran kept _ _, rfl⟩

/-- A tuple is new unless it is the empty one. -/
theorem newTuple_made (sound : world.machine.heap.Sound) (items : List Handle) : ∃ tuple after,
    Bridge.on (made (Run.newTuple items)) world = (.ok tuple, after) ∧
    world.Extends (fun _ => False) after ∧
    after.machine.heap.get? tuple = some (.ofCore .tuple (.tuple items)) := by
  cases items with
  | nil =>
    have there := sound.fixed Foreign.Fixed.get?_emptyTuple
      (by simp [Cell.isFixed, Cell.ofCore, Cell.of])
    obtain ⟨after, step, kept, same⟩ := @made_on_there world (Run.newTuple [])
      Foreign.Fixed.emptyTuple world.machine _ rfl (.refl _ _) there
    exact ⟨_, after, step, kept, same ▸ there⟩
  | cons item rest =>
    have new := Machine.Extends.new world.machine (.ofCore .tuple (.tuple (item :: rest)))
    have there := Heap.get?_add_self world.machine.heap (.ofCore .tuple (.tuple (item :: rest)))
    obtain ⟨after, step, kept, same⟩ := @made_on_there world (Run.newTuple (item :: rest)) _ _ _ rfl
      new there
    exact ⟨_, after, step, kept, same ▸ there⟩

/-- The tuple of the arguments zero and a text is new. -/
theorem buildTuple_spec (sound : world.machine.heap.Sound) (entry : String) : ∃ tuple text after,
    Bridge.on (buildTuple [.int 0, .text entry]) world = (.ok tuple, after) ∧
    world.Extends (fun _ => False) after ∧ after.machine.HoldsText text entry ∧
    after.machine.heap.get? tuple =
      some (.ofCore .tuple (.tuple [Foreign.Fixed.zero, text])) := by
  obtain ⟨counted, zeroStep, zeroKept, _⟩ := @made_on_there world (Run.newInt 0) Foreign.Fixed.zero
    world.machine _ rfl (.refl _ _) (Run.get?_zero sound)
  obtain ⟨text, machine, run, kept, holds⟩ :=
    Run.on_newText (zeroKept.machine.sound sound) (.ofString entry)
  obtain ⟨named, textStep, textKept, same⟩ :=
    @made_on_there counted (Run.newString entry) _ _ _ run kept holds
  have both := zeroKept.trans textKept
  obtain ⟨tuple, packed, tupleStep, tupleKept, found⟩ :=
    newTuple_made (both.machine.sound sound) [Foreign.Fixed.zero, text]
  obtain ⟨held, overdrawn, back⟩ := thenRelease_on_ok [Foreign.Fixed.zero, text] tupleStep
  have built : Bridge.on (buildAll [.int 0, .text entry]) world =
      (.ok [Foreign.Fixed.zero, text], named) := by
    have last : Bridge.on (buildAll [.text entry]) counted = (.ok [text], named) := by
      rw [buildAll, build, on_bind _ textStep]
      rfl
    rw [buildAll, build, Int64.toInt_zero, on_bind _ zeroStep, on_bind _ (elseRelease_on_ok last)]
    rfl
  refine ⟨tuple, text, _, ?_, both.trans (tupleKept.trans (.ran (.refl _ _) held overdrawn)),
    Machine.HoldsText.kept (same ▸ holds) tupleKept.machine, found⟩
  rw [buildTuple, on_bind _ built, back]

/-! The call. -/

/-- A call without named arguments whose arguments have been built comes to what it runs to. -/
theorem callWith_on_ok {packed : World} {tuple answer : Handle} {machine : Machine}
    {arguments : List Value} (object : method.isNull = false)
    (built : Bridge.on (buildTuple arguments) world = (.ok tuple, packed))
    (silent : packed.pending = none)
    (run : (Run.callPacked call method tuple none).on packed.machine = (.ok answer, machine))
    (present : machine.heap.has answer = true) : ∃ held overdrawn,
      Bridge.on (callWith method arguments []) world =
        (.ok answer, { packed with machine, held, overdrawn }) := by
  obtain ⟨held, overdrawn, back⟩ := World.foldl_giveBack [tuple]
    ((packed.withMachine machine).withHeld (answer :: packed.held))
  refine ⟨held, overdrawn, ?_⟩
  rw [callWith, requireObject, object]
  refine (on_bind _ (on_pure () world)).trans ?_
  rw [on_bind _ built]
  refine (on_bind _ (elseRelease_on_ok (on_pure none packed))).trans ?_
  rw [on_bind_eq, on_lift, attemptOwned_on_ok run present]
  refine (on_bind_eq _ _ _).trans ?_
  rw [on_lift, releaseAll_on]
  change Bridge.on _ ([tuple].foldl World.giveBack _) = _
  rw [back]
  exact @settledObject_on { packed with machine, held, overdrawn } silent answer

/-- To call the bound method with zero and a text is to put an object that holds the text in front. -/
theorem callWith_insert (sound : world.machine.heap.Sound) (silent : world.pending = none)
    (bound : world.machine.heap.get? method =
      some (.ofCore .builtinFunction (.boundRoutine .inserter path)))
    (found : world.machine.heap.get? path = some (.ofCore .list (.list items))) (entry : String) :
    ∃ answer text after,
      Bridge.on (callWith method [.int 0, .text entry] []) world = (.ok answer, after) ∧
      world.Extends (· = path) after ∧ after.machine.HoldsText text entry ∧
      after.machine.heap.get? path = some (.ofCore .list (.list (text :: items))) := by
  obtain ⟨tuple, text, packed, tupleStep, kept, holds, filled⟩ := buildTuple_spec sound entry
  have sound := kept.machine.sound sound
  have list := kept.machine.cell found
  have run : (Run.callPacked call method tuple none).on packed.machine = (.ok Foreign.Fixed.none,
      { packed.machine with
        heap := packed.machine.heap.revise path (.ofCore .list (.list (text :: items))) }) := by
    rw [Run.callPacked, Run.on_bind _ (Run.on_itemsOf_tuple filled)]
    refine (Run.on_bind _ (Run.on_pure _)).trans ?_
    exact Run.on_call_insert sound (kept.machine.cell bound) list text
  have inFront := Machine.Extends.revise list (.inl rfl) (.ofCore .list (.list (text :: items)))
  have there := (inFront.sound sound).fixed Foreign.Fixed.get?_none
    (by simp [Cell.isFixed, Cell.ofCore, Cell.of])
  obtain ⟨held, overdrawn, step⟩ := callWith_on_ok (Heap.not_isNull_of_get? bound) tupleStep
    (kept.pending.trans silent) run (Option.isSome_iff_exists.mpr ⟨_, there⟩)
  have late := World.Extends.ran inFront held overdrawn
  exact ⟨_, text, _, step, kept.all.trans late, holds.kept late.machine, Heap.get?_revise_self list
    (by simp [Cell.isFixed, Cell.ofCore, Cell.of])⟩

/-- To insert a text into a list is to put an object that holds it in front. -/
theorem callMethod_insert (sound : world.machine.heap.Sound) (silent : world.pending = none)
    (found : world.machine.heap.get? path = some (.ofCore .list (.list items))) (entry : String) :
    ∃ answer text after,
      Bridge.on (callMethod path "insert" [.int 0, .text entry] []) world = (.ok answer, after) ∧
      world.Extends (· = path) after ∧ after.machine.HoldsText text entry ∧
      after.machine.heap.get? path = some (.ofCore .list (.list (text :: items))) := by
  obtain ⟨method, machine, run, read, bound⟩ := @Run.on_getAttribute_list world.machine "insert" call
    sound path items (.between 2 2) found (by decide) (by decide) (by decide)
  have owned := attemptOwned_on_ok run (Option.isSome_iff_exists.mpr ⟨_, bound⟩)
  have early : world.Extends (fun _ => False) _ := .ran read (method :: world.held) world.overdrawn
  have taken : Act.on (getAttribute path "insert") world =
      (some method, { world with machine, held := method :: world.held }) := by
    have plain : "insert".contains (Char.ofNat 0) = false := by simp
    rw [getAttribute, Heap.not_isNull_of_get? found, plain, Bool.or_false,
      if_neg Bool.false_ne_true, Act.on_bind, owned]
    rfl
  obtain ⟨answer, text, called, step, late, holds, list⟩ := callWith_insert (read.sound sound)
    (early.pending.trans silent) bound (read.cell found) entry
  obtain ⟨held, overdrawn, back⟩ := World.foldl_giveBack [method] called
  have last := World.Extends.ran (.refl (· = path) called.machine) held overdrawn
  refine ⟨answer, text, _, ?_, (early.all.trans late).trans last, holds, list⟩
  rw [callMethod, on_bind_eq, on_lift, taken]
  refine (thenRelease_on _ _ _).trans ?_
  rw [step, back]

/-! The entries. -/

/-- Entries that are inserted stand in front in their order. -/
theorem insertEntries_spec (sound : world.machine.heap.Sound) (silent : world.pending = none)
    (found : world.machine.heap.get? path = some (.ofCore .list (.list items)))
    (entries : List String) : ∃ texts after,
      Bridge.on (insertEntries path entries) world = (.ok (), after) ∧
      world.Extends (· = path) after ∧ List.Forall₂ after.machine.HoldsText texts entries ∧
      after.machine.heap.get? path = some (.ofCore .list (.list (texts ++ items))) := by
  induction entries with
  | nil => exact ⟨[], world, rfl, .refl _ _, .nil, found⟩
  | cons entry rest ih =>
    obtain ⟨texts, middle, others, early, hold, list⟩ := ih
    obtain ⟨answer, text, called, step, late, holds, list⟩ :=
      callMethod_insert (early.machine.sound sound) (early.pending.trans silent) list entry
    obtain ⟨held, overdrawn, back⟩ := World.foldl_giveBack [answer] called
    have last := World.Extends.ran (.refl (· = path) called.machine) held overdrawn
    refine ⟨text :: texts, _, ?_, (early.trans late).trans last,
      .cons holds (hold.imp fun _ _ holds => (holds.kept late.machine).kept last.machine), list⟩
    rw [insertEntries, on_bind _ others, on_bind _ step, on_lift, release_on]
    exact congrArg (Prod.mk _) back

variable {builtins system : NameList} {entries : List String}

/-- Once the module of the interpreter is imported its search path is asked for. -/
private theorem extendSearchPath_on {module : Handle} {imported : World} (needed : entries ≠ [])
    (importStep : Bridge.on (importModule "sys") world = (.ok module, imported)) :
    Bridge.on (extendSearchPath entries) world =
      Bridge.on (thenRelease [module] do
        let path ← requireAttribute module "sys" "path"
        thenRelease [path] (insertEntries path entries)) imported := by
  rw [extendSearchPath, List.isEmpty_eq_false_iff.mpr needed]
  exact on_bind _ importStep

/-- The search path is extended if there is one or no need of one. -/
theorem extendSearchPath_there (ready : Prepared world builtins system)
    (enough : entries ≠ [] → system.lookup (.ofString "path") ≠ none) : ∃ after,
      Bridge.on (extendSearchPath entries) world = (.ok (), after) ∧
      world.Extends (fun list => system.lookup (.ofString "path") = some list) after ∧
      world.machine.Opens system entries after.machine := by
  by_cases needed : entries = []
  · subst needed
    refine ⟨world, rfl, .refl _ _, .refl _ _, fun list items _ there => ⟨[], ?_, .nil⟩⟩
    rwa [List.nil_append]
  · obtain ⟨list, inSystem⟩ := Option.ne_none_iff_exists'.mp (enough needed)
    obtain ⟨imported, importStep, early⟩ := importModule_there ready ready.intact.systemLoaded
      Foreign.Fixed.system_ne_none (by decide) (by decide) (by simp)
    obtain ⟨found, pathStep, next⟩ := requireAttribute_found (ready.kept early).hasSystem (by decide)
      (by simp) inSystem "sys"
    have opened := (ready.kept early).kept next
    obtain ⟨items, there⟩ := ready.intact.path list inSystem
    obtain ⟨texts, inserted, insertStep, late, hold, now⟩ := insertEntries_spec opened.intact.sound
      opened.silent (next.machine.cell (early.machine.cell there)) entries
    have filled := ((early.trans next).all.trans late).mono fun handle same =>
      (same ▸ inSystem : system.lookup (.ofString "path") = some handle)
    obtain ⟨held, overdrawn, step⟩ := thenRelease_on_ok [list] insertStep
    obtain ⟨held, overdrawn, step⟩ := thenRelease_on_ok [Foreign.Fixed.system]
      ((on_bind (fun path => thenRelease [path] (insertEntries path entries)) pathStep).trans step)
    refine ⟨_, (extendSearchPath_on needed importStep).trans step,
      filled.trans (.ran (.refl _ _) held overdrawn), filled.machine, fun other items' same was => ?_⟩
    rw [inSystem, Option.some.injEq] at same
    subst same
    rw [there, Option.some.injEq] at was
    cases was
    exact ⟨texts, now, hold⟩

/-- Entries cannot be put in front of a search path that is not there. -/
theorem extendSearchPath_missing (ready : Prepared world builtins system) (needed : entries ≠ [])
    (absent : system.lookup (.ofString "path") = none) : ∃ after,
      Bridge.on (extendSearchPath entries) world =
        (.error (.bootstrap "sys.path is missing"), after) ∧
      world.Extends (fun _ => False) after := by
  obtain ⟨imported, importStep, early⟩ := importModule_there ready ready.intact.systemLoaded
    Foreign.Fixed.system_ne_none (by decide) (by decide) (by simp)
  obtain ⟨after, step, late⟩ := requireAttribute_missing (ready.kept early).hasSystem (by decide)
    (by simp) absent "sys"
  refine ⟨_, ?_, (early.trans late).givenBack [Foreign.Fixed.system]⟩
  rw [extendSearchPath_on needed importStep, thenRelease_on, on_bind_eq, step,
    show "sys" ++ "." ++ "path" ++ " is missing" = "sys.path is missing" by decide]

end Bridge

end ForeignBridge
