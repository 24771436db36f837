import ForeignBridge.Proofs.Interface.Starts
import ForeignBridge.Proofs.Text.Without

/-! # What is searched after a start

The first start puts its entries in front of the search path and leaves the rest of it alone. Without a
configuration the entries are those that a variable of the environment lists between colons, and the
current directory after them.
-/

namespace ForeignBridge

open Foreign (Machine NameList neededNames)

namespace Config

/-- That entries are what a variable of the environment asks to be searched: the segments of its text
between colons, in their order and as often as they are there, but for those that are empty. The current
directory comes last. -/
def Lists (paths : Option String) (entries : List String) : Prop :=
  match paths with
  | none => entries = ["."]
  | some paths => ∃ segments, Text.Segments ':' paths segments ∧
    entries = segments.filter (fun segment => segment ≠ "") ++ ["."]

theorem lists_ofVariables (paths localSymbols : Option String) :
    Lists paths (ofVariables paths localSymbols).searchPath := by
  cases paths with
  | none => rfl
  | some paths =>
    refine ⟨_, Text.segments_iff.mpr rfl, ?_⟩
    have split : splitPaths paths =
        (paths.splitOn (String.ofList [':'])).filter fun segment => segment ≠ "" := by
      refine List.filter_congr fun segment _ => ?_
      rw [Bool.eq_iff_iff]
      simp
    rw [ofVariables, Option.map_some, Option.getD_some, split, standard]

/-- What a start fails for the lack of is a name, or the search path when it has entries for it. -/
theorem missing?_eq_none_iff {config : Config} {builtins system : NameList}
    (path : system.lookup (.ofString "path") ≠ none) : config.missing? builtins system = none ↔
      ∀ name ∈ neededNames, builtins.lookup (.ofString name) ≠ none := by
  have names (needed : List String) (last : Option String) :
      needed.foldr (fun name rest => if builtins.lookup (.ofString name) = none
          then some ("builtins." ++ name) else rest) last = none ↔
        (∀ name ∈ needed, builtins.lookup (.ofString name) ≠ none) ∧ last = none := by
    induction needed with
    | nil => simp
    | cons name rest ih =>
      rw [List.foldr_cons, List.forall_mem_cons]
      by_cases absent : builtins.lookup (.ofString name) = none
      · simp only [absent, ↓reduceIte, reduceCtorEq, ne_eq, not_true_eq_false, false_and]
      · rw [if_neg absent, ih, and_assoc]
        exact (and_iff_right absent).symm
  rw [missing?, names, if_neg fun lacking => path lacking.2]
  exact and_iff_left rfl

end Config

namespace Foreign.Machine

/-- That the search path, under its name in the module of the interpreter, is a plain list of objects. -/
structure HasSearchPath (machine : Machine) (system : NameList) (list : Handle)
    (items : List Handle) : Prop where
  names : machine.heap.Names Fixed.systemNames system
  named : system.lookup (.ofString "path") = some list
  plain : machine.heap.get? list = some (.ofCore .list (.list items))

/-- That texts have been put in front of a search path of some items, and that every object but the list
itself is as it was. -/
structure SearchesFirst (before : Machine) (system : NameList) (list : Handle) (items : List Handle)
    (entries : List String) (after : Machine) : Prop where
  path : ∃ texts, after.HasSearchPath system list (texts ++ items) ∧
    List.Forall₂ after.HoldsText texts entries
  others : ∀ object cell, object ≠ list → before.heap.get? object = some cell →
    after.heap.get? object = some cell

theorem Opens.searchesFirst {before after : Machine} {builtins system : NameList} {list : Handle}
    {items : List Handle} {entries : List String} (opens : before.Opens system entries after)
    (intact : before.Intact builtins system) (path : before.HasSearchPath system list items) :
    before.SearchesFirst system list items entries after := by
  obtain ⟨texts, plain, hold⟩ := opens.path list items path.named path.plain
  refine ⟨⟨texts, ⟨(opens.intact intact).systemNames, path.named, plain⟩, hold⟩, ?_⟩
  refine fun object cell other found => opens.kept.keeps.cells found fun _ same => other ?_
  rw [path.named, Option.some.injEq] at same
  exact same.symm

end Foreign.Machine

namespace Bridge

variable {world : World} {builtins system : NameList} {list : Handle} {items : List Handle}

/-- A first start succeeds if no built-in name that it needs is missing, and then the entries of its
configuration stand in front of the search path. -/
theorem startWith_searchesFirst (ready : Prepared world builtins system)
    (unstarted : world.session = none) (path : world.machine.HasSearchPath system list items)
    (config : Config) :
    ((∃ session after, Bridge.on (startWith config) world = (.ok session, after)) ↔
      ∀ name ∈ neededNames, builtins.lookup (.ofString name) ≠ none) ∧
    ∀ session after, Bridge.on (startWith config) world = (.ok session, after) →
      world.machine.SearchesFirst system list items config.searchPath after.machine := by
  have there : system.lookup (.ofString "path") ≠ none := path.named ▸ Option.some_ne_none list
  rw [← Config.missing?_eq_none_iff there]
  obtain ⟨what, failed, missing, step, -⟩ | ⟨enough, session, after, -, step, -, opens⟩ :=
    startWith_fails_or_starts ready unstarted config
  · rw [step, missing]
    simp
  · rw [step, enough]
    refine ⟨iff_of_true ⟨session, after, rfl⟩ rfl, fun _ _ same => ?_⟩
    cases same
    exact opens.searchesFirst ready.intact path

/-- After the first start with a configuration its entries stand in front of the search path in their
order, and after the first start without one those that the environment lists. The search path goes on
with what it was before, and nothing else has changed. Both starts succeed if no built-in name that they
need is missing. -/
theorem searchPath_of_start (ready : Prepared world builtins system)
    (unstarted : world.session = none) (path : world.machine.HasSearchPath system list items) :
    (∀ config : Config,
      ((∃ session after, Bridge.on (startWith config) world = (.ok session, after)) ↔
        ∀ name ∈ neededNames, builtins.lookup (.ofString name) ≠ none) ∧
      ∀ session after, Bridge.on (startWith config) world = (.ok session, after) →
        world.machine.SearchesFirst system list items config.searchPath after.machine) ∧
    ((∃ session after, Bridge.on start world = (.ok session, after)) ↔
      ∀ name ∈ neededNames, builtins.lookup (.ofString name) ≠ none) ∧
    ∀ session after, Bridge.on start world = (.ok session, after) →
      ∃ entries, Config.Lists world.environment.paths entries ∧
        world.machine.SearchesFirst system list items entries after.machine := by
  have starts := startWith_searchesFirst ready unstarted path
  refine ⟨starts, ?_⟩
  rw [start_eq]
  exact ⟨(starts _).1, fun session after step => ⟨_, Config.lists_ofVariables _ _, (starts _).2 _ _ step⟩⟩

/-- A world around a machine on which all names are there and something is in the search path. Some of the
segments that its environment lists are empty, and one is there twice. -/
def searchedWorld : World :=
  let named := ((Foreign.Run.setAttribute Foreign.Run.call Foreign.Fixed.builtins "list"
    Foreign.Core.list.handle).on (Machine.bareAfter Machine.fit)).2
  .ofMachine ((Foreign.Run.setBody Foreign.Fixed.searchPath (.list [Foreign.Fixed.none])).on named).2
    ⟨some ":/a::/b:/a", none⟩

/-- The built-in names of that world. -/
def searchedNames : NameList :=
  (Machine.listed Machine.fittedNames).put (.ofString "list") Foreign.Core.list.handle

theorem prepared_searchedWorld :
    Prepared searchedWorld searchedNames (Machine.listed Machine.pathNames) ∧
      searchedWorld.machine.HasSearchPath (Machine.listed Machine.pathNames) Foreign.Fixed.searchPath
        [Foreign.Fixed.none] := by
  have fit := Machine.intact_fit
  have needed : "list" ∈ neededNames := by decide
  have present : (Machine.bareAfter Machine.fit).heap.has Foreign.Core.list.handle = true :=
    Option.isSome_iff_exists.mpr ⟨_, Foreign.Run.get?_class fit.sound .list⟩
  obtain ⟨named, step, -, intact⟩ := fit.bind needed present
  have path : (Machine.listed Machine.pathNames).lookup (.ofString "path") =
      some Foreign.Fixed.searchPath := by
    simp [Machine.listed, Machine.pathNames, NameList.lookup_put]
  obtain ⟨items, plain⟩ := intact.path _ path
  have filled := intact.fill plain [Foreign.Fixed.none]
  have same : searchedWorld.machine = { named with
      heap := named.heap.revise Foreign.Fixed.searchPath (.ofCore .list (.list [Foreign.Fixed.none])) } := by
    simp only [searchedWorld, World.ofMachine, step, Foreign.Run.on_setBody plain]
    rfl
  rw [← same] at filled
  have now := @Foreign.Heap.get?_revise_self named.heap _
    (.ofCore .list (.list [Foreign.Fixed.none])) _ plain
    (by simp [Foreign.Cell.isFixed, Foreign.Cell.ofCore, Foreign.Cell.of])
  refine ⟨⟨filled, rfl⟩, filled.systemNames, path, ?_⟩
  rw [same]
  dsimp only
  exact now

/-- The start of that world. -/
theorem searchPath_of_start_listed : ∃ session after texts,
    Bridge.on start searchedWorld = (.ok session, after) ∧
    after.machine.HasSearchPath (Machine.listed Machine.pathNames) Foreign.Fixed.searchPath
      (texts ++ [Foreign.Fixed.none]) ∧
    List.Forall₂ after.machine.HoldsText texts ["/a", "/b", "/a", "."] := by
  obtain ⟨ready, path⟩ := prepared_searchedWorld
  obtain ⟨-, succeeds, searches⟩ := searchPath_of_start ready rfl path
  obtain ⟨session, after, step⟩ := succeeds.mpr (by
    simp [neededNames, searchedNames, Machine.listed, Machine.fittedNames, NameList.lookup_put,
      Foreign.CodePoints.ofString_inj])
  obtain ⟨entries, ⟨segments, listed, rfl⟩, ⟨texts, now, hold⟩, -⟩ := searches session after step
  have split : Text.Segments ':' ":/a::/b:/a" ["", "/a", "", "/b", "/a"] :=
    ⟨by decide, by decide, by decide⟩
  rw [Text.segments_iff.mp listed, ← Text.segments_iff.mp split] at hold
  exact ⟨session, after, texts, step, now, hold⟩

end Bridge

end ForeignBridge
