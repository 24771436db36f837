import Mathlib.Data.List.Induction
import ForeignBridge.Foreign.Filling
import ForeignBridge.Proofs.Foreign.Imports

/-! # Calls from the host

A call takes its arguments out of a tuple and, where they have names, out of a dictionary. Of a tuple the
items come as they have been put in. Of a dictionary each name comes once, in the place in which it came
first, and with the object that was put under it last.

A list has a method that puts an item in front of a place. Called with place zero and an item it makes
the list that item and then what the list was, and nothing else changes.
-/

namespace ForeignBridge.Foreign

/-- The routine that puts items into lists. -/
def Routine.inserter : Routine := ⟨.core .list, "insert", .method, .between 2 2⟩

namespace Run

variable {machine : Machine} {list item method : Handle} {items : List Handle}

theorem on_itemsOf_list (found : machine.heap.get? list = some (.ofCore .list (.list items))) :
    (itemsOf list).on machine = (.ok items, machine) := by
  rw [itemsOf, on_bind _ (on_body found)]
  rfl

theorem on_itemsOf_tuple {tuple : Handle}
    (found : machine.heap.get? tuple = some (.ofCore .tuple (.tuple items))) :
    (itemsOf tuple).on machine = (.ok items, machine) := by
  rw [itemsOf, on_bind _ (on_body found)]
  rfl

/-- To insert at place zero is to put an item in front. -/
theorem on_insertItem (invoke : Invoke) (sound : machine.heap.Sound)
    (found : machine.heap.get? list = some (.ofCore .list (.list items))) (item : Handle) :
    (insertItem invoke list Fixed.zero item).on machine = (.ok (), { machine with
      heap := machine.heap.revise list (.ofCore .list (.list (item :: items))) }) := by
  have place : (asSize invoke Fixed.zero).on machine = (.ok 0, machine) := by
    rw [asSize, on_bind _ (on_asIndex_zero invoke sound)]
    rfl
  rw [insertItem, on_bind _ place, on_bind _ (on_itemsOf_list found)]
  exact on_setBody found _

/-- The title of a method of a list, once it is bound. -/
theorem on_routineTitle_list (sound : machine.heap.Sound) (name : String) (arity : Arity)
    (found : machine.heap.get? list = some (.ofCore .list (.list items))) :
    ∃ title, (routineTitle ⟨.core .list, name, .method, arity⟩ list).on machine =
      (.ok title, machine) := by
  have there := Heap.not_isNull_of_get? found
  have self : (routineSelf ⟨.core .list, name, .method, arity⟩ list).on machine =
      (.ok list, machine) := by
    rw [routineSelf, there]
    rfl
  have noClass : (isClass list).on machine = (.ok false, machine) := by
    rw [isClass, on_bind _ (on_body found)]
    rfl
  have qualified : (qualifiedName Core.list.handle).on machine = (.ok Core.list.title, machine) := by
    rw [qualifiedName, on_bind _ (on_body (get?_class sound .list))]
    rfl
  refine ⟨Core.list.title ++ "." ++ name, ?_⟩
  rw [routineTitle]
  simp only [there, reduceCtorEq, Bool.false_eq_true, false_and, or_self, ↓reduceIte]
  rw [on_bind _ self, on_bind _ noClass]
  simp only [Bool.false_eq_true, ↓reduceIte]
  rw [on_bind _ (on_typeOf found)]
  refine (on_bind _ qualified).trans ?_
  rfl

/-- To call the bound method with place zero and an item is to put the item in front. -/
theorem on_call_insert (sound : machine.heap.Sound)
    (bound : machine.heap.get? method =
      some (.ofCore .builtinFunction (.boundRoutine .inserter list)))
    (found : machine.heap.get? list = some (.ofCore .list (.list items))) (item : Handle) :
    (call method (.of [Fixed.zero, item])).on machine = (.ok Fixed.none, { machine with
      heap := machine.heap.revise list (.ofCore .list (.list (item :: items))) }) := by
  obtain ⟨title, titled⟩ := on_routineTitle_list sound "insert" (.between 2 2) found
  have arranged : (arrange .inserter (title ++ "()") (.of [Fixed.zero, item])).on machine =
      (.ok (.of [Fixed.zero, item]), machine) := rfl
  rw [call, callLimit, invokeWithin, callObject]
  refine (on_bind _ (on_body bound)).trans ?_
  change (callBound _ .inserter list (.of [Fixed.zero, item])).on machine = _
  rw [callBound]
  refine (on_bind _ titled).trans ?_
  refine (on_bind _ arranged).trans ?_
  change (listRoutine _ "insert" list (.of [Fixed.zero, item])).on machine = _
  rw [listRoutine, on_bind _ (on_itemsOf_list found)]
  refine (on_bind _ (on_insertItem _ sound found item)).trans ?_
  rfl

end Run

end ForeignBridge.Foreign

/-! Arguments with names. -/

namespace ForeignBridge.Foreign

/-- What has been gathered of objects that were given by name: each name in the place in which it came
first, with the object that was given last. -/
structure Gathers (pairs called : List (String × Handle)) : Prop where
  names : called.map (·.1) = (pairs.map (·.1)).eraseDups
  lookup : ∀ name, called.lookup name = pairs.reverse.lookup name

namespace NameList

/-- Names of the host as names of the interpreter. -/
def ofPairs (pairs : List (String × Handle)) : NameList :=
  pairs.map fun pair => (.ofString pair.1, pair.2)

variable {pairs called : List (String × Handle)} {name : String} {value : Handle}

theorem lookup_ofPairs : (ofPairs pairs).lookup (.ofString name) = pairs.lookup name := by
  induction pairs with
  | nil => rfl
  | cons pair rest ih =>
    obtain ⟨first, value⟩ := pair
    rw [ofPairs, List.map_cons]
    by_cases same : name = first
    · rw [same, List.lookup_cons_self, List.lookup_cons_self]
    · rw [lookup_cons_of_ne (mt CodePoints.ofString_inj.mp same), List.lookup_cons,
        beq_eq_false_iff_ne.mpr same]
      exact ih

/-- To put an object under a name adds the name at the end unless it is there. -/
theorem exists_put_ofPairs (pairs : List (String × Handle)) (name : String) (value : Handle) :
    ∃ after, (ofPairs pairs).put (.ofString name) value = ofPairs after ∧
      after.map (·.1) =
        if name ∈ pairs.map (·.1) then pairs.map (·.1) else pairs.map (·.1) ++ [name] := by
  cases found : pairs.lookup name with
  | some old =>
    obtain ⟨early, late, rfl, _⟩ := List.lookup_eq_some_iff.mp found
    refine ⟨(early ++ (name, old) :: late).map fun pair => if pair.1 = name then (name, value) else pair,
      ?_, ?_⟩
    · rw [put, lookup_ofPairs, found]
      simp only [replace, ofPairs, List.map_map]
      refine List.map_congr_left fun pair _ => ?_
      simp only [Function.comp_apply, CodePoints.ofString_inj]
      split <;> rfl
    · rw [if_pos (List.mem_map.mpr ⟨(name, old), by simp, rfl⟩), List.map_map]
      refine List.map_congr_left fun pair _ => ?_
      simp only [Function.comp_apply]
      split
      · rename_i same
        exact same.symm
      · rfl
  | none =>
    have absent : name ∉ pairs.map (·.1) := by
      rintro member
      obtain ⟨pair, inside, rfl⟩ := List.mem_map.mp member
      simpa using List.lookup_eq_none_iff.mp found pair inside
    refine ⟨pairs ++ [(name, value)], ?_, ?_⟩
    · rw [put, lookup_ofPairs, found, ofPairs, ofPairs, List.map_append]
      rfl
    · rw [if_neg absent, List.map_append]
      rfl

/-- One more name is a new one, or it is one of those before. -/
theorem eraseDups_concat (names : List String) (name : String) : (names ++ [name]).eraseDups =
    if name ∈ names then names.eraseDups else names.eraseDups ++ [name] := by
  rw [List.eraseDups_append]
  by_cases member : name ∈ names <;> simp [List.removeAll, List.eraseDups_cons, member]

/-- What is put under its names one after the other is gathered. -/
theorem exists_gathers (pairs : List (String × Handle)) : ∃ called, Gathers pairs called ∧
    pairs.foldl (fun (names : NameList) pair => names.put (.ofString pair.1) pair.2) [] =
      ofPairs called := by
  induction pairs using List.reverseRecOn with
  | nil => exact ⟨[], ⟨rfl, fun _ => rfl⟩, rfl⟩
  | append_singleton pairs last ih =>
    obtain ⟨name, value⟩ := last
    obtain ⟨called, gathers, same⟩ := ih
    obtain ⟨after, put, names⟩ := exists_put_ofPairs called name value
    refine ⟨after, ⟨?_, fun other => ?_⟩, ?_⟩
    · rw [names, gathers.names, List.map_append, List.map_singleton, eraseDups_concat]
      simp only [List.mem_eraseDups]
    · rw [← lookup_ofPairs, ← put, lookup_put, lookup_ofPairs, gathers.lookup, List.reverse_append,
        List.reverse_singleton, List.singleton_append, List.lookup_cons]
      by_cases again : other = name
      · rw [again, if_pos rfl, beq_self_eq_true]
      · rw [if_neg (mt CodePoints.ofString_inj.mp again), beq_eq_false_iff_ne.mpr again]
    · rw [List.foldl_append, same, List.foldl_cons, List.foldl_nil, put]

end NameList

/-- That the arguments by name of a call are what is in a dictionary, or that there are none. -/
def Machine.Gives (machine : Machine) (named : Option Handle) (called : List (String × Handle)) : Prop :=
  match named with
  | none => called = []
  | some dict => machine.heap.Lists dict (.ofPairs called)

namespace Run

variable {machine : Machine} {called : List (String × Handle)}

/-- The entries of texts give their texts and their objects. -/
theorem on_mapM_entries {entries : List Entry}
    (stand : List.Forall₂ (Entry.Names machine.heap) entries (NameList.ofPairs called)) :
    Run.on (entries.mapM fun entry => do
      return (← text? entry.key).map fun text => (text.lossy, entry.value)) machine =
      (.ok (called.map some), machine) := by
  induction called generalizing entries with
  | nil =>
    cases stand
    rfl
  | cons pair rest ih =>
    cases stand with
    | @cons entry _ _ _ first others =>
      have step : Run.on (do
          return (← text? entry.key).map fun text => (text.lossy, entry.value)) machine =
          (.ok (some pair), machine) := by
        rw [on_bind _ (on_text? first.key), Option.map_some, CodePoints.lossy_ofString, first.value]
        rfl
      rw [List.mapM_cons, on_bind _ step, on_bind _ (ih others)]
      rfl

/-- What has been gathered under names is what is found under them. -/
theorem on_namesIn {dict : Handle} (listed : machine.heap.Lists dict (.ofPairs called)) :
    (namesIn dict).on machine = (.ok called, machine) := by
  obtain ⟨⟨content, found, _, entries⟩, _⟩ := listed
  rw [namesIn, on_bind _ (on_dictionary found rfl), on_bind _ (on_mapM_entries entries)]
  simp

/-- A dictionary that is new gathers what is put into it by name. -/
theorem on_putNames_new (sound : machine.heap.Sound) (pairs : List (String × Handle)) :
    ∃ called after, (putNames (machine.heap.add (.ofCore .dict (.dict .empty))).1 pairs).on
        { machine with heap := (machine.heap.add (.ofCore .dict (.dict .empty))).2 } =
        (.ok (), after) ∧
      machine.Extends (fun _ => False) after ∧ Gathers pairs called ∧
      after.heap.Lists (machine.heap.add (.ofCore .dict (.dict .empty))).1 (.ofPairs called) := by
  obtain ⟨called, gathers, same⟩ := NameList.exists_gathers pairs
  have new := Machine.Extends.new machine (.ofCore .dict (.dict .empty))
  have found := Heap.get?_add_self machine.heap (.ofCore .dict (.dict .empty))
  obtain ⟨after, put, filled, listed⟩ := on_putNames_lists (new.sound sound)
    ⟨⟨.empty, found, ⟨.nil, nofun⟩, .nil⟩, .nil⟩ pairs
  exact ⟨called, after, put, filled.fill_new, gathers, same ▸ listed⟩

/-- A call gets the arguments that have been packed for it. -/
theorem on_callPacked (invoke : Invoke) (target : Handle) {tuple : Handle} {named : Option Handle}
    {items : List Handle} (packed : machine.heap.get? tuple = some (.ofCore .tuple (.tuple items)))
    (gives : machine.Gives named called) : (callPacked invoke target tuple named).on machine =
      (invoke target ⟨items, called⟩).on machine := by
  rw [callPacked, on_bind _ (on_itemsOf_tuple packed)]
  cases named with
  | none =>
    obtain rfl : called = [] := gives
    rfl
  | some dict => exact on_bind _ (on_namesIn gives)

end Run

end ForeignBridge.Foreign
