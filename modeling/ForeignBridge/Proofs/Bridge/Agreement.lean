import ForeignBridge.Proofs.Bridge.Construction
import ForeignBridge.Proofs.Bridge.RoundTrip
import ForeignBridge.Proofs.Text.Utf8
import ForeignBridge.Proofs.Value.Dictionary
import ForeignBridge.Proofs.Value.Document

/-! # Looking keys up there and back

A key is looked up in a map and in what the map is read back as, once an object has been built for it. The
map has the value of the first pair with an equal key. The dictionary was given the pairs in turn: where
keys are one it keeps the first key and the last value. So both find one value if no two keys of the map
are one, and where some are, the dictionary may have another value under the key, or no key that is equal.
-/

namespace ForeignBridge

open Foreign

namespace Value

/-- The objects within a part of a value are in the value. -/
theorem Within.objects_subset {part value : Value} (within : Within part value) :
    part.objects ⊆ value.objects := by
  induction within with
  | self => exact List.Subset.refl _
  | item member _ ih => exact List.Subset.trans ih (itemObjects_subset.mp (List.Subset.refl _) _ member)
  | key member _ ih => exact List.Subset.trans ih (pairObjects_subset.mp (List.Subset.refl _) _ member).1
  | value member _ ih => exact List.Subset.trans ih (pairObjects_subset.mp (List.Subset.refl _) _ member).2
  | field member _ ih => exact List.Subset.trans ih (fieldObjects_subset.mp (List.Subset.refl _) _ member)

/-- Where there is no object none is a key. -/
theorem plainKeys_of_no_objects {value : Value} (bare : value.objects = []) : value.PlainKeys := by
  rintro pairs within ⟨_, image⟩ member handle rfl
  have part := (pairObjects_subset.mp (List.Subset.refl _) _ member).1
  have inside := within.objects_subset (part (List.mem_singleton_self handle))
  rw [bare] at inside
  cases inside

/-- A value without objects is converted if nothing in it is at fault. -/
theorem convertible_of_no_faults {alone : Handle → Prop} {value : Value} (clean : value.faults = [])
    (bare : value.objects = []) (ordered : value.Ordered) : value.Convertible alone := by
  induction value using induction with
  | null | bool _ | int _ | float _ | text _ => trivial
  | object handle => cases bare
  | function identity => cases clean
  | list items each =>
    rw [faults, itemFaults_eq, List.flatMap_eq_nil_iff] at clean
    rw [objects, itemObjects_eq, List.flatMap_eq_nil_iff] at bare
    rw [Ordered, itemsOrdered_iff] at ordered
    rw [Convertible, itemsConvertible_iff]
    exact fun item member =>
      each item member (clean item member) (bare item member) (ordered item member)
  | map pairs each =>
    rw [faults, pairFaults_eq, List.flatMap_eq_nil_iff] at clean
    rw [objects, pairObjects_eq, List.flatMap_eq_nil_iff] at bare
    rw [Ordered, pairsOrdered_iff] at ordered
    rw [Convertible, pairsConvertible_iff]
    intro pair member
    have cleanPair := clean pair member
    have barePair := bare pair member
    simp only [List.append_eq_nil_iff] at cleanPair barePair
    obtain ⟨⟨cleanKey, cleanImage⟩, noFault⟩ := cleanPair
    refine ⟨?_, (each pair member).2 cleanImage barePair.2 (ordered pair member).2⟩
    have noObject (handle : Handle) : pair.1 ≠ object handle := fun same => by
      rw [same] at barePair
      cases barePair.1
    obtain ⟨isKey, _⟩ | ⟨type, _, fault⟩ := isKey_or_unhashable cleanKey noObject
    · exact isKey
    · rw [fault] at noFault
      cases noFault
  | record fields each =>
    rw [faults, fieldFaults_eq, List.flatMap_eq_nil_iff] at clean
    rw [objects, fieldObjects_eq, List.flatMap_eq_nil_iff] at bare
    rw [Ordered, fieldsOrdered_iff] at ordered
    rw [Convertible, fieldsConvertible_iff]
    exact ⟨ordered.1.imp bytes_lt, fun field member => each field member (clean field member)
      (bare field member) (ordered.2 field member)⟩

end Value

namespace Bridge

variable {world built : World} {session : Session} {handle : Handle}

/-- What is found under a key of a map, and under the same key once an object has been built for the map
and read back. The map answers with the pair whose key is the first to be equal to it, `own`. Of the pairs
whose keys are one with it the dictionary has the key of the `first` and the value of the `last`. -/
theorem get?_readBack {pairs : List (Value × Value)} (running : world.session = some session)
    (standard : session.Standard) (sound : world.machine.heap.Sound)
    (ordered : (Value.map pairs).Ordered) (bare : (Value.map pairs).objects = [])
    (numbers : ∀ x ∈ (Value.map pairs).doubles, x.isNaN = false)
    (shallow : (Value.map pairs).depth ≤ 512)
    (accepted : Bridge.on (build (.map pairs)) world = (.ok handle, built)) :
    ∃ back read, Bridge.on (valueOf handle) built = (.ok back, read) ∧ ∀ pair ∈ pairs,
      ∃ own first last : Value × Value,
        (pairs.find? fun other => other.1.equal pair.1) = some own ∧
        (pairs.find? fun other => other.1.sameKey pair.1) = some first ∧
        (pairs.reverse.find? fun other => other.1.sameKey pair.1) = some last ∧
        (Value.map pairs).get? pair.1 = some own.2 ∧
        back.get? pair.1 = (if first.1.equal pair.1 then some last.2.normal else none) ∧
        (back.get? pair.1 = ((Value.map pairs).get? pair.1).map Value.normal ↔
          first.1.equal pair.1 = true ∧ last.2.normal = own.2.normal) ∧
        ((∀ other ∈ pairs, other.1.sameKey pair.1 = true → other = pair) →
          (Value.map pairs).get? pair.1 = some pair.2 ∧ back.get? pair.1 = some pair.2.normal) := by
  have plain := Value.plainKeys_of_no_objects bare
  have convertible := @Value.convertible_of_no_faults (session.LeavesAlone world.machine.heap) _
    (faults_of_build sound plain accepted) bare ordered
  obtain ⟨_, _, read, step, back⟩ := readsBack standard ⟨running, sound⟩ convertible shallow
  rw [accepted, Prod.mk.injEq, Except.ok.injEq] at step
  obtain ⟨rfl, rfl⟩ := step
  have keys : ∀ pair ∈ pairs, pair.1.isKey = true := by
    rw [Value.Convertible, Value.pairsConvertible_iff] at convertible
    exact fun pair member => (convertible pair member).1
  rw [Value.doubles, Value.forall_mem_pairDoubles] at numbers
  refine ⟨_, read, back, fun pair member => ?_⟩
  have equal : pair.1.equal pair.1 = true := Value.equal_self_iff.mpr (numbers pair member).1
  have same : pair.1.sameKey pair.1 = true := Value.sameKey_of_equal (keys pair member) equal
  have occurs {list : List (Value × Value)} {among : Value × Value → Bool} (there : pair ∈ list)
      (holds : among pair = true) : ∃ found, list.find? among = some found :=
    Option.isSome_iff_exists.mp (List.find?_isSome.mpr ⟨pair, there, holds⟩)
  obtain ⟨own, ownFound⟩ := @occurs _ (fun other => other.1.equal pair.1) member equal
  obtain ⟨first, earliest⟩ := @occurs _ (fun other => other.1.sameKey pair.1) member same
  obtain ⟨last, latest⟩ := @occurs _ (fun other => other.1.sameKey pair.1)
    (List.mem_reverse.mpr member) same
  have found : (Value.map pairs).get? pair.1 = some own.2 := by
    rw [Value.get?, ownFound, Option.map_some]
  have kept := Value.get?_normalPairs keys earliest latest
  refine ⟨own, first, last, ownFound, earliest, latest, found, kept, ?_, fun alone => ?_⟩
  · rw [found, Value.normal, kept]
    cases first.1.equal pair.1 <;> simp
  · have chosen {list : List (Value × Value)} {other : Value × Value} (within : list ⊆ pairs)
        (found : (list.find? fun other => other.1.sameKey pair.1) = some other) : other = pair :=
      alone other (within (List.mem_of_find?_eq_some found)) (List.find?_some found :)
    have ownEqual : own.1.equal pair.1 = true := (List.find?_some ownFound :)
    have ownMember := List.mem_of_find?_eq_some ownFound
    obtain rfl := alone own ownMember (Value.sameKey_of_equal (keys own ownMember) ownEqual)
    obtain rfl := chosen (List.Subset.refl _) earliest
    obtain rfl := chosen (fun _ => List.mem_reverse.mp) latest
    exact ⟨found, by rw [Value.normal, kept, if_pos equal]⟩

/-- A map with one key for two texts. -/
def twice : List (Value × Value) := [(.int 1, .text "a"), (.int 1, .text "b")]

/-- The map finds the first text, and what is read back has the second one. -/
theorem get?_readBack_twice :
    let world := { World.ofMachine Machine.bare ⟨none, none⟩ with session := some .ofFixed }
    (Value.map twice).doubles = [] ∧ (Value.map twice).objects = [] ∧ (Value.map twice).depth ≤ 512 ∧
    ∃ handle built back read, Bridge.on (build (.map twice)) world = (.ok handle, built) ∧
      Bridge.on (valueOf handle) built = (.ok back, read) ∧
      (Value.map twice).get? (.int 1) = some (.text "a") ∧ back.get? (.int 1) = some (.text "b") ∧
      back.get? (.int 1) ≠ ((Value.map twice).get? (.int 1)).map Value.normal := by
  obtain ⟨handle, built, read, step, back⟩ := @readsBack .ofFixed
    { World.ofMachine Machine.bare ⟨none, none⟩ with session := some .ofFixed } (.map twice)
    Session.standard_ofFixed ⟨rfl, Machine.sound_bare⟩ ⟨rfl, trivial, rfl, trivial, trivial⟩ (by decide)
  have found : (Value.map twice).get? (.int 1) = some (.text "a") := by
    simp [twice, Value.get?, Value.equal]
  have kept : (Value.map twice).normal.get? (.int 1) = some (.text "b") := by
    simp [twice, Value.normal, Value.normalPairs, Value.putPair, Value.sameKey, Value.whole?,
      Value.get?, Value.equal]
  refine ⟨rfl, rfl, by decide, handle, built, _, read, step, back, found, kept, ?_⟩
  rw [kept, found]
  simp [Value.normal]

/-- A map in which three pairs are under one key, one of them under another value, and a record is under a
key of its own. -/
def crowded : List (Value × Value) :=
  [(.int 1, .text "a"), (.text "r", .record [("b", .null)]), (.bool true, .text "c"), (.int 1, .list [])]

theorem get?_readBack_crowded :
    let world := { World.ofMachine Machine.bare ⟨none, none⟩ with session := some .ofFixed }
    ∃ handle built back read, Bridge.on (build (.map crowded)) world = (.ok handle, built) ∧
      Bridge.on (valueOf handle) built = (.ok back, read) ∧
      (Value.map crowded).get? (.int 1) = some (.text "a") ∧ back.get? (.int 1) = some (.list []) ∧
      (Value.map crowded).get? (.bool true) = some (.text "c") ∧ back.get? (.bool true) = none ∧
      back.get? (.text "r") = some (.map [(.text "b", .null)]) := by
  obtain ⟨handle, built, -, step, -⟩ := @readsBack .ofFixed
    { World.ofMachine Machine.bare ⟨none, none⟩ with session := some .ofFixed } (.map crowded)
    Session.standard_ofFixed ⟨rfl, Machine.sound_bare⟩
    ⟨rfl, trivial, rfl, ⟨by decide, trivial, trivial⟩, rfl, trivial, rfl, trivial, trivial⟩ (by decide)
  have ordered : (Value.map crowded).Ordered := by
    simp [crowded, Value.Ordered, Value.PairsOrdered, Value.FieldsOrdered, Value.ItemsOrdered,
      Fields.Ascending]
  have numbers : ∀ x ∈ (Value.map crowded).doubles, x.isNaN = false := List.forall_mem_nil _
  obtain ⟨back, read, answer, all⟩ := get?_readBack rfl Session.standard_ofFixed Machine.sound_bare
    ordered rfl numbers (by decide) step
  have int := all (.int 1, .text "a") (by simp [crowded])
  have bool := all (.bool true, .text "c") (by simp [crowded])
  have text := all (.text "r", .record [("b", .null)]) (by simp [crowded])
  simp [crowded, Value.equal, Value.sameKey, Value.whole?, Value.normal, Value.normalItems,
    Value.normalFields] at int bool text
  exact ⟨handle, built, back, read, step, answer, int.1, int.2.1, bool.1, bool.2.1,
    text.2.1⟩

end Bridge

end ForeignBridge
