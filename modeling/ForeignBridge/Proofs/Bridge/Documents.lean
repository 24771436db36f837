import ForeignBridge.Bridge.Objects
import ForeignBridge.Proofs.Bridge.Reading
import ForeignBridge.Proofs.Bridge.RoundTrip
import ForeignBridge.Proofs.Json.Reader
import ForeignBridge.Proofs.Text.Utf8
import ForeignBridge.Proofs.Value.Document
import ForeignBridge.Proofs.Value.Objects

/-! # Documents there and back

What an object reads as depends on what is reached from it, and on nothing else. So it reads as it did as
long as nothing that is reached from it has changed, whatever else has come to be or gone.

An object that is built for a document stands for a document again: for the normal form of the first.
The records in between come back as maps whose keys are their names, so every member is found under
its name.
-/

namespace ForeignBridge

namespace Foreign.Heap

/-- What is reached from an object: itself, and what is reached from what it refers to. -/
inductive Reaches (heap : Heap) : Handle → Handle → Prop where
  | refl (handle : Handle) : Reaches heap handle handle
  | step {handle part object : Handle} {cell : Cell} (found : heap.get? handle = some cell)
    (refers : part ∈ cell.body.references) (reaches : Reaches heap part object) :
    Reaches heap handle object

/-- That an object is what it was, with all that is reached from it. -/
def Unchanged (heap later : Heap) (handle : Handle) : Prop :=
  ∀ object, heap.Reaches handle object → later.get? object = heap.get? object

variable {heap later : Heap} {handle : Handle}

theorem Unchanged.refl (heap : Heap) (handle : Handle) : heap.Unchanged heap handle := fun _ _ => rfl

/-- The parts of an object that has not changed have not changed. -/
theorem Unchanged.part {cell : Cell} {part : Handle} (unchanged : heap.Unchanged later handle)
    (found : heap.get? handle = some cell) (refers : part ∈ cell.body.references) :
    heap.Unchanged later part :=
  fun object reaches => unchanged object (.step found refers reaches)

end Foreign.Heap

namespace Value

open Foreign (Heap)

/-- Parts that come to the same one by one come to the same. -/
private theorem mapM_congr {α β ε : Type} {f g : α → Except ε β} {parts : List α}
    (same : ∀ part ∈ parts, f part = g part) : parts.mapM f = parts.mapM g := by
  induction parts with
  | nil => rfl
  | cons part rest ih =>
    obtain ⟨first, others⟩ := List.forall_mem_cons.mp same
    rw [List.mapM_cons, List.mapM_cons, first, ih others]

/-- An object that has not changed reads as it did. -/
theorem readWithin_of_unchanged {heap later : Heap} {handle : Handle} (session : Session) (room : ℕ)
    (path : List Handle) (unchanged : heap.Unchanged later handle) :
    readWithin session later room path handle = readWithin session heap room path handle := by
  induction room generalizing path handle with
  | zero =>
    rw [readWithin.eq_def, readWithin.eq_def session heap, unchanged handle (.refl handle)]
  | succ room ih =>
    have still := unchanged handle (.refl handle)
    cases found : heap.get? handle with
    | none => rw [readWithin_absent found, readWithin_absent (still.trans found)]
    | some cell =>
      have part {part : Handle} (refers : part ∈ cell.body.references) :
          readWithin session later room (handle :: path) part =
            readWithin session heap room (handle :: path) part :=
        ih (handle :: path) (unchanged.part found refers)
      rw [readWithin.eq_def, readWithin.eq_def session heap, still, found]
      simp only
      split
      · rename_i items _ shape
        rw [shape] at part
        have values : items.mapM (readWithin session later room (handle :: path)) =
            items.mapM (readWithin session heap room (handle :: path)) :=
          mapM_congr fun item member => part member
        rw [values]
      · rename_i content _ shape
        rw [shape] at part
        have entries : content.entries.mapM (fun entry => do
              let key ← readWithin session later room (handle :: path) entry.key
              let value ← readWithin session later room (handle :: path) entry.value
              return (key, value)) = content.entries.mapM fun entry => do
              let key ← readWithin session heap room (handle :: path) entry.key
              let value ← readWithin session heap room (handle :: path) entry.value
              return (key, value) := by
          refine mapM_congr fun entry member => ?_
          have key := part (List.mem_flatMap.mpr ⟨entry, member, List.mem_cons_self ..⟩)
          have value := part (List.mem_flatMap.mpr
            ⟨entry, member, List.mem_cons_of_mem _ (List.mem_singleton_self _)⟩)
          rw [key, value]
        rw [entries]
      · rfl

theorem read_of_unchanged {heap later : Heap} {handle : Handle} (session : Session)
    (unchanged : heap.Unchanged later handle) :
    read session later handle = read session heap handle :=
  readWithin_of_unchanged session depthLimit [] unchanged

end Value

end ForeignBridge

namespace ForeignBridge

namespace Value

/-! The values of documents. -/

theorem depth_ofNumber (x : Double) : (ofNumber x).depth = 0 := by
  unfold ofNumber
  split <;> rfl

/-- A value is as deep as its document. -/
theorem depth_ofJson (document : Json) : (ofJson document).depth = document.depth := by
  induction document using Json.induction with
  | null | bool b | string text => rfl
  | integer n =>
    rw [ofJson_integer]
    split
    · rfl
    · exact depth_ofNumber _
  | float x => exact depth_ofNumber x
  | array items each =>
    rw [ofJson, depth, Json.depth]
    congr 1
    induction items with
    | nil => rfl
    | cons item rest ih =>
      obtain ⟨first, others⟩ := List.forall_mem_cons.mp each
      rw [ofItems, itemsDepth, Json.itemsDepth, first, ih others]
  | object members each =>
    rw [ofJson, depth, Json.depth]
    congr 1
    induction members with
    | nil => rfl
    | cons member rest ih =>
      obtain ⟨first, others⟩ := List.forall_mem_cons.mp each
      rw [ofMembers, fieldsDepth, Json.membersDepth, first, ih others]

theorem convertible_ofNumber {alone : Handle → Prop} (x : Double) : (ofNumber x).Convertible alone := by
  unfold ofNumber
  split <;> trivial

/-- The value of a document can be converted. -/
theorem convertible_ofJson {alone : Handle → Prop} {document : Json}
    (wellFormed : document.WellFormed) : (ofJson document).Convertible alone := by
  induction document using Json.induction with
  | null | bool b | string text => trivial
  | integer n =>
    rw [ofJson_integer]
    split
    · trivial
    · exact convertible_ofNumber _
  | float x => exact convertible_ofNumber x
  | array items each =>
    rw [Json.WellFormed, Json.itemsWellFormed_iff] at wellFormed
    rw [ofJson, Convertible, itemsConvertible_iff, ofItems_eq]
    exact List.forall_mem_map.mpr fun item member => each item member (wellFormed item member)
  | object members each =>
    rw [Json.WellFormed, Json.membersWellFormed_iff] at wellFormed
    obtain ⟨ascending, wellFormed⟩ := wellFormed
    rw [ofJson, Convertible, fieldsConvertible_iff, ofMembers_eq]
    refine ⟨List.pairwise_map.mpr (ascending.imp bytes_lt), ?_⟩
    exact List.forall_mem_map.mpr fun member among => each member among (wellFormed member among)

/-! What is read back. -/

/-- Fields that come back as pairs give the same members. -/
theorem pairsToJson_normalFields (typeName : Handle → String) {fields : List (String × Value)}
    (each : ∀ field ∈ fields, field.2.normal.toJson typeName = field.2.toJson typeName)
    (members : List (String × Json)) :
    pairsToJson typeName members (normalFields fields) = fieldsToJson typeName members fields := by
  induction fields generalizing members with
  | nil => rfl
  | cons field rest ih =>
    obtain ⟨name, value⟩ := field
    obtain ⟨first, others⟩ := List.forall_mem_cons.mp each
    have named : (text name).jsonKey typeName = .ok name := rfl
    rw [normalFields, pairsToJson, fieldsToJson, named, first]
    exact bind_congr fun document => ih others (Fields.insert name document members)

/-- What is read back has the document of the value itself. -/
theorem toJson_normal (typeName : Handle → String) {value : Value} (plain : value.Plain) :
    value.normal.toJson typeName = value.toJson typeName := by
  induction value using induction with
  | null | bool _ | int _ | float _ | text _ | object _ | function _ => rfl
  | list items each =>
    rw [Plain, itemsPlain_iff] at plain
    rw [normal, toJson, toJson]
    congr 1
    induction items with
    | nil => rfl
    | cons item rest ih =>
      obtain ⟨first, others⟩ := List.forall_mem_cons.mp each
      obtain ⟨head, tail⟩ := List.forall_mem_cons.mp plain
      rw [normalItems, itemsToJson, itemsToJson, first head, ih others tail]
  | map pairs each => cases plain
  | record fields each =>
    rw [Plain, fieldsPlain_iff] at plain
    rw [normal, toJson, toJson, pairsToJson_normalFields typeName
      fun field member => each field member (plain field member)]

/-- There are no objects in what is read back. -/
theorem objects_normal {value : Value} (plain : value.Plain) : value.normal.objects = [] := by
  induction value using induction with
  | null | bool _ | int _ | float _ | text _ => rfl
  | list items each =>
    rw [Plain, itemsPlain_iff] at plain
    rw [normal, objects]
    induction items with
    | nil => rfl
    | cons item rest ih =>
      obtain ⟨first, others⟩ := List.forall_mem_cons.mp each
      obtain ⟨head, tail⟩ := List.forall_mem_cons.mp plain
      rw [normalItems, itemObjects, first head, ih others tail]
      rfl
  | map pairs each => cases plain
  | record fields each =>
    rw [Plain, fieldsPlain_iff] at plain
    rw [normal, objects]
    induction fields with
    | nil => rfl
    | cons field rest ih =>
      obtain ⟨first, others⟩ := List.forall_mem_cons.mp each
      obtain ⟨head, tail⟩ := List.forall_mem_cons.mp plain
      rw [normalFields, pairObjects, first head, ih others tail]
      rfl
  | object handle => cases plain
  | function identity => cases plain

end Value

namespace Bridge

variable {world : World} {session : Session} {handle : Handle} {value : Value} {document : Json}

/-- To look at the document of an object without other objects in it changes nothing. -/
theorem toJson_on (running : world.session = some session)
    (read : Value.read session world.machine.heap handle = .ok value) (bare : value.objects = [])
    (made : value.toJson world.typeName = .ok document) :
    Bridge.on (toJson handle) world = (.ok document, world) := by
  have seen : Bridge.on (valueOf handle) world = (.ok value, world) := by
    obtain ⟨top, holds, step⟩ := readWith_on_ok read
    rw [bare] at holds
    rw [valueOf, on_bind _ (session_on running), step, holds.eq_nil]
    rfl
  rw [toJson, on_bind _ seen, bare, thenRelease_on, on_bind _ (on_get world), made]
  rfl

/-- An object can be built for every document in which not too many containers stand in one another. As
long as it does not change, its document is the normal form of the first. -/
theorem toJson_build (running : world.session = some session) (standard : session.Standard)
    (sound : world.machine.heap.Sound) (wellFormed : document.WellFormed)
    (shallow : document.depth ≤ 512) :
    ∃ handle built, Bridge.on (build (.ofJson document)) world = (.ok handle, built) ∧
      ∀ later : World, later.session = some session →
        built.machine.heap.Unchanged later.machine.heap handle →
        Bridge.on (toJson handle) later = (.ok document.normal, later) := by
  have plain := Value.plain_ofJson wellFormed
  obtain ⟨handle, built, step, -, reads⟩ := roundTrips (.ofJson document) standard world
    ⟨running, sound⟩ (Value.convertible_ofJson wellFormed)
  refine ⟨handle, built, step, fun later still unchanged => ?_⟩
  have deep : (Value.ofJson document).depth ≤ 512 := (Value.depth_ofJson document).trans_le shallow
  have read : Value.read session later.machine.heap handle = .ok (Value.ofJson document).normal := by
    rw [Value.read_of_unchanged session unchanged]
    exact reads built.machine.heap (.refl _ _) 512 [] deep nofun
  refine toJson_on still read (Value.objects_normal plain) ?_
  rw [Value.toJson_normal _ plain, Value.toJson_ofJson _ wellFormed]

end Bridge

end ForeignBridge
