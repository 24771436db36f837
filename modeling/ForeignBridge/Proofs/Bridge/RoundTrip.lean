import ForeignBridge.Proofs.Bridge.Making
import ForeignBridge.Proofs.Foreign.Filling

/-! # There and back

A value that an object is built for is read back in its normal form. What a value is built of comes
to be while the containers around it are still being made, so what is shown of each part is what it
reads as from then on.
-/

namespace ForeignBridge

open Foreign
open Foreign.Run (call newList newEmptyDict setPlace)

namespace World

@[simp] theorem withHeld_machine (world : World) (held : List Handle) :
    (world.withHeld held).machine = world.machine := rfl

@[simp] theorem withHeld_session (world : World) (held : List Handle) :
    (world.withHeld held).session = world.session := rfl

@[simp] theorem withMachine_machine (world : World) (machine : Machine) :
    (world.withMachine machine).machine = machine := rfl

@[simp] theorem withMachine_session (world : World) (machine : Machine) :
    (world.withMachine machine).session = world.session := rfl

/-- A world of a session in which a value may be built. -/
structure Ready (world : World) (session : Session) : Prop where
  session : world.session = some session
  sound : world.machine.heap.Sound

/-- What is of another class than the singleton is not the singleton. -/
theorem Ready.other_than_none {world : World} {session : Session} (ready : world.Ready session)
    {handle : Handle} {core : Core} {body : Body}
    (found : world.machine.heap.get? handle = some (.ofCore core body)) (apart : core ≠ .noneType) :
    handle ≠ Fixed.none := by
  rintro rfl
  rw [ready.sound.fixed Fixed.get?_none (by simp [Cell.isFixed, Cell.ofCore, Cell.of])] at found
  have types := congrArg Cell.type (Option.some.inj found)
  exact apart (Core.handle_inj.mp types).symm

/-- How a world changes while values are built and some dictionaries are filled. -/
structure Builds (filled : Handle → Prop) (world built : World) : Prop where
  session : built.session = world.session
  grows : world.machine.heap.Grows built.machine.heap
  keeps : world.machine.heap.Keeps filled built.machine.heap

namespace Builds

variable {filled : Handle → Prop} {first second third : World} {session : Session}

theorem refl (filled : Handle → Prop) (world : World) : world.Builds filled world :=
  ⟨rfl, .refl _, .refl _ _⟩

theorem trans (early : first.Builds filled second) (late : second.Builds filled third) :
    first.Builds filled third :=
  ⟨late.session.trans early.session, early.grows.trans late.grows, early.keeps.trans late.keeps⟩

theorem all (built : first.Builds (fun _ => False) second) : first.Builds filled second :=
  ⟨built.session, built.grows, built.keeps.all⟩

theorem ready (built : first.Builds filled second) (ready : first.Ready session) :
    second.Ready session := ⟨built.session.trans ready.session, ready.sound.grows built.grows⟩

end Builds

end World

namespace Bridge

variable {session : Session} {world : World}

/-- What makes an object makes nothing else that was there another. -/
theorem Makes.builds {low : ℕ} {act : Bridge Handle} {handle : Handle} {machine : Machine}
    (makes : Makes low act world handle machine) :
    world.Builds (fun _ => False) (world.advance machine [handle]) :=
  ⟨rfl, makes.grafts.heap.grows, makes.grafts.heap.keeps⟩

/-- An object that is new stands at an address that none has had. -/
theorem made_new (core : Core) (body : Body) (world : World) :
    ∃ handle built, Bridge.on (made (Run.newOf core body)) world = (.ok handle, built) ∧
      world.Builds (fun _ => False) built ∧ built.machine.heap.get? handle = some (.ofCore core body) ∧
      handle.address = world.machine.heap.cells.size + 1 ∧
      built.machine.heap.cells.size = world.machine.heap.cells.size + 1 :=
  ⟨_, _, made_newOf_on core body world, ⟨rfl, Heap.grows_add _ _, .add _ _⟩, Heap.get?_add_self _ _,
    rfl, Heap.size_add _ _⟩

/-- The object of a key is there already, or it is new; what equals nothing is always new. -/
theorem build_key {key : Value} (ready : world.Ready session) (isKey : key.isKey = true) :
    ∃ handle built cell, Bridge.on (build key) world = (.ok handle, built) ∧
      world.Builds (fun _ => False) built ∧ key.cell? = some cell ∧
      built.machine.heap.get? handle = some cell ∧ (key = .null → handle = Fixed.none) ∧
      (world.machine.heap.cells.size < handle.address ∨ key.sameKey key = true) := by
  obtain ⟨handle, machine, cell, makes, rest⟩ := makes_scalar ready.sound (Nat.le_refl _) isKey
  exact ⟨handle, _, cell, makes.on, makes.builds, rest⟩

/-- The object of a key is found by the key's value and reads as the key. -/
theorem build_key_reads {key : Value} (standard : session.Standard) (ready : world.Ready session)
    (isKey : key.isKey = true) :
    ∃ handle built scalar, Bridge.on (build key) world = (.ok handle, built) ∧
      world.Builds (fun _ => False) built ∧ IsKey built.machine.heap handle key scalar ∧
      (∀ low, ReadsAs session low built.machine.heap 0 handle key) ∧
      (world.machine.heap.cells.size < handle.address ∨ key.sameKey key = true) := by
  obtain ⟨handle, built, cell, step, builds, stands, found, single, fresh⟩ := build_key ready isKey
  have none := (builds.ready ready).sound.fixed Fixed.get?_none
    (by simp [Cell.isFixed, Cell.ofCore, Cell.of])
  obtain ⟨scalar, value, ofCell, nothing⟩ := Value.ofCell?_of_cell? stands
  exact ⟨handle, built, scalar, step, builds, ⟨value, ⟨cell, found, ofCell⟩, single ∘ nothing⟩,
    fun _ => .of_cell standard none found stands single, fresh⟩

/-! Parts and wholes. -/

/-- That an object for a value is built, in whatever world, and reads as the value's normal form. -/
def RoundTrips (session : Session) (value : Value) : Prop :=
  ∀ world : World, world.Ready session →
    value.Convertible (session.LeavesAlone world.machine.heap) →
    ∃ handle built, Bridge.on (build value) world = (.ok handle, built) ∧ world.Builds (fun _ => False) built ∧
      ReadsAs session world.machine.heap.cells.size built.machine.heap value.depth handle
        value.normal

theorem roundTrips_key {key : Value} (standard : session.Standard) (isKey : key.isKey = true) :
    RoundTrips session key := by
  intro world ready _
  obtain ⟨handle, built, _, step, builds, _, reads, _⟩ := build_key_reads standard ready isKey
  rw [Value.normal_of_isKey isKey]
  exact ⟨handle, built, step, builds, (reads _).deepen (Nat.zero_le _)⟩

/-- An object that is left alone stays the object it is. -/
theorem roundTrips_object (handle : Handle) (standard : session.Standard) :
    RoundTrips session (.object handle) := by
  intro world ready convertible
  have makes := @makes_own world handle.address handle (Nat.le_refl _)
  exact ⟨handle, _, makes.on, makes.builds, .of_alone convertible standard⟩

/-- A list with objects for some values in front, and with so many places that are empty. -/
def Lines (session : Session) (depth : ℕ) (list : Handle) (heap : Heap) (values : List Value)
    (room : ℕ) : Prop :=
  ∃ handles : List Handle,
    heap.get? list = some (.ofCore .list (.list (handles ++ List.replicate room .null))) ∧
    List.Forall₂ (ReadsAs session list.address heap depth) handles values

theorem Lines.keeps {depth room : ℕ} {list : Handle} {heap later : Heap} {values : List Value}
    (lines : Lines session depth list heap values room) (kept : heap.Keeps (fun _ => False) later) :
    Lines session depth list later values room := by
  obtain ⟨handles, found, holds⟩ := lines
  exact ⟨handles, kept.cells found fun _ => id, holds.imp fun _ _ reads => reads.later kept.all⟩

/-- An object that is put at the first empty place stands behind the others. -/
theorem putPlace_spec {depth room place : ℕ} {list handle : Handle} {value : Value}
    {values : List Value} (lines : Lines session depth list world.machine.heap values (room + 1))
    (next : place = values.length)
    (reads : ReadsAs session list.address world.machine.heap depth handle value) :
    ∃ built, Bridge.on (putPlace list place handle) world = (.ok (), built) ∧
      world.Builds (· = list) built ∧
      Lines session depth list built.machine.heap (values ++ [value]) room := by
  obtain ⟨handles, found, holds⟩ := lines
  have full : place = handles.length := next.trans holds.length_eq.symm
  have inside : place < (handles ++ List.replicate (room + 1) Handle.null).length := by
    rw [List.length_append, List.length_replicate]
    omega
  have filled : (handles ++ List.replicate (room + 1) Handle.null).set place handle =
      (handles ++ [handle]) ++ List.replicate room .null := by
    rw [full, List.set_append_right _ _ (Nat.le_refl _), Nat.sub_self, List.replicate_succ,
      List.set_cons_zero, List.append_assoc, List.singleton_append]
  have step : (setPlace list place handle).on world.machine = (.ok (), { world.machine with
      heap := world.machine.heap.revise list
        (.ofCore .list (.list ((handles ++ [handle]) ++ List.replicate room .null))) }) := by
    rw [Run.on_setPlace found inside, filled]
  have kept := Heap.Keeps.revise found (.inl rfl)
    (.ofCore .list (.list ((handles ++ [handle]) ++ List.replicate room .null)))
  obtain ⟨held, overdrawn, put⟩ := thenRelease_on_ok [handle] (perform_on_ok step)
  have still {part : Handle} {value : Value}
      (reads : ReadsAs session list.address world.machine.heap depth part value) :=
    reads.later (kept.mono fun _ same => same ▸ Nat.le_refl _)
  refine ⟨_, put, ⟨rfl, Heap.grows_revise _ _ _, kept⟩, handles ++ [handle], ?_, ?_⟩
  · exact Heap.get?_revise_self found (by simp [Cell.isFixed, Cell.ofCore, Cell.of])
  · exact List.rel_append (holds.imp fun _ _ reads => still reads) (.cons (still reads) .nil)

/-- Filling a list is putting the normal forms of some values behind those that it stands for. -/
theorem buildItems_spec {depth place : ℕ} {list : Handle} {items done : List Value}
    (standard : session.Standard) (each : ∀ item ∈ items, RoundTrips session item)
    (ready : world.Ready session)
    (lines : Lines session depth list world.machine.heap done items.length)
    (next : place = done.length)
    (convertible : ∀ item ∈ items, item.Convertible (session.LeavesAlone world.machine.heap))
    (bound : ∀ item ∈ items, item.depth ≤ depth) :
    ∃ built, Bridge.on (buildItems list place items) world = (.ok (), built) ∧
      world.Builds (· = list) built ∧
      Lines session depth list built.machine.heap (done ++ Value.normalItems items) 0 := by
  induction items generalizing world done place with
  | nil => exact ⟨world, rfl, .refl _ world, by rwa [Value.normalItems, List.append_nil]⟩
  | cons item rest ih =>
    obtain ⟨first, each⟩ := List.forall_mem_cons.mp each
    obtain ⟨one, convertible⟩ := List.forall_mem_cons.mp convertible
    obtain ⟨small, bound⟩ := List.forall_mem_cons.mp bound
    obtain ⟨handle, middle, step, early, reads⟩ := first world ready one
    have low : list.address ≤ world.machine.heap.cells.size := by
      obtain ⟨handles, there, _⟩ := lines
      exact (Heap.address_le_of_get? there).2
    obtain ⟨put, putStep, late, lines⟩ := putPlace_spec (lines.keeps early.keeps) next
      ((reads.lower low).deepen small)
    obtain ⟨built, restStep, last, lines⟩ := ih each (late.ready (early.ready ready)) lines
      (show place + 1 = _ by rw [List.length_append, next]; rfl)
      (fun item member => (convertible item member).mono fun _ alone =>
        (alone.keeps standard early.keeps).keeps standard late.keeps) bound
    refine ⟨built, ?_, (early.all.trans late).trans last, ?_⟩
    · rw [buildItems, on_bind _ step, on_bind _ putStep, restStep]
    · rwa [Value.normalItems, List.append_cons]

/-- What is filled reads as before to those who do not see it. -/
theorem builds_of_new {container : Handle} {opened built : World}
    (early : world.Builds (fun _ => False) opened) (late : opened.Builds (· = container) built)
    (address : container.address = world.machine.heap.cells.size + 1) :
    world.Builds (fun _ => False) built := by
  refine ⟨late.session.trans early.session, early.grows.trans late.grows,
    (early.keeps.all.trans late.keeps).of_new ?_⟩
  rintro handle rfl
  rw [Option.eq_none_iff_forall_ne_some]
  intro cell was
  have := (Heap.address_le_of_get? was).2
  omega

theorem roundTrips_list {items : List Value} (standard : session.Standard)
    (each : ∀ item ∈ items, RoundTrips session item) : RoundTrips session (.list items) := by
  intro world ready convertible
  rw [Value.Convertible, Value.itemsConvertible_iff] at convertible
  obtain ⟨list, opened, step, early, found, address, _⟩ :=
    made_new .list (.list (List.replicate items.length .null)) world
  have readyOpened := early.ready ready
  have other := readyOpened.other_than_none found (by simp)
  obtain ⟨built, next, late, handles, there, holds⟩ := buildItems_spec standard each
    readyOpened ⟨[], found, .nil⟩ (show 0 = _ from rfl)
    (fun item member => (convertible item member).mono fun _ alone =>
      alone.keeps standard early.keeps) (Value.itemsDepth_le_iff.mp (Nat.le_refl _))
  rw [List.replicate_zero, List.append_nil] at there
  refine ⟨list, built, ?_, builds_of_new early late address, ?_⟩
  · rw [build, newList, on_bind _ step, on_bind _ (elseRelease_on_ok next)]
    rfl
  · rw [Value.normal, Value.depth]
    exact .of_list standard there other (by omega) holds

/-- A dictionary that stands for some pairs so far. -/
def Fills (session : Session) (depth : ℕ) (dict : Handle) (heap : Heap)
    (pairs : List (Value × Value)) : Prop :=
  ∃ content : Dictionary, heap.get? dict = some (.ofCore .dict (.dict content)) ∧
    content.Placed ∧
    List.Forall₂ (Entry.Holds heap (ReadsAs session dict.address heap depth)) content.entries pairs

theorem Fills.keeps {depth : ℕ} {dict : Handle} {heap later : Heap} {pairs : List (Value × Value)}
    (fills : Fills session depth dict heap pairs) (kept : heap.Keeps (fun _ => False) later) :
    Fills session depth dict later pairs := by
  obtain ⟨content, found, placed, holds⟩ := fills
  have there := kept.cells found fun _ => id
  exact ⟨content, there, placed, holds.imp fun _ _ held => held.keeps kept (·.later kept.all)⟩

/-- A pair is put into a dictionary as into the map that the dictionary stands for. -/
theorem putItem_spec {depth : ℕ} {dict handle image : Handle} {key value : Value} {scalar : Scalar}
    {pairs : List (Value × Value)} (ready : world.Ready session)
    (fills : Fills session depth dict world.machine.heap pairs)
    (isKey : IsKey world.machine.heap handle key scalar)
    (named : ReadsAs session dict.address world.machine.heap depth handle key)
    (reads : ReadsAs session dict.address world.machine.heap depth image value)
    (apart : ∀ content, world.machine.heap.get? dict = some (.ofCore .dict (.dict content)) →
      ∀ entry ∈ content.entries, entry.key = handle → key.sameKey key = true) :
    ∃ built, Bridge.on (putItem dict handle image) world = (.ok (), built) ∧
      world.Builds (· = dict) built ∧
      Fills session depth dict built.machine.heap (key.putPair value pairs) := by
  obtain ⟨content, found, placed, holds⟩ := fills
  obtain ⟨after, step, placed, holds⟩ := Run.on_dictSet call ready.sound found rfl isKey named reads
    holds (apart content found) placed
  have kept := Heap.Keeps.revise found (.inr rfl) (.ofCore .dict (.dict after))
  obtain ⟨held, overdrawn, put⟩ :=
    thenRelease_on_ok [handle, image] (perform_on_ok step)
  refine ⟨_, put, ⟨rfl, Heap.grows_revise _ _ _, kept⟩, after, ?_, placed, ?_⟩
  · exact Heap.get?_revise_self found (by simp [Cell.isFixed, Cell.ofCore, Cell.of])
  · have low : world.machine.heap.Keeps (·.address ≤ dict.address) _ :=
      kept.mono fun _ same => same ▸ Nat.le_refl _
    exact holds.imp fun _ _ held => held.keeps low (·.later low)

/-- Filling a dictionary is putting the normal forms of some pairs into the map that it stands for. -/
theorem buildPairs_spec {depth : ℕ} {dict : Handle} {pairs done : List (Value × Value)}
    (standard : session.Standard) (each : ∀ pair ∈ pairs, RoundTrips session pair.2)
    (ready : world.Ready session) (fills : Fills session depth dict world.machine.heap done)
    (convertible : ∀ pair ∈ pairs, pair.1.isKey = true ∧
      pair.2.Convertible (session.LeavesAlone world.machine.heap))
    (bound : ∀ pair ∈ pairs, pair.2.depth ≤ depth) :
    ∃ built, Bridge.on (buildPairs dict pairs) world = (.ok (), built) ∧
      world.Builds (· = dict) built ∧
      Fills session depth dict built.machine.heap (Value.normalPairs done pairs) := by
  induction pairs generalizing world done with
  | nil => exact ⟨world, rfl, .refl _ world, fills⟩
  | cons pair rest ih =>
    obtain ⟨key, value⟩ := pair
    obtain ⟨first, each⟩ := List.forall_mem_cons.mp each
    obtain ⟨⟨isKey, one⟩, convertible⟩ := List.forall_mem_cons.mp convertible
    obtain ⟨small, bound⟩ := List.forall_mem_cons.mp bound
    obtain ⟨name, keyed, scalar, keyStep, early, found, named, fresh⟩ :=
      build_key_reads standard ready isKey
    have readyKeyed := early.ready ready
    obtain ⟨image, imaged, imageStep, late, reads⟩ := first keyed readyKeyed
      (one.mono fun _ alone => alone.keeps standard early.keeps)
    have readyImaged := late.ready readyKeyed
    have both := early.trans late
    have low : dict.address ≤ keyed.machine.heap.cells.size := by
      obtain ⟨content, there, _⟩ := fills
      exact (Heap.address_le_of_get? there).2.trans early.keeps.size
    have apart (content : Dictionary)
        (there : imaged.machine.heap.get? dict = some (.ofCore .dict (.dict content)))
        (entry : Entry) (member : entry ∈ content.entries) (same : entry.key = name) :
        key.sameKey key = true := by
      obtain ⟨before, was, _, holds⟩ := fills
      have still := both.keeps.cells was fun _ => id
      obtain rfl : before = content := by
        rw [still, Option.some.injEq] at there
        cases there
        rfl
      obtain ⟨pair, held⟩ := exists_of_forall₂ holds member
      obtain ⟨_, known, _⟩ := held.found
      obtain ⟨_, old, _⟩ := known.cell
      rcases fresh with fresh | equal
      · have := (Heap.address_le_of_get? old).2
        rw [same] at this
        omega
      · exact equal
    obtain ⟨put, putStep, last, filled⟩ := putItem_spec readyImaged (fills.keeps both.keeps)
      (found.keeps late.keeps)
      (((named dict.address).deepen (Nat.zero_le depth)).later late.keeps.all)
      ((reads.lower low).deepen small) apart
    obtain ⟨built, restStep, rest, filled⟩ := ih each (last.ready readyImaged) filled
      (fun pair member => ⟨(convertible pair member).1, (convertible pair member).2.mono
        fun _ alone => (alone.keeps standard both.keeps).keeps standard last.keeps⟩) bound
    refine ⟨built, ?_, (both.all.trans last).trans rest, filled⟩
    rw [buildPairs, on_bind _ keyStep, on_bind _ (elseRelease_on_ok imageStep), on_bind _ putStep,
      restStep]

/-- A dictionary that is made and filled reads as the map of what has been put into it. -/
theorem buildDict_spec {depth : ℕ} {pairs : List (Value × Value)} (standard : session.Standard)
    (each : ∀ pair ∈ pairs, RoundTrips session pair.2) (ready : world.Ready session)
    (convertible : ∀ pair ∈ pairs, pair.1.isKey = true ∧
      pair.2.Convertible (session.LeavesAlone world.machine.heap))
    (bound : ∀ pair ∈ pairs, pair.2.depth ≤ depth) :
    ∃ dict built, Bridge.on (do
        let dict ← made newEmptyDict
        elseRelease [dict] (buildPairs dict pairs)
        return dict) world = (.ok dict, built) ∧
      world.Builds (fun _ => False) built ∧ ReadsAs session world.machine.heap.cells.size built.machine.heap
        (depth + 1) dict (.map (Value.normalPairs [] pairs)) := by
  obtain ⟨dict, opened, step, early, found, address, size⟩ := made_new .dict (.dict .empty) world
  have readyOpened := early.ready ready
  have other := readyOpened.other_than_none found nofun
  have empty : Fills session depth dict opened.machine.heap [] :=
    ⟨.empty, found, ⟨.nil, fun _ none => (List.not_mem_nil none).elim⟩, .nil⟩
  obtain ⟨built, next, late, content, there, _, holds⟩ := buildPairs_spec standard each readyOpened
    empty (fun pair member => ⟨(convertible pair member).1, (convertible pair member).2.mono
      fun _ alone => alone.keeps standard early.keeps⟩) bound
  refine ⟨dict, built, ?_, builds_of_new early late address,
    .of_dict standard there other (by omega) holds⟩
  rw [newEmptyDict, on_bind _ step, on_bind _ (elseRelease_on_ok next)]
  rfl

theorem roundTrips_map {pairs : List (Value × Value)} (standard : session.Standard)
    (each : ∀ pair ∈ pairs, RoundTrips session pair.2) : RoundTrips session (.map pairs) := by
  intro world ready convertible
  rw [Value.Convertible, Value.pairsConvertible_iff] at convertible
  obtain ⟨dict, built, step, builds, reads⟩ := buildDict_spec standard each ready convertible
    (Value.pairsDepth_le_iff.mp (Nat.le_refl _))
  exact ⟨dict, built, by rw [build, step], builds, reads⟩

theorem roundTrips_record {fields : List (String × Value)} (standard : session.Standard)
    (each : ∀ field ∈ fields, RoundTrips session field.2) :
    RoundTrips session (.record fields) := by
  intro world ready convertible
  rw [Value.Convertible, Value.fieldsConvertible_iff] at convertible
  obtain ⟨ordered, convertible⟩ := convertible
  have apart : fields.Pairwise fun a b => a.1 ≠ b.1 := ordered.imp fun {a b} less same => by
    rw [same] at less
    exact List.lt_irrefl _ less
  have bound := Value.fieldsDepth_le_iff.mp (Nat.le_refl (Value.fieldsDepth fields))
  have pairBound : ∀ pair ∈ fields.map fun field => (Value.text field.1, field.2),
      pair.2.depth ≤ Value.fieldsDepth fields := List.forall_mem_map.mpr bound
  obtain ⟨dict, built, step, builds, reads⟩ := buildDict_spec standard
    (List.forall_mem_map.mpr each) ready
    (List.forall_mem_map.mpr fun field member => ⟨rfl, convertible field member⟩) pairBound
  refine ⟨dict, built, by simpa only [build, buildFields_eq] using step, builds, ?_⟩
  rw [Value.normalPairs_fields apart fun _ _ _ none => (List.not_mem_nil none).elim] at reads
  exact reads

theorem roundTrips (value : Value) (standard : session.Standard) : RoundTrips session value := by
  induction value using Value.induction with
  | null => exact roundTrips_key standard rfl
  | bool b => exact roundTrips_key standard rfl
  | int n => exact roundTrips_key standard rfl
  | float x => exact roundTrips_key standard rfl
  | text s => exact roundTrips_key standard rfl
  | list items each => exact roundTrips_list standard each
  | map pairs each => exact roundTrips_map standard fun pair member => (each pair member).2
  | record fields each => exact roundTrips_record standard each
  | object handle => exact roundTrips_object handle standard
  | function identity => exact fun _ _ convertible => convertible.elim

/-- An object is built for every value that can be converted, and what is read back is the value's normal
form. -/
theorem readsBack {value : Value} (standard : session.Standard) (ready : world.Ready session)
    (convertible : value.Convertible (session.LeavesAlone world.machine.heap))
    (shallow : value.depth ≤ 512) :
    ∃ handle built read, Bridge.on (build value) world = (.ok handle, built) ∧
      Bridge.on (valueOf handle) built = (.ok value.normal, read) := by
  obtain ⟨handle, built, step, builds, reads⟩ := roundTrips value standard world ready convertible
  have known : built.session = some session := builds.session.trans ready.session
  have value? : Value.read session built.machine.heap handle = .ok value.normal :=
    reads built.machine.heap (.refl _ _) 512 [] shallow fun _ none => (List.not_mem_nil none).elim
  obtain ⟨top, _, reads⟩ := readWith_on_ok value?
  refine ⟨handle, built, built.withHeld (top ++ built.held), step, ?_⟩
  rw [valueOf, on_bind _ (session_on known), reads]

/-- Every value that can be converted has an object, and what is read back is the normal form of the
value. -/
theorem valueOf_build {world : World} {session : Session} {value : Value}
    (running : world.session = some session) (standard : session.Standard)
    (sound : world.machine.heap.Sound)
    (convertible : value.Convertible (session.LeavesAlone world.machine.heap))
    (shallow : value.depth ≤ 512) :
    ∃ handle built read, Bridge.on (build value) world = (.ok handle, built) ∧
      Bridge.on (valueOf handle) built = (.ok value.normal, read) :=
  readsBack standard ⟨running, sound⟩ convertible shallow

/-- A map in which three keys are one, two are no numbers, and one value is a record. -/
def mixedMap : Value :=
  .map [(.int 1, .text "a"), (.float .nan, .null), (.bool true, .text "b"), (.float .nan, .list []),
    (.float ⟨0x3FF0000000000000⟩, .text "c"),
    (.text "r", .record [("a", .list [.null]), ("b", .object Fixed.emptyTuple)])]

theorem valueOf_build_mixedMap :
    let world := { World.ofMachine Machine.bare ⟨none, none⟩ with session := some .ofFixed }
    ∃ handle built read, Bridge.on (build mixedMap) world = (.ok handle, built) ∧
      Bridge.on (valueOf handle) built = (.ok (.map [(.int 1, .text "c"), (.float .nan, .null),
        (.float .nan, .list []),
        (.text "r", .map [(.text "a", .list [.null]), (.text "b", .object Fixed.emptyTuple)])]),
        read) := by
  have alone : Session.ofFixed.LeavesAlone Machine.bare.heap Fixed.emptyTuple := by
    refine ⟨_, Fixed.get?_emptyTuple, ?_⟩
    have other : Fixed.emptyTuple ≠ Fixed.none := by simp [Fixed.emptyTuple, Fixed.none]
    rw [Session.kind?, Heap.not_isNull_of_get? Fixed.get?_emptyTuple, if_neg Bool.false_ne_true,
      if_neg (by exact other)]
    rfl
  have normal : mixedMap.normal = .map [(.int 1, .text "c"), (.float .nan, .null),
      (.float .nan, .list []),
      (.text "r", .map [(.text "a", .list [.null]), (.text "b", .object Fixed.emptyTuple)])] := by
    rfl
  have built := @valueOf_build
    { World.ofMachine Machine.bare ⟨none, none⟩ with session := some .ofFixed } _ mixedMap rfl
    Session.standard_ofFixed Machine.sound_bare
    ⟨rfl, trivial, rfl, trivial, rfl, trivial, rfl, trivial, rfl, trivial, rfl,
      ⟨by decide, ⟨trivial, trivial⟩, alone, trivial⟩, trivial⟩ (by decide)
  rwa [normal] at built

end Bridge

end ForeignBridge
