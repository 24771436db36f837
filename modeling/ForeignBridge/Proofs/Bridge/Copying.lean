import ForeignBridge.Proofs.Bridge.Construction
import ForeignBridge.Proofs.Foreign.Copies
import ForeignBridge.Proofs.Foreign.Reclaim
import ForeignBridge.Proofs.Value.Document

/-! # Values are copied

To build an object for a value only adds to memory. No object that is there changes, whether the value
can be built or not. If it can, there is a copy of its normal form whose containers are all new, each
another one, and nothing that is new stands on itself.
-/

namespace ForeignBridge

open Foreign
open Foreign.Run (call newList newEmptyDict)

namespace Bridge

variable {low : ℕ} {world : World} {machine : Machine} {handle : Handle}

/-- The object of a value without parts is a copy of it. -/
theorem Makes.stored {key : Value} (sound : world.machine.heap.Sound)
    (fixed : Fixed.cells.size ≤ low) (isKey : key.isKey = true)
    (makes : Makes low (build key) world handle machine) :
    Copy.Stored machine.heap ⟨key, handle, []⟩ := by
  obtain ⟨other, last, cell, again, stands, found, single, _⟩ := makes_scalar sound fixed isKey
  obtain ⟨rfl, rfl⟩ := makes.unique again
  cases key with
  | null =>
    obtain rfl := single rfl
    exact .null
  | bool b =>
    obtain ⟨rfl, _⟩ := makes.unique (makes_truth sound fixed b)
    exact .bool b
  | int n =>
    cases stands
    exact .int found
  | float x =>
    cases stands
    exact .float found
  | text s =>
    cases stands
    exact .text found
  | list items => cases isKey
  | map pairs => cases isKey
  | record fields => cases isKey
  | object handle => cases isKey
  | function identity => cases isKey

/-- That a copy of its normal form is made for a value if nothing stands in the way of it. -/
def Copies (low : ℕ) (value : Value) : Prop :=
  ∀ world : World, world.machine.heap.Sound → value.faults = [] → ∃ copy machine,
    Makes low (build value) world copy.handle machine ∧ copy.value = value.normal ∧
    Copy.Apart world.machine.heap.cells.size machine.heap [copy]

theorem copies_key {key : Value} (fixed : Fixed.cells.size ≤ low) (isKey : key.isKey = true) :
    Copies low key := by
  intro world sound _
  obtain ⟨handle, machine, _, makes, _⟩ := makes_key sound fixed isKey
  exact ⟨⟨key, handle, []⟩, machine, makes, (Value.normal_of_isKey isKey).symm,
    .bare _ (makes.stored sound fixed isKey)⟩

theorem copies_object (bound : handle.address ≤ low) :
    Copies low (.object handle) := fun _ _ _ =>
  ⟨⟨.object handle, handle, []⟩, _, makes_own bound, rfl, .bare _ (.object handle)⟩

/-- A list is filled with copies of values one by one. -/
theorem buildItems_copies {items : List Value} {done : List Copy} {initial : Body}
    (each : ∀ item ∈ items, Copies low item) (clean : Value.itemFaults items = [])
    (sound : world.machine.heap.Sound)
    (filling : Machine.Filling low world.machine .list initial
      (.list (done.map Copy.handle ++ List.replicate items.length .null)) machine)
    (apart : Copy.Apart world.machine.heap.next.address machine.heap done) : ∃ last copies,
    Bridge.on (buildItems world.machine.heap.next done.length items)
      (world.advance machine [world.machine.heap.next]) =
        (.ok (), world.advance last [world.machine.heap.next]) ∧
      Machine.Filling low world.machine .list initial (.list (copies.map Copy.handle)) last ∧
      Copy.Apart world.machine.heap.next.address last.heap copies ∧
      copies.map Copy.value = done.map Copy.value ++ Value.normalItems items := by
  induction items generalizing machine done with
  | nil =>
    rw [List.length_nil, List.replicate_zero, List.append_nil] at filling
    exact ⟨machine, done, rfl, filling, apart, (List.append_nil _).symm⟩
  | cons item rest ih =>
    obtain ⟨first, each⟩ := List.forall_mem_cons.mp each
    obtain ⟨cleanFirst, clean⟩ := List.append_eq_nil_iff.mp clean
    have whole := filling.whole (Cell.isUnguarded_container (.inl rfl) _)
    obtain ⟨copy, middle, makes, normal, fresh⟩ := first
      (world.advance machine [world.machine.heap.next]) (whole.sound sound) cleanFirst
    have kept := makes.grafts.heap.keeps
    have inside : done.length <
        (done.map Copy.handle ++ List.replicate (rest.length + 1) Handle.null).length := by simp
    obtain ⟨last, put, filled, refilled⟩ :=
      (filling.later makes.grafts).setPlace inside (filling.widen makes.near)
    have places : (done.map Copy.handle ++ List.replicate (rest.length + 1) Handle.null).set
        done.length copy.handle =
        (done ++ [copy]).map Copy.handle ++ List.replicate rest.length .null := by
      rw [List.set_append_right _ _ (List.length_map _).le, List.length_map, Nat.sub_self,
        List.replicate_succ, List.set_cons_zero, List.map_append, List.append_assoc]
      rfl
    -- all that the item is made of is newer than what has been put into the list before
    have more : Copy.Apart world.machine.heap.next.address last.heap (done ++ [copy]) :=
      ((fresh.cons apart kept filling.size_le).subperm
        (List.perm_append_singleton copy done).subperm).keeps refilled
        fun _ same => same ▸ Nat.le_refl _
    rw [List.length_cons, places] at filled
    obtain ⟨final, copies, step, filled, apart, values⟩ := ih each clean filled more
    rw [List.length_append, List.length_singleton] at step
    refine ⟨final, copies, ?_, filled, apart, ?_⟩
    · rw [buildItems, on_bind _ makes.on, on_bind _ (putPlace_on_ok put), step]
    · rw [values, List.map_append, List.map_singleton, normal, Value.normalItems, List.append_assoc,
        List.singleton_append]

/-- A dictionary is filled with copies of values one by one, each under a key without parts. -/
theorem buildPairs_copies {pairs : List (Value × Value)} {rows : List (Value × Copy)}
    {content : Dictionary} (each : ∀ pair ∈ pairs, Copies low pair.2)
    (plain : ∀ pair ∈ pairs, ∀ handle, pair.1 ≠ .object handle)
    (clean : Value.pairFaults pairs = []) (fixed : Fixed.cells.size ≤ low)
    (sound : world.machine.heap.Sound)
    (copying : world.machine.Copying low rows content machine) : ∃ last content more,
    Bridge.on (buildPairs world.machine.heap.next pairs)
      (world.advance machine [world.machine.heap.next]) =
        (.ok (), world.advance last [world.machine.heap.next]) ∧
      world.machine.Copying low more content last ∧
      more.map (Prod.map id Copy.value) =
        Value.normalPairs (rows.map (Prod.map id Copy.value)) pairs := by
  induction pairs generalizing machine rows content with
  | nil => exact ⟨machine, content, rows, rfl, copying, rfl⟩
  | cons pair rest ih =>
    obtain ⟨key, value⟩ := pair
    obtain ⟨second, each⟩ := List.forall_mem_cons.mp each
    obtain ⟨noObject, plain⟩ := List.forall_mem_cons.mp plain
    simp only [Value.pairFaults, List.append_eq_nil_iff] at clean
    obtain ⟨⟨⟨cleanKey, cleanValue⟩, hashable⟩, clean⟩ := clean
    have isKey : key.isKey = true := by
      obtain ⟨isKey, _⟩ | ⟨type, _, fault⟩ := Value.isKey_or_unhashable cleanKey noObject
      · exact isKey
      · rw [hashable] at fault
        cases fault
    have whole := (copying.filling.whole (Cell.isUnguarded_container (.inr rfl) _)).sound sound
    obtain ⟨handle, middle, scalar, makes, found, fresh⟩ :=
      @makes_key (world.advance machine [world.machine.heap.next]) low key whole fixed isKey
    have named := makes.stored whole fixed isKey
    obtain ⟨copy, last, build, normal, new⟩ := second
      ((world.advance machine [world.machine.heap.next]).advance middle [handle])
      (makes.grafts.sound whole) cleanValue
    have keyed := copying.later makes.grafts
    have filled := keyed.later build.grafts
    -- the very object is there before only if it has a fixed address, and then it equals itself
    have apart (entry : Entry) (member : entry ∈ content.entries) (same : entry.key = handle) :
        key.sameKey key = true := by
      refine fresh.resolve_left fun new => ?_
      have := copying.keyed.address_le member
      rw [same] at this
      exact Nat.lt_irrefl _ (new.trans_le this)
    have distinct := new.cons keyed.apart build.grafts.heap.keeps keyed.filling.size_le
    obtain ⟨content, final, put, copying⟩ := filled.dictSet
      (build.grafts.sound (makes.grafts.sound whole))
      (found.keeps build.grafts.heap.keeps)
      ((copying.filling.widen makes.near).widen (Nat.le_refl _) build.grafts.heap.size)
      (named.keeps build.grafts.heap.keeps fun _ _ => id) (keyed.filling.widen build.near) apart
      distinct call
    obtain ⟨done, content, more, step, copying, values⟩ := ih each plain clean copying
    refine ⟨done, content, more, ?_, copying, ?_⟩
    · rw [buildPairs, on_bind _ makes.on, on_bind _ (elseRelease_on_ok build.on),
        World.advance_advance, List.singleton_append, on_bind _ (putItem_on_ok put), step]
    · rw [values, Value.map_putUnder, normal, Value.normalPairs]

theorem copies_list {items : List Value} (each : ∀ item ∈ items, Copies low item) :
    Copies low (.list items) := by
  intro world sound clean
  obtain ⟨last, copies, step, filling, apart, values⟩ :=
    @buildItems_copies low world _ items [] _ each clean sound
      (.opened (address_le_of_unfilled low _)) (.nil _ _)
  rw [List.map_nil, List.nil_append, List.length_nil] at step
  rw [List.map_nil, List.nil_append] at filling values
  have made := made_newOf_on .list (.list (List.replicate items.length .null)) world
  refine ⟨⟨.list (copies.map Copy.value), world.machine.heap.next, _⟩, last,
    ⟨?_, filling.whole (Cell.isUnguarded_container (.inl rfl) _),
      .inr ⟨Nat.lt_succ_self _, filling.size_le⟩⟩, ?_,
    apart.enclose (.list filling.found apart.stored) (Nat.lt_succ_self _) filling.size_le⟩
  · rw [build, newList, on_bind _ made, on_bind _ (elseRelease_on_ok step)]
    rfl
  · rw [values, Value.normal]

/-- A dictionary that is made and filled is a copy of the map of what has been put into it. -/
theorem copies_dict {pairs : List (Value × Value)} (each : ∀ pair ∈ pairs, Copies low pair.2)
    (plain : ∀ pair ∈ pairs, ∀ handle, pair.1 ≠ .object handle)
    (fixed : Fixed.cells.size ≤ low) (sound : world.machine.heap.Sound)
    (clean : Value.pairFaults pairs = []) : ∃ copy machine, Makes low (do
        let dict ← made newEmptyDict
        elseRelease [dict] (buildPairs dict pairs)
        return dict) world copy.handle machine ∧ copy.value = .map (Value.normalPairs [] pairs) ∧
      Copy.Apart world.machine.heap.cells.size machine.heap [copy] := by
  obtain ⟨last, content, rows, step, copying, values⟩ :=
    buildPairs_copies each plain clean fixed sound .empty
  obtain ⟨containers, apart⟩ := copying.copy
  have made := made_newOf_on .dict (.dict .empty) world
  refine ⟨_, last, ⟨?_, copying.filling.whole (Cell.isUnguarded_container (.inr rfl) _),
    .inr ⟨Nat.lt_succ_self _, copying.filling.size_le⟩⟩, congrArg Value.map values, apart⟩
  rw [newEmptyDict, on_bind _ made, on_bind _ (elseRelease_on_ok step)]
  rfl

/-- A copy is made of any value without objects as keys, unless something in it is at fault. -/
theorem copies {value : Value} (fixed : Fixed.cells.size ≤ low) (plain : value.PlainKeys)
    (ordered : value.Ordered) (bound : ∀ handle ∈ value.objects, handle.address ≤ low) :
    Copies low value := by
  induction value using Value.induction with
  | null | bool _ | int _ | float _ | text _ => exact copies_key fixed rfl
  | object handle => exact copies_object (bound handle (List.mem_singleton_self handle))
  | function identity =>
    intro world _ clean
    cases clean
  | list items each =>
    rw [Value.objects, Value.itemObjects_eq] at bound
    rw [Value.Ordered, Value.itemsOrdered_iff] at ordered
    exact copies_list fun item member => each item member
      (Value.PlainKeys.list_iff.mp plain item member) (ordered item member)
      fun handle inside => bound handle (List.mem_flatMap.mpr ⟨item, member, inside⟩)
  | map pairs each =>
    rw [Value.objects, Value.pairObjects_eq] at bound
    rw [Value.Ordered, Value.pairsOrdered_iff] at ordered
    have keys := Value.PlainKeys.map_iff.mp plain
    intro world sound clean
    rw [build, Value.normal]
    refine copies_dict (fun pair member => ?_) (fun pair member => (keys pair member).1) fixed sound
      clean
    exact (each pair member).2 (keys pair member).2.2 (ordered pair member).2 fun handle inside =>
      bound handle (List.mem_flatMap.mpr ⟨pair, member, List.mem_append_right _ inside⟩)
  | record fields each =>
    rw [Value.objects, Value.fieldObjects_eq] at bound
    rw [Value.Ordered, Value.fieldsOrdered_iff] at ordered
    have names : fields.Pairwise fun a b => a.1 ≠ b.1 := ordered.1.imp fun less => less.ne
    have normal := @Value.normalPairs_fields fields [] names fun _ _ _ none =>
      (List.not_mem_nil none).elim
    intro world sound clean
    rw [Value.faults, Value.fieldFaults_eq_pairFaults] at clean
    simp only [build, buildFields_eq]
    rw [Value.normal, ← List.nil_append (Value.normalFields fields), ← normal]
    refine copies_dict (List.forall_mem_map.mpr fun field member => ?_)
      (List.forall_mem_map.mpr fun field member handle => by simp) fixed sound clean
    exact each field member (Value.PlainKeys.record_iff.mp plain field member)
      (ordered.2 field member) fun handle inside =>
        bound handle (List.mem_flatMap.mpr ⟨field, member, inside⟩)

/-- To build an object for a value only adds to memory, whether it succeeds or not: every object that is
there stays as it is. If it succeeds there is a copy of the normal form of the value; its containers are
as many as the containers in the normal form, all different, and have addresses that had not been given
out, and no object that is new stands on itself. That holds again when the value is built once more, and
the second copy shares no container with the first one. -/
theorem build_adds {value : Value} (sound : world.machine.heap.Sound)
    (grounded : world.machine.Grounded world.machine.heap.cells.size) (plain : value.PlainKeys)
    (ordered : value.Ordered)
    (bound : ∀ handle ∈ value.objects, handle.address ≤ world.machine.heap.cells.size) :
    (∀ handle cell, world.machine.heap.get? handle = some cell →
      (Bridge.on (build value) world).2.machine.heap.get? handle = some cell) ∧
    ∀ handle built, Bridge.on (build value) world = (.ok handle, built) →
      (∃ containers, Copy.Apart world.machine.heap.cells.size built.machine.heap
        [⟨value.normal, handle, containers⟩]) ∧
      (∀ container, world.machine.heap.cells.size < container.address →
        ¬ Relation.TransGen built.machine.heap.RefersTo container container) ∧
      ∃ again twice first second, Bridge.on (build value) built = (.ok again, twice) ∧
        Copy.Apart world.machine.heap.cells.size twice.machine.heap
          [⟨value.normal, again, second⟩, ⟨value.normal, handle, first⟩] := by
  have fixed : Fixed.cells.size ≤ world.machine.heap.cells.size := sound.base.trans sound.size
  have meets := constructs fixed plain bound world sound
  have grafts : world.machine.Grafts world.machine.heap.cells.size (fun _ => False)
      (Bridge.on (build value) world).2.machine := by
    cases faults : value.faults with
    | nil =>
      rw [faults] at meets
      obtain ⟨handle, after, step, machine, rfl, stands⟩ := meets
      rw [step]
      exact stands.grafts
    | cons error rest =>
      rw [faults] at meets
      obtain ⟨after, step, machine, pending, rfl, _, grafts⟩ := meets
      rw [step]
      exact grafts grounded
  refine ⟨fun handle cell found => grafts.heap.keeps.cells found fun _ => id,
    fun handle built step => ?_⟩
  have clean := faults_of_build sound plain step
  obtain ⟨⟨_, _, first⟩, machine, makes, rfl, apart⟩ :=
    copies fixed plain ordered bound world sound clean
  rw [step] at grafts
  rw [makes.on, Prod.mk.injEq, Except.ok.injEq] at step
  obtain ⟨rfl, rfl⟩ := step
  refine ⟨⟨first, apart⟩, fun container => grafts.heap.acyclic grounded.closed, ?_⟩
  obtain ⟨⟨_, again, second⟩, twice, more, rfl, fresh⟩ :=
    copies fixed plain ordered bound (world.advance machine [_]) (makes.grafts.sound sound) clean
  exact ⟨again, _, first, second, more.on,
    fresh.cons apart more.grafts.heap.keeps makes.grafts.heap.size⟩

/-- A list in which two items are equal, two keys are one, and one item is an object. -/
def repeated : Value :=
  .list [.list [.null], .list [.null],
    .map [(.int 1, .list []), (.bool true, .record [("a", .bool false)])], .object Fixed.emptyTuple]

theorem build_adds_repeated :
    let world := World.ofMachine Machine.bare ⟨none, none⟩
    let copied := Value.list [.list [.null], .list [.null],
      .map [(.int 1, .map [(.text "a", .bool false)])], .object Fixed.emptyTuple]
    ∃ handle built again twice first second, Bridge.on (build repeated) world = (.ok handle, built) ∧
      Bridge.on (build repeated) built = (.ok again, twice) ∧
      Copy.Apart world.machine.heap.cells.size twice.machine.heap
        [⟨copied, again, second⟩, ⟨copied, handle, first⟩] := by
  have plain : repeated.PlainKeys := by
    have null : Value.null.PlainKeys := fun _ inner => by cases inner
    have int : (Value.int 1).PlainKeys := fun _ inner => by cases inner
    have bool (b : Bool) : (Value.bool b).PlainKeys := fun _ inner => by cases inner
    have object : (Value.object Fixed.emptyTuple).PlainKeys := fun _ inner => by cases inner
    simp [repeated, Value.PlainKeys.list_iff, Value.PlainKeys.map_iff, Value.PlainKeys.record_iff,
      null, int, bool, object]
  have ordered : repeated.Ordered := by
    simp [repeated, Value.Ordered, Value.ItemsOrdered, Value.PairsOrdered, Value.FieldsOrdered,
      Fields.Ascending]
  have bound : ∀ handle ∈ repeated.objects,
      handle.address ≤ Machine.bare.heap.cells.size := by
    intro handle member
    obtain rfl := List.mem_singleton.mp member
    exact (Heap.address_le_of_get? Fixed.get?_emptyTuple).2
  let world := World.ofMachine Machine.bare ⟨none, none⟩
  have sound : world.machine.heap.Sound := Machine.sound_bare
  obtain ⟨copy, machine, makes, _⟩ :=
    copies (sound.base.trans sound.size) plain ordered bound world sound rfl
  obtain ⟨_, _, again, twice, first, second, step, apart⟩ :=
    (build_adds sound Machine.grounded_bare plain ordered bound).2 _ _ makes.on
  exact ⟨_, _, again, twice, first, second, makes.on, step, apart⟩

end Bridge

end ForeignBridge
