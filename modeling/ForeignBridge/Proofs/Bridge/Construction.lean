import ForeignBridge.Proofs.Bridge.Making
import ForeignBridge.Proofs.Bridge.Translation
import ForeignBridge.Proofs.Foreign.Filling
import ForeignBridge.Proofs.Foreign.Unhashable
import ForeignBridge.Proofs.Value.Faults

/-! # Making objects for values

An object for a value is made or fails to be made as the faults of the value say: with the first of them,
or without one. What is made is a new structure that stands on the objects in the value, and the host has
a reference to it and to nothing else; if it fails nothing is left but new objects that nobody refers to.
-/

namespace ForeignBridge

open Foreign
open Foreign.Run (call newList newEmptyDict)

namespace Bridge

variable {low : ℕ} {world : World} {first machine last : Machine}

/-! What fails. -/

/-- What raises an exception fails with what the exception becomes. -/
theorem perform_on_error {α : Type} {run : Run α} {thrown : Thrown} {error : BridgeError}
    {after : World} (step : run.on world.machine = (.error thrown, machine))
    (fetched : Act.on fetch { world.withMachine machine with pending := some thrown } =
      (some error, after)) : Bridge.on (perform run) world = (.error error, after) := by
  rw [perform, orThrow, on_bind_eq, on_lift, attempt_on_error step]
  change (Except.error ((Act.on fetch { world.withMachine machine with pending := some thrown }).1.getD
    unknown), (Act.on fetch { world.withMachine machine with pending := some thrown }).2) = _
  rw [fetched]
  rfl

/-- An exception with a text is an error with that text. -/
theorem perform_raised {α : Type} {run : Run α} {exception : Handle} {message : String}
    (sound : world.machine.heap.Sound)
    (ran : run.on world.machine = (.error ⟨exception, [], false⟩, machine)) (full : message ≠ "")
    (raised : Run.Raised low message world.machine exception machine) : ∃ after,
      Bridge.on (perform run) world =
        (.error (.foreign message none), { world with machine := after, pending := none }) ∧
      (world.machine.Grounded low → world.machine.Grafts low (fun _ => False) after) := by
  have sound := sound.grows raised.grows
  obtain ⟨text, arguments, parts, found, given, worded⟩ := raised.told
  obtain ⟨value, cls, traceback, one, two, three, own, named, formats, fetched⟩ :=
    fetch_raised (world.withMachine machine) ⟨exception, [], false⟩
  have spoken := Run.on_strOf_exception sound Core.typeError_isPlainError found given worded
  have class_ : (world.withMachine machine).classOf exception = Core.typeError.handle := by
    have there : (world.withMachine machine).machine.heap.get? exception = some _ := found
    rw [World.classOf, there]
    rfl
  have titled := @Run.on_strOf_class machine .typeError sound (by decide +kernel)
    (by decide +kernel)
  obtain ⟨rfl, rfl⟩ := own.of_text spoken (Machine.tells_ofString worded)
  rw [class_] at named
  obtain ⟨-, rfl⟩ := named.of_text titled (Machine.tells_ofString (Heap.get?_add_self _ _))
  obtain ⟨rfl, rfl⟩ := Formats.of_nil formats
  have chosen : composeMessage (some message) cls = message := by
    simp [composeMessage, Option.filter, full]
  rw [chosen] at fetched
  refine ⟨_, perform_on_error ran fetched, fun grounded => ?_⟩
  refine (raised.grafts grounded).push (Cell.isUnguarded_ofCore _ (by decide)) ?_
  rw [Cell.references_ofCore]
  exact fun part member => (List.not_mem_nil member).elim

/-! What comes of acts in which something may be in the way. -/

section

variable {α β : Type} {act : Bridge α} {faults more : List BridgeError} {handles : List Handle}
  {good nice : α → World → Prop} {better : β → World → Prop} {bad worse : World → Prop}

/-- What comes of an act that fails with the first of some faults, and has a result if there are none,
given what holds of the result and of the world that is left, and of the world that a failure leaves. -/
def Meets (act : Bridge α) (world : World) (faults : List BridgeError) (good : α → World → Prop)
    (bad : World → Prop) : Prop :=
  match faults with
  | [] => ∃ value after, act.on world = (.ok value, after) ∧ good value after
  | error :: _ => ∃ after, act.on world = (.error error, after) ∧ bad after

namespace Meets

theorem of_on {other : Bridge α} {start : World} (same : act.on world = other.on start)
    (meets : Meets other start faults good bad) : Meets act world faults good bad := by
  cases faults with
  | nil => simpa only [Meets, same] using meets
  | cons error rest => simpa only [Meets, same] using meets

theorem imp (meets : Meets act world faults nice worse)
    (still : ∀ value after, nice value after → good value after)
    (left : ∀ after, worse after → bad after) : Meets act world faults good bad := by
  cases faults with
  | nil =>
    obtain ⟨value, after, step, holds⟩ := meets
    exact ⟨value, after, step, still value after holds⟩
  | cons error rest =>
    obtain ⟨after, step, holds⟩ := meets
    exact ⟨after, step, left after holds⟩

/-- An act fails with the first fault, and with nothing else. -/
theorem error_iff (meets : Meets act world faults good bad) (error : BridgeError) :
    (act.on world).1 = .error error ↔ faults.head? = some error := by
  cases faults with
  | nil =>
    obtain ⟨value, after, step, _⟩ := meets
    rw [step]
    exact ⟨nofun, nofun⟩
  | cons first rest =>
    obtain ⟨after, step, _⟩ := meets
    rw [step, Except.error.injEq, List.head?_cons, Option.some.injEq]

/-- A failure leaves what is said of failures. -/
theorem bad_of_error {error : BridgeError} {after : World} (meets : Meets act world faults good bad)
    (failed : act.on world = (.error error, after)) : bad after := by
  cases faults with
  | nil =>
    obtain ⟨value, other, step, _⟩ := meets
    rw [step] at failed
    cases failed
  | cons first rest =>
    obtain ⟨other, step, holds⟩ := meets
    rw [step, Prod.mk.injEq] at failed
    exact failed.2 ▸ holds

/-- What is done first is at fault first. -/
theorem bind {next : α → Bridge β} (early : Meets act world faults good bad)
    (late : faults = [] → ∀ value after, good value after → Meets (next value) after more better bad) :
    Meets (act >>= next) world (faults ++ more) better bad := by
  cases faults with
  | nil =>
    obtain ⟨value, after, step, holds⟩ := early
    exact (late rfl value after holds).of_on (on_bind next step)
  | cons error rest =>
    obtain ⟨after, step, holds⟩ := early
    exact ⟨after, by rw [on_bind_eq, step], holds⟩

/-- What is handed out in the end is no fault. -/
theorem answer {other : β} (meets : Meets act world faults nice bad)
    (still : ∀ value after, nice value after → better other after) :
    Meets (act >>= fun _ => pure other) world faults better bad := by
  rw [← List.append_nil faults]
  exact meets.bind fun _ value after holds => ⟨other, after, rfl, still value after holds⟩

theorem elseRelease (meets : Meets act world faults good worse)
    (left : ∀ after, worse after → bad (handles.foldl World.giveBack after)) :
    Meets (elseRelease handles act) world faults good bad := by
  cases faults with
  | nil =>
    obtain ⟨value, after, step, holds⟩ := meets
    exact ⟨value, after, elseRelease_on_ok step, holds⟩
  | cons error rest =>
    obtain ⟨after, step, holds⟩ := meets
    exact ⟨_, by rw [elseRelease_on, step], left after holds⟩

end Meets

end

/-- What a failure leaves: the host holds what it held and no object has changed; what was pending may
have been looked at. -/
def Litters (low : ℕ) (world after : World) : Prop :=
  ∃ machine pending, after = { world with machine, pending } ∧
    (pending = world.pending ∨ pending = none) ∧
    (world.machine.Grounded low → world.machine.Grafts low (fun _ => False) machine)

/-- What has been made before a failure is left as well, and is given back. -/
theorem Litters.unwind {after : World} {handles others : List Handle}
    (litters : Litters low (world.advance machine handles) after)
    (grafts : world.machine.Grafts low (fun _ => False) machine) (same : others.Perm handles) :
    Litters low world (others.foldl World.giveBack after) := by
  obtain ⟨last, pending, rfl, looked, more⟩ := litters
  refine ⟨last, pending, ?_, looked, fun grounded => ?_⟩
  · exact World.foldl_giveBack_advance { world with pending } same
  · exact grafts.trans (more (grounded.grafts grafts)) nofun

/-! What an object for a value is. -/

/-- What stands for a value: a new structure on objects up to a mark. A key without parts is found by its
value, and an object is the object that it is. -/
structure Stands (low : ℕ) (before : Machine) (value : Value) (handle : Handle) (after : Machine) :
    Prop where
  grafts : before.Grafts low (fun _ => False) after
  near : Heap.Near low before.heap after.heap handle
  key : value.isKey = true → ∃ scalar, IsKey after.heap handle value scalar ∧
    (before.heap.cells.size < handle.address ∨ value.sameKey value = true)
  container : ∀ type, value.containerType? = some type → ∃ core body,
    (core = .list ∨ core = .dict) ∧ core.name = type ∧
    after.heap.get? handle = some (.ofCore core body)
  object : ∀ given, value = .object given → handle = given

/-- That an object is built for a value unless something in it is at fault. -/
def Constructs (low : ℕ) (value : Value) : Prop :=
  ∀ world : World, world.machine.heap.Sound → Meets (build value) world value.faults
    (fun handle after => ∃ machine, after = world.advance machine [handle] ∧
      Stands low world.machine value handle machine) (Litters low world)

theorem constructs_key {key : Value} (fixed : Fixed.cells.size ≤ low) (isKey : key.isKey = true) :
    Constructs low key := by
  intro world sound
  obtain ⟨handle, machine, scalar, makes, found, fresh⟩ := makes_key sound fixed isKey
  have other (given : Handle) : key ≠ .object given := by
    rintro rfl
    cases isKey
  rw [Value.faults_of_isKey isKey]
  refine ⟨handle, _, makes.on, machine, rfl, makes.grafts, makes.near,
    fun _ => ⟨scalar, found, fresh⟩, fun type same => ?_, fun given same => (other given same).elim⟩
  rw [Value.containerType?_of_isKey isKey] at same
  cases same

theorem constructs_object {handle : Handle} (bound : handle.address ≤ low) :
    Constructs low (.object handle) := by
  intro world sound
  have makes := @makes_own world low handle bound
  exact ⟨handle, _, makes.on, _, rfl, makes.grafts, makes.near, nofun, nofun,
    fun given same => Value.object.inj same⟩

/-- A list or a dictionary that is new stands for a value that becomes one. -/
theorem Stands.of_filling {core : Core} {initial body : Body} {value : Value}
    (filling : Machine.Filling low first core initial body machine) (either : core = .list ∨ core = .dict)
    (named : value.containerType? = some core.name) :
    Stands low first value first.heap.next machine where
  grafts := filling.whole (Cell.isUnguarded_container either body)
  near := .inr ⟨Nat.lt_succ_self _, filling.size_le⟩
  key isKey := by
    rw [Value.containerType?_of_isKey isKey] at named
    cases named
  container type same := by
    rw [named, Option.some.injEq] at same
    exact ⟨core, body, either, same, filling.found⟩
  object given same := by
    subst same
    cases named

/-- The reference to an object that is put at a place of a list goes over to the list. -/
theorem putPlace_on_ok {kept : List Handle} {list handle : Handle} {place : ℕ}
    (put : (Run.setPlace list place handle).on machine = (.ok (), last)) :
    Bridge.on (putPlace list place handle) ((world.advance first kept).advance machine [handle]) =
      (.ok (), world.advance last kept) := by
  rw [putPlace, thenRelease_on, perform_on_ok put]
  exact congrArg (Prod.mk _) (World.foldl_giveBack_later world (.refl _))

/-- The references to a key and to a value that are put into a dictionary are given back. -/
theorem putItem_on_ok {kept : List Handle} {dict handle image : Handle}
    (put : (Run.dictSet call dict handle image).on machine = (.ok (), last)) :
    Bridge.on (putItem dict handle image)
      ((world.advance first kept).advance machine [image, handle]) =
      (.ok (), world.advance last kept) := by
  rw [putItem, thenRelease_on, perform_on_ok put]
  exact congrArg (Prod.mk _) (World.foldl_giveBack_later world (.swap image handle []))

/-- A list is filled with objects for values one by one; the reference to each goes over to it. -/
theorem meets_buildItems {items : List Value} (each : ∀ item ∈ items, Constructs low item)
    (sound : world.machine.heap.Sound) {places : List Handle} {place : ℕ} {initial : Body}
    (filling : Machine.Filling low world.machine .list initial (.list places) machine)
    (space : place + items.length ≤ places.length) :
    Meets (buildItems world.machine.heap.next place items)
      (world.advance machine [world.machine.heap.next]) (Value.itemFaults items)
      (fun _ after => ∃ last places, after = world.advance last [world.machine.heap.next] ∧
        Machine.Filling low world.machine .list initial (.list places) last)
      (fun after => Litters low world ([world.machine.heap.next].foldl World.giveBack after)) := by
  induction items generalizing machine places place with
  | nil => exact ⟨(), _, rfl, machine, places, rfl, filling⟩
  | cons item rest ih =>
    obtain ⟨first, each⟩ := List.forall_mem_cons.mp each
    rw [List.length_cons] at space
    have whole := filling.whole (Cell.isUnguarded_container (.inl rfl) _)
    refine Meets.bind ((first _ (whole.sound sound)).imp (fun _ _ => id) fun after litters =>
      litters.unwind whole (.refl _)) ?_
    rintro - handle _ ⟨middle, rfl, stands⟩
    rw [World.advance_machine] at stands
    have inside : place < places.length := by omega
    obtain ⟨last, put, filling, _⟩ :=
      (filling.later stands.grafts).setPlace inside (filling.widen stands.near)
    refine (ih each filling ?_).of_on (on_bind _ (putPlace_on_ok put))
    rw [List.length_set]
    omega

/-- A pair is put into a dictionary that is being filled, unless the key has no hash. The references to
the key and to the value are given back. -/
theorem meets_putItem {content : Dictionary} {key value : Value} {handle image : Handle}
    {middle : Machine} (sound : world.machine.heap.Sound) (fixed : Fixed.cells.size ≤ low)
    (keyed : world.machine.Keyed low content machine)
    (named : Stands low machine key handle middle) (read : Stands low middle value image last)
    (clean : key.faults = []) (plain : ∀ handle, key ≠ .object handle) :
    Meets (putItem world.machine.heap.next handle image)
      ((world.advance machine [world.machine.heap.next]).advance last [image, handle]) key.keyFaults
      (fun _ after => ∃ machine content, after = world.advance machine [world.machine.heap.next] ∧
        world.machine.Keyed low content machine)
      (fun after => Litters low world ([world.machine.heap.next].foldl World.giveBack after)) := by
  have both := named.grafts.trans read.grafts nofun
  have later := keyed.later both
  have whole := later.filling.whole (Cell.isUnguarded_container (.inr rfl) _)
  obtain ⟨isKey, none⟩ | ⟨type, container, fault⟩ := Value.isKey_or_unhashable clean plain
  · obtain ⟨scalar, found, fresh⟩ := named.key isKey
    have apart (entry : Entry) (member : entry ∈ content.entries) (same : entry.key = handle) :
        key.sameKey key = true := by
      rcases fresh with new | equal
      · have := keyed.address_le member
        rw [same] at this
        omega
      · exact equal
    obtain ⟨after, final, put, keyed⟩ := later.dictSet (whole.sound sound)
      (found.keeps read.grafts.heap.keeps)
      ((keyed.filling.widen named.near).widen (Nat.le_refl _) read.grafts.heap.size)
      ((keyed.later named.grafts).filling.widen read.near) apart call
    rw [none]
    exact ⟨(), _, putItem_on_ok put, final, after, rfl, keyed⟩
  · obtain ⟨core, body, either, rfl, found⟩ := named.container type container
    obtain ⟨exception, after, failed, raised⟩ := Run.on_dictSet_unhashable call (whole.sound sound)
      fixed either (read.grafts.heap.keeps.cells found fun _ => id)
    let late := (world.advance machine [world.machine.heap.next]).advance last [image, handle]
    obtain ⟨final, ran, litters⟩ := @perform_raised low late _ _ _ _ _ (whole.sound sound) failed
      (by simp) raised
    have inner : Litters low late _ := ⟨final, none, rfl, .inr rfl, litters⟩
    have outer := keyed.filling.whole (Cell.isUnguarded_container (.inr rfl) _)
    rw [fault]
    refine ⟨_, ?_, (inner.unwind both (.swap image handle [])).unwind outer (.refl _)⟩
    rw [putItem, thenRelease_on, ran]
    rfl

/-- A dictionary is filled with objects for pairs one by one. -/
theorem meets_buildPairs {pairs : List (Value × Value)}
    (each : ∀ pair ∈ pairs, Constructs low pair.1 ∧ Constructs low pair.2)
    (plain : ∀ pair ∈ pairs, ∀ handle, pair.1 ≠ .object handle)
    (sound : world.machine.heap.Sound) (fixed : Fixed.cells.size ≤ low) {content : Dictionary}
    (keyed : world.machine.Keyed low content machine) :
    Meets (buildPairs world.machine.heap.next pairs)
      (world.advance machine [world.machine.heap.next]) (Value.pairFaults pairs)
      (fun _ after => ∃ last content, after = world.advance last [world.machine.heap.next] ∧
        world.machine.Keyed low content last)
      (fun after => Litters low world ([world.machine.heap.next].foldl World.giveBack after)) := by
  induction pairs generalizing machine content with
  | nil => exact ⟨(), _, rfl, machine, content, rfl, keyed⟩
  | cons pair rest ih =>
    obtain ⟨key, value⟩ := pair
    obtain ⟨⟨first, second⟩, each⟩ := List.forall_mem_cons.mp each
    obtain ⟨noObject, plain⟩ := List.forall_mem_cons.mp plain
    have whole := keyed.filling.whole (Cell.isUnguarded_container (.inr rfl) _)
    rw [Value.pairFaults, List.append_assoc, List.append_assoc]
    refine Meets.bind ((first _ (whole.sound sound)).imp (fun _ _ => id) fun after litters =>
      litters.unwind whole (.refl _)) ?_
    rintro clean handle _ ⟨middle, rfl, named⟩
    rw [World.advance_machine] at named
    refine Meets.bind (((second _ (named.grafts.sound (whole.sound sound))).elseRelease
      fun after litters => (litters.unwind named.grafts (.refl _)).unwind whole (.refl _))) ?_
    rintro - image _ ⟨last, rfl, read⟩
    rw [World.advance_machine] at read
    rw [World.advance_advance]
    refine Meets.bind (meets_putItem sound fixed keyed named read clean noObject) ?_
    rintro - - _ ⟨final, content, rfl, keyed⟩
    exact ih each plain keyed

/-! Any value. -/

theorem containerType?_list (items : List Value) :
    (Value.list items).containerType? = some Core.list.name := by
  rw [show Core.list.name = "list" by decide +kernel]
  rfl

theorem containerType?_map (pairs : List (Value × Value)) :
    (Value.map pairs).containerType? = some Core.dict.name := by
  rw [show Core.dict.name = "dict" by decide +kernel]
  rfl

theorem containerType?_record (fields : List (String × Value)) :
    (Value.record fields).containerType? = some Core.dict.name := containerType?_map []

/-- The places of a list that nothing has been put at yet refer to nothing. -/
theorem address_le_of_unfilled (low count : ℕ) :
    ∀ part ∈ (Body.list (List.replicate count .null)).references, part.address ≤ low := by
  intro part member
  rw [List.eq_of_mem_replicate member]
  exact Nat.zero_le _

theorem constructs_list {items : List Value} (each : ∀ item ∈ items, Constructs low item) :
    Constructs low (.list items) := by
  intro world sound
  have bare := address_le_of_unfilled low items.length
  have made := @makes_new world low _ _
    (Cell.isUnguarded_container (.inl rfl) (.list (List.replicate items.length .null))) bare
  have space : 0 + items.length ≤ (List.replicate items.length Handle.null).length := by
    rw [Nat.zero_add, List.length_replicate]
  have filled := meets_buildItems each sound (.opened bare) space
  refine Meets.of_on (on_bind _ made.on) ((filled.elseRelease fun _ => id).answer ?_)
  rintro - _ ⟨last, places, rfl, filling⟩
  exact ⟨last, rfl, .of_filling filling (.inl rfl) (containerType?_list items)⟩

/-- A dictionary is made and filled for a value that becomes one. -/
theorem meets_dict {pairs : List (Value × Value)} {value : Value}
    (each : ∀ pair ∈ pairs, Constructs low pair.1 ∧ Constructs low pair.2)
    (plain : ∀ pair ∈ pairs, ∀ handle, pair.1 ≠ .object handle)
    (fixed : Fixed.cells.size ≤ low) (named : value.containerType? = some Core.dict.name)
    (sound : world.machine.heap.Sound) : Meets (do
        let dict ← made newEmptyDict
        elseRelease [dict] (buildPairs dict pairs)
        return dict) world (Value.pairFaults pairs)
      (fun handle after => ∃ machine, after = world.advance machine [handle] ∧
        Stands low world.machine value handle machine) (Litters low world) := by
  have made := @makes_new world low _ _ (Cell.isUnguarded_container (.inr rfl) (.dict .empty)) nofun
  have filled := meets_buildPairs each plain sound fixed .empty
  refine Meets.of_on (on_bind _ made.on) ((filled.elseRelease fun _ => id).answer ?_)
  rintro - _ ⟨last, content, rfl, keyed⟩
  exact ⟨last, rfl, .of_filling keyed.filling (.inr rfl) named⟩

/-- An object is built for any value without objects as keys, unless something in it is at fault. -/
theorem constructs {value : Value} (fixed : Fixed.cells.size ≤ low) (plain : value.PlainKeys)
    (bound : ∀ handle ∈ value.objects, handle.address ≤ low) : Constructs low value := by
  induction value using Value.induction with
  | null | bool _ | int _ | float _ | text _ => exact constructs_key fixed rfl
  | object handle => exact constructs_object (bound handle (List.mem_singleton_self handle))
  | function identity => exact fun world _ => ⟨world, rfl, world.machine, world.pending, rfl,
      .inl rfl, fun _ => .refl _ _ _⟩
  | list items each =>
    rw [Value.objects, Value.itemObjects_eq] at bound
    exact constructs_list fun item member => each item member (Value.PlainKeys.list_iff.mp plain item
      member) fun handle inside => bound handle (List.mem_flatMap.mpr ⟨item, member, inside⟩)
  | map pairs each =>
    rw [Value.objects, Value.pairObjects_eq] at bound
    have keys := Value.PlainKeys.map_iff.mp plain
    intro world sound
    rw [build]
    refine meets_dict (fun pair member => ?_) (fun pair member => (keys pair member).1) fixed
      (containerType?_map pairs) sound
    have part (handle : Handle) (inside : handle ∈ pair.1.objects ++ pair.2.objects) :
        handle.address ≤ low := bound handle (List.mem_flatMap.mpr ⟨pair, member, inside⟩)
    exact ⟨(each pair member).1 (keys pair member).2.1 fun handle inside =>
        part handle (List.mem_append_left _ inside),
      (each pair member).2 (keys pair member).2.2 fun handle inside =>
        part handle (List.mem_append_right _ inside)⟩
  | record fields each =>
    rw [Value.objects, Value.fieldObjects_eq] at bound
    have values := Value.PlainKeys.record_iff.mp plain
    intro world sound
    simp only [build, buildFields_eq]
    rw [Value.faults, Value.fieldFaults_eq_pairFaults]
    refine meets_dict (List.forall_mem_map.mpr fun field member => ⟨constructs_key fixed rfl, ?_⟩)
      (List.forall_mem_map.mpr fun field member handle => by simp) fixed (containerType?_record fields) sound
    exact each field member (values field member) fun handle inside =>
      bound handle (List.mem_flatMap.mpr ⟨field, member, inside⟩)

/-- To build an object for a value without objects as keys fails with the first of the value's faults. -/
theorem build_error_iff_first (sound : world.machine.heap.Sound) {value : Value}
    (plain : value.PlainKeys) (error : BridgeError) :
    (Bridge.on (build value) world).1 = .error error ↔ value.faults.head? = some error := by
  let low := (value.objects.map (·.address)).sum + Fixed.cells.size
  have bound (handle : Handle) (member : handle ∈ value.objects) : handle.address ≤ low :=
    (List.le_sum_of_mem (List.mem_map_of_mem member)).trans (Nat.le_add_right _ _)
  exact (constructs (Nat.le_add_left _ _) plain bound world sound).error_iff error

/-- Where an object has been built nothing is at fault. -/
theorem faults_of_build {value : Value} {handle : Handle} {built : World}
    (sound : world.machine.heap.Sound) (plain : value.PlainKeys)
    (accepted : Bridge.on (build value) world = (.ok handle, built)) : value.faults = [] := by
  refine List.head?_eq_none_iff.mp (Option.eq_none_iff_forall_ne_some.mpr fun error fault => ?_)
  have failed := (build_error_iff_first sound plain error).mpr fault
  rw [accepted] at failed
  cases failed

/-- To build an object for a value without objects as keys fails just if there is a function anywhere in
the value or a map anywhere in it has a container for a key, and it fails with what is met first: of each
pair first what is within the key, then what is within the value, and only then the key itself. -/
theorem build_error_iff (sound : world.machine.heap.Sound) {value : Value} (plain : value.PlainKeys) :
    ((∃ error, (Bridge.on (build value) world).1 = .error error) ↔
      (∃ identity, Value.Within (.function identity) value) ∨
        ∃ pairs, Value.Within (.map pairs) value ∧ ∃ pair ∈ pairs,
          pair.1.containerType?.isSome = true) ∧
    ∀ error, (Bridge.on (build value) world).1 = .error error ↔ value.faults.head? = some error := by
  have first := build_error_iff_first sound plain
  refine ⟨?_, first⟩
  rw [← Value.faults_ne_nil_iff]
  simp only [first, List.ne_nil_iff_exists_cons, List.head?_eq_some_iff]

/-- A function under a key that has no hash is what fails. -/
theorem build_error_of_function :
    (Bridge.on (build (.map [(.list [], .function 0)])) (.ofMachine Machine.bare ⟨none, none⟩)).1 =
      .error noFunctions := by
  refine ((build_error_iff Machine.sound_bare ?_).2 noFunctions).mpr rfl
  exact Value.PlainKeys.map_iff.mpr (List.forall_mem_singleton.mpr ⟨nofun,
    Value.PlainKeys.list_iff.mpr nofun, fun pairs inner => by cases inner⟩)

end Bridge

end ForeignBridge
