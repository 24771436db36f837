import ForeignBridge.Proofs.Bridge.Construction
import ForeignBridge.Proofs.Bridge.Passing
import ForeignBridge.Proofs.Foreign.Release

/-! # Calls that are rejected

What has been made for a call before something is found that is not in order is given back, wherever that
happens. Nothing refers to it then, so it is freed, and every object and every number of references is
what it was.
-/

namespace ForeignBridge

open Foreign

namespace World

/-- A world between two operations: no exception is pending, nothing is left that is to be freed, and
every reference is to an address that has been given out. -/
structure AtRest (world : World) : Prop where
  sound : world.machine.heap.Sound
  silent : world.pending = none
  grounded : world.machine.Grounded world.machine.heap.cells.size
  rested : world.machine.Rested world.outside
  outer : ∀ handle ∈ world.outside, handle.address ≤ world.machine.heap.cells.size

/-- What it is to leave everything as it was: each object has the same content and as many references,
and nothing else differs but that some addresses have been used up. -/
structure Restores (world after : World) : Prop where
  cells : ∀ handle, after.machine.heap.get? handle = world.machine.heap.get? handle
  counts : ∀ handle, after.refCount handle = world.refCount handle
  rest : ∃ given, after = world.withMachine (world.machine.pad given)

variable {world after : World}

theorem restores_pad (world : World) (given : ℕ) :
    world.Restores (world.withMachine (world.machine.pad given)) where
  cells := Heap.get?_pad world.machine.heap given
  counts handle := by
    have same := Heap.references_pad world.machine.heap given handle
    unfold refCount
    split
    · rfl
    · exact congrArg (fun count => count + _ - _) same
  rest := ⟨given, rfl⟩

/-- A world that has been settled is at rest, if no class has a finalizer. -/
theorem atRest_settle (sound : world.machine.heap.Sound) (silent : world.pending = none)
    (grounded : world.machine.Grounded world.machine.heap.cells.size)
    (plain : world.machine.finalizers = false)
    (outer : ∀ handle ∈ world.outside, handle.address ≤ world.machine.heap.cells.size) :
    world.settle.AtRest := by
  have settled : world.settle = world.withMachine (world.machine.reclaim world.outside) := by
    rw [settle, Machine.settle, plain]
    rfl
  have size : (world.machine.reclaim world.outside).heap.cells.size =
      world.machine.heap.cells.size := Heap.size_reclaim ..
  rw [settled]
  exact {
    sound := sound.spares (Machine.spares_reclaim world.machine world.outside)
    silent := silent
    grounded := ⟨Nat.le_refl _, grounded.closed.reclaim world.outside,
      fun handled member => (grounded.handling handled member).trans size.ge⟩
    rested := Machine.rested_reclaim world.machine world.outside
    outer := fun handle member => (outer handle member).trans size.ge }

/-- What a failure has left is freed once it is settled. -/
theorem AtRest.settle (rest : world.AtRest)
    (litters : Bridge.Litters world.machine.heap.cells.size world after) :
    world.Restores after.settle := by
  obtain ⟨machine, pending, rfl, looked, grafts⟩ := litters
  obtain rfl : pending = world.pending := looked.elim id fun none => none.trans rest.silent.symm
  have settled := (grafts rest.grounded).settle rest.sound rest.grounded rest.rested rest.outer
  have same : settle { world with machine, pending := world.pending } =
      world.withMachine (machine.settle world.outside) := rfl
  rw [same, settled]
  exact restores_pad world _

end World

namespace Bridge

variable {low : ℕ} {world middle after : World} {images others : List Handle} {need : Need}
  {needs : List Need} {error : BridgeError}

/-! What is made for a call. -/

/-- After something the host has references to what has been made in it, and to nothing else that it had
no references to before. -/
def Gains (low : ℕ) (world : World) (images : List Handle) (after : World) : Prop :=
  ∃ machine taken, taken.Perm images ∧ after = world.advance machine taken ∧
    world.machine.Grafts low (fun _ => False) machine ∧
    ∀ image ∈ images, Heap.Near low world.machine.heap machine.heap image

namespace Gains

theorem nil (low : ℕ) (world : World) : Gains low world [] world :=
  ⟨world.machine, [], .refl _, rfl, .refl _ _ _, nofun⟩

theorem append (early : Gains low world images middle) (late : Gains low middle others after) :
    Gains low world (images ++ others) after := by
  obtain ⟨machine, taken, same, rfl, grafts, near⟩ := early
  obtain ⟨last, more, again, rfl, grown, close⟩ := late
  rw [World.advance_machine] at grown close
  refine ⟨last, more ++ taken, ?_, World.advance_advance, grafts.trans grown nofun, fun image member => ?_⟩
  · exact (again.append same).trans List.perm_append_comm
  · exact (List.mem_append.mp member).elim
      (fun first => (near image first).widen (Nat.le_refl _) grown.heap.size)
      fun second => (close image second).widen grafts.heap.size (Nat.le_refl _)

theorem sound (gains : Gains low world images after) (sound : world.machine.heap.Sound) :
    after.machine.heap.Sound := by
  obtain ⟨machine, taken, _, rfl, grafts, _⟩ := gains
  exact grafts.sound sound

/-- What a failure leaves after that, once what has been made is given back. -/
theorem litters (gains : Gains low world images middle) (litters : Litters low middle after) :
    Litters low world (images.foldl World.giveBack after) := by
  obtain ⟨machine, taken, same, rfl, grafts, _⟩ := gains
  exact litters.unwind grafts same.symm

end Gains

theorem Litters.refl (low : ℕ) (world : World) : Litters low world world :=
  ⟨world.machine, world.pending, rfl, .inl rfl, fun _ => .refl _ _ _⟩

/-- What is at fault with a need. -/
def Need.faults : Need → List BridgeError
  | object handle => if handle.isNull then [.nullHandle] else []
  | name text => if text.contains (Char.ofNat 0) then [.interiorNul text] else []
  | value content => content.faults

/-- That in a value there is no object that is a key, and only objects up to a mark. -/
def Plain (low : ℕ) (value : Value) : Prop :=
  value.PlainKeys ∧ ∀ handle ∈ value.objects, handle.address ≤ low

/-- That a need, if it is a value, is a plain one. -/
def Need.IsPlain (low : ℕ) (need : Need) : Prop := ∀ content, need = .value content → Plain low content

theorem meets_meet (fixed : Fixed.cells.size ≤ low) (plain : need.IsPlain low)
    (sound : world.machine.heap.Sound) :
    Meets need.meet world need.faults (Gains low world) (Litters low world) := by
  cases need with
  | object handle =>
    rw [Need.faults]
    split
    · rename_i null
      exact ⟨world, by rw [Need.meet_object_on, if_pos null], .refl low world⟩
    · rename_i there
      exact ⟨[], world, by rw [Need.meet_object_on, if_neg there], .nil low world⟩
  | name text =>
    rw [Need.faults]
    split
    · rename_i interior
      exact ⟨world, by rw [Need.meet_name_on, if_pos interior], .refl low world⟩
    · rename_i free
      exact ⟨[], world, by rw [Need.meet_name_on, if_neg free], .nil low world⟩
  | value content =>
    obtain ⟨keys, bound⟩ := plain content rfl
    rw [← List.append_nil (Need.faults _)]
    refine ((constructs fixed keys bound world sound).imp (fun _ _ => id) fun _ => id).bind ?_
    rintro - image _ ⟨machine, rfl, stands⟩
    exact ⟨[image], _, rfl, machine, [image], .refl _, rfl, stands.grafts,
      List.forall_mem_singleton.mpr stands.near⟩

theorem meets_meetAll (fixed : Fixed.cells.size ≤ low) (plain : ∀ need ∈ needs, need.IsPlain low)
    (sound : world.machine.heap.Sound) : Meets (meetAll needs) world (needs.flatMap Need.faults)
      (Gains low world) (Litters low world) := by
  induction needs generalizing world with
  | nil => exact ⟨[], world, rfl, .nil low world⟩
  | cons need rest ih =>
    obtain ⟨first, plain⟩ := List.forall_mem_cons.mp plain
    rw [List.flatMap_cons]
    refine (meets_meet fixed first sound).bind fun _ images middle gains => ?_
    rw [← List.append_nil (rest.flatMap Need.faults)]
    refine ((ih plain (gains.sound sound)).elseRelease fun after => gains.litters).bind ?_
    exact fun _ others after more => ⟨_, after, rfl, gains.append more⟩

/-- The tuple takes over the references to what has been made. -/
theorem Gains.tuple (gains : Gains low world images middle) (sound : middle.machine.heap.Sound)
    (fixed : Fixed.cells.size ≤ low) : ∃ tuple after,
      Bridge.on (thenRelease images (made (Run.newTuple images))) middle = (.ok tuple, after) ∧
      Gains low world [tuple] after := by
  obtain ⟨machine, taken, same, rfl, grafts, near⟩ := gains
  rw [World.advance_machine] at sound
  cases images with
  | nil =>
    obtain rfl := same.eq_nil
    have there := sound.fixed Fixed.get?_emptyTuple (by simp [Cell.isFixed, Cell.ofCore, Cell.of])
    have bound := (Fixed.address_le Fixed.get?_emptyTuple).trans fixed
    have makes := @makes_there (world.advance machine []) low _ (Run.newTuple []) _ rfl there bound
    refine ⟨_, _, by rw [thenRelease_on, makes.on], machine, [Fixed.emptyTuple], .refl _, ?_, grafts,
      List.forall_mem_singleton.mpr (.inl bound)⟩
    exact World.advance_advance
  | cons image rest =>
    have on := made_newOf_on .tuple (.tuple (image :: rest)) (world.advance machine taken)
    rw [World.advance_machine, World.advance_advance] at on
    have unguarded : (Cell.ofCore .tuple (.tuple (image :: rest))).IsUnguarded :=
      Cell.isUnguarded_ofCore _ (by decide)
    refine ⟨machine.heap.next, _, ?_, _, [machine.heap.next], .refl _, rfl,
      grafts.push unguarded fun part member => near part ?_,
      List.forall_mem_singleton.mpr (.inr ⟨?_, (Heap.size_add ..).ge⟩)⟩
    · have new : Run.newTuple (image :: rest) = Run.newOf .tuple (.tuple (image :: rest)) := rfl
      rw [thenRelease_on, new, on]
      exact congrArg (Prod.mk _) (World.foldl_giveBack_beside same.symm machine.heap.next)
    · rwa [Cell.references_ofCore] at member
    · exact Nat.lt_succ_of_le grafts.heap.size

variable {handle : Handle} {arguments : List Value} {keywords : List (String × Value)}

theorem isPlain_firstNeeds (plain : ∀ value ∈ arguments, Plain low value) :
    ∀ need ∈ firstNeeds handle arguments, need.IsPlain low := by
  rintro _ member content rfl
  obtain _ | ⟨_, member⟩ := member
  obtain ⟨value, inside, same⟩ := List.mem_map.mp member
  cases same
  exact plain content inside

theorem isPlain_namedNeeds (plain : ∀ keyword ∈ keywords, Plain low keyword.2) :
    ∀ need ∈ namedNeeds keywords, need.IsPlain low := by
  rintro _ member content rfl
  obtain ⟨keyword, inside, among⟩ := List.mem_flatMap.mp member
  simp only [List.mem_cons, reduceCtorEq, Need.value.injEq, List.not_mem_nil, or_false,
    false_or] at among
  exact among ▸ plain keyword inside

theorem meets_buildArguments (fixed : Fixed.cells.size ≤ low)
    (plain : ∀ value ∈ arguments, Plain low value) (sound : world.machine.heap.Sound) :
    Meets (buildArguments handle arguments) world ((firstNeeds handle arguments).flatMap Need.faults)
      (fun tuple => Gains low world [tuple]) (Litters low world) := by
  refine Meets.of_on (buildArguments_on handle arguments world) ?_
  rw [← List.append_nil (List.flatMap _ _)]
  refine (meets_meetAll fixed (isPlain_firstNeeds plain) sound).bind fun _ images middle gains => ?_
  obtain ⟨tuple, after, step, more⟩ := gains.tuple (gains.sound sound) fixed
  exact ⟨tuple, after, step, more⟩

theorem meets_buildKeywords (fixed : Fixed.cells.size ≤ low)
    (plain : ∀ keyword ∈ keywords, Plain low keyword.2) (sound : world.machine.heap.Sound) :
    Meets (buildKeywords keywords) world ((namedNeeds keywords).flatMap Need.faults)
      (fun _ _ => True) (Litters low world) := by
  cases keywords with
  | nil => exact ⟨none, world, rfl, trivial⟩
  | cons keyword rest =>
    have meets : Meets (buildNamed (keyword :: rest)) world
        ((namedNeeds (keyword :: rest)).flatMap Need.faults)
        (fun _ after => after.machine.heap.Sound) (Litters low world) := by
      refine Meets.of_on (buildNamed_on _ world) ?_
      rw [← List.append_nil (List.flatMap _ _)]
      exact (meets_meetAll fixed (isPlain_namedNeeds plain) sound).bind fun _ images middle gains =>
        ⟨_, middle, rfl, gains.sound sound⟩
    rw [← List.append_nil (List.flatMap _ _)]
    refine meets.bind fun _ pairs middle sound => ?_
    obtain ⟨dict, _, after, step, _⟩ := exists_named sound pairs
    exact ⟨some dict, after, step, trivial⟩

theorem meets_prepare (fixed : Fixed.cells.size ≤ low)
    (plain : ∀ value ∈ arguments ++ keywords.map (·.2), Plain low value)
    (sound : world.machine.heap.Sound) : Meets (prepare handle arguments keywords) world
      ((firstNeeds handle arguments).flatMap Need.faults ++ (namedNeeds keywords).flatMap Need.faults)
      (fun _ _ => True) (Litters low world) := by
  obtain ⟨first, second⟩ := List.forall_mem_append.mp plain
  refine (meets_buildArguments fixed first sound).bind fun _ tuple middle gains => ?_
  rw [← List.append_nil (List.flatMap _ _)]
  refine ((meets_buildKeywords fixed (List.forall_mem_map.mp second)
    (gains.sound sound)).elseRelease fun after => gains.litters).bind ?_
  exact fun _ named after _ => ⟨_, after, rfl, trivial⟩

/-! What is passed, and what is not. -/

/-- What comes of a call. Something is not in order, or else the target is called once, with the objects for
the values in order and with what has been gathered for the values by name. If something is not in order
the first such thing fails, whatever would call the target, and if no object is a key in a value it leaves
everything as it was. -/
structure CallsInOrder (world : World) (handle : Handle) (arguments : List Value)
    (keywords : List (String × Value)) : Prop where
  either : (∃ error, Refuses world handle arguments keywords error) ↔
    ¬ ∃ images named ready, Admits world handle arguments keywords images named ready
  admitted : ∀ images named ready, Admits world handle arguments keywords images named ready →
    Images arguments images ∧ Images (keywords.map (·.2)) named ∧
      ∃ called packed after, Gathers ((keywords.map (·.1)).zip named) called ∧
        ∀ invoke, Bridge.on (callThrough invoke handle arguments keywords) world =
          Bridge.on (finish (invoke handle ⟨images, called⟩) packed) after
  refused : ∀ error, Refuses world handle arguments keywords error → ∃ after,
    (∀ invoke, Bridge.on (callThrough invoke handle arguments keywords) world = (.error error, after)) ∧
      (world.AtRest → (∀ value ∈ arguments ++ keywords.map (·.2),
        Plain world.machine.heap.cells.size value) → world.Restores after.settle)

/-- What comes of an assignment, in the same way. -/
structure AssignsInOrder (world : World) (handle : Handle) (name : String) (value : Value) : Prop where
  either : (∃ error, Rejects world (assignNeeds handle name value) error) ↔
    ¬ ∃ images ready, Passes world (assignNeeds handle name value) images ready
  admitted : ∀ images ready, Passes world (assignNeeds handle name value) images ready →
    ∃ image, images = [image] ∧ (∀ given, value = .object given → image = given) ∧
      ∀ set, Bridge.on (setThrough set handle name value) world =
        Bridge.on (assign (set handle name image) image) ready
  refused : ∀ error, Rejects world (assignNeeds handle name value) error → ∃ after,
    (∀ set, Bridge.on (setThrough set handle name value) world = (.error error, after)) ∧
      (world.AtRest → Plain world.machine.heap.cells.size value → world.Restores after.settle)

/-- The fixed objects are below every address that is still to be given out. -/
theorem fixed_le (sound : world.machine.heap.Sound) :
    Fixed.cells.size ≤ world.machine.heap.cells.size := sound.base.trans sound.size

theorem Refuses.restores {last : World} (rest : world.AtRest)
    (plain : ∀ value ∈ arguments ++ keywords.map (·.2), Plain world.machine.heap.cells.size value)
    (step : Bridge.on (prepare handle arguments keywords) world = (.error error, last)) :
    world.Restores last.settle :=
  rest.settle ((meets_prepare (fixed_le rest.sound) plain rest.sound).bad_of_error step)

variable {name : String} {value : Value}

theorem Rejects.restores {last : World} (rest : world.AtRest)
    (plain : Plain world.machine.heap.cells.size value)
    (step : Bridge.on (meetAll (assignNeeds handle name value)) world = (.error error, last)) :
    world.Restores last.settle := by
  refine rest.settle ((meets_meetAll (fixed_le rest.sound) (fun need member => ?_)
    rest.sound).bad_of_error step)
  rintro content rfl
  simp only [assignNeeds, List.mem_cons, reduceCtorEq, Need.value.injEq, List.not_mem_nil, or_false,
    false_or] at member
  exact member ▸ plain

/-- A call calls its target once, if the target, the values in order, and name by name the names and the
values by name are in order; else it does not call it, and fails with the first that is not. An assignment
sets an attribute if the object, the name and the value are in order, and fails in the same way. -/
theorem arguments_in_order (sound : world.machine.heap.Sound) (handle : Handle) (arguments : List Value)
    (keywords : List (String × Value)) (name : String) (value : Value) :
    (callWith handle arguments keywords = callThrough Run.call handle arguments keywords ∧
      CallsInOrder world handle arguments keywords) ∧
    (setAttribute handle name value = setThrough (Run.setAttribute Run.call) handle name value ∧
      AssignsInOrder world handle name value) := by
  refine ⟨⟨rfl, ?_, fun images named ready admits => ?_, fun error refuses => ?_⟩,
    rfl, ?_, fun images ready passes => passes.on_setThrough, fun error rejects => ?_⟩
  · constructor
    · rintro ⟨error, refuses⟩ ⟨images, named, ready, admits⟩
      exact admits.not_refuses refuses
    · exact (admits_or_refuses world handle arguments keywords).resolve_left
  · obtain ⟨built, early, late⟩ := id admits
    exact ⟨.of_firstNeeds early, .of_named late, admits.on_callThrough sound⟩
  · obtain ⟨after, step, same⟩ := refuses.on_callThrough sound
    exact ⟨after, same, fun rest plain => Refuses.restores rest plain step⟩
  · constructor
    · rintro ⟨error, rejects⟩ ⟨images, ready, passes⟩
      exact passes.not_rejects rejects
    · exact (passes_or_rejects (assignNeeds handle name value) world).resolve_left
  · obtain ⟨after, step, same⟩ := rejects.on_setThrough
    exact ⟨after, same, fun rest plain => Rejects.restores rest plain step⟩

/-- A function that is found last, after objects have been made for the values in order, leaves everything
as it was. -/
theorem arguments_in_order_of_function : ∃ after,
    Bridge.on (callWith Fixed.none [.list [.object Fixed.none, .text "item"]] [("key", .function 0)])
      (.ofMachine Machine.bare ⟨none, none⟩) = (.error noFunctions, after) ∧
    (World.ofMachine Machine.bare ⟨none, none⟩).Restores after.settle := by
  let world := World.ofMachine Machine.bare ⟨none, none⟩
  have sound : world.machine.heap.Sound := Machine.sound_bare
  have rest : world.AtRest := ⟨sound, rfl, Machine.grounded_bare, Machine.rested_bare [], nofun⟩
  have item : Plain world.machine.heap.cells.size (.list [.object Fixed.none, .text "item"]) := by
    refine ⟨Value.PlainKeys.list_iff.mpr fun item member pairs inner => ?_, ?_⟩
    · simp only [List.mem_cons, List.not_mem_nil, or_false] at member
      rcases member with rfl | rfl <;> cases inner
    · change ∀ handle ∈ [Fixed.none], _
      exact List.forall_mem_singleton.mpr ((Fixed.address_le Fixed.get?_none).trans (fixed_le sound))
  have function : Plain world.machine.heap.cells.size (.function 0) :=
    ⟨fun pairs inner => (by cases inner), nofun⟩
  obtain ⟨image, built, step, _⟩ := constructs (fixed_le sound) item.1 item.2 world sound
  have refuses : Refuses world Fixed.none [.list [.object Fixed.none, .text "item"]]
      [("key", .function 0)] noFunctions := by
    have there := Heap.not_isNull_of_get? Fixed.get?_none
    exact .inr ⟨_, built, .cons (.object there) (.cons (.value step) .nil),
      .tail (.name (by simp)) (.head (.value rfl))⟩
  have inOrder := arguments_in_order sound Fixed.none [.list [.object Fixed.none, .text "item"]]
    [("key", .function 0)] "name" .null
  obtain ⟨after, failed, restores⟩ := inOrder.1.2.refused noFunctions refuses
  refine ⟨after, inOrder.1.1 ▸ failed Run.call, restores rest ?_⟩
  exact List.forall_mem_append.mpr ⟨List.forall_mem_singleton.mpr item,
    List.forall_mem_singleton.mpr function⟩

end Bridge

end ForeignBridge
