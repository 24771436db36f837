import ForeignBridge.Proofs.Bridge.SearchPath
import ForeignBridge.Proofs.Foreign.Calls
import ForeignBridge.Proofs.Pending.Objects

/-! # Passing arguments

What a call needs is looked at in order: the target, the values one by one, and then name by name the name
and its value. Once all of it is in order the target is called, with the objects that have been made and
just once; before that it is not called at all, and the first thing that is not in order is what fails.
-/

namespace ForeignBridge

open Foreign

namespace Bridge

/-- What has to be in order: an object that is one, a name without a null character, a value that there
is an object for. -/
inductive Need where
  | object (handle : Handle)
  | name (text : String)
  | value (value : Value)

namespace Need

/-- That a need is met, with the objects that are made for it and the world in which they are there. -/
inductive Met : Need → World → List Handle → World → Prop
  | object {handle world} (there : handle.isNull = false) : Met (.object handle) world [] world
  | name {text world} (plain : text.contains (Char.ofNat 0) = false) : Met (.name text) world [] world
  | value {content world image after} (built : Bridge.on (build content) world = (.ok image, after)) :
      Met (.value content) world [image] after

/-- That a need is not met, with the failure and the world that is left. -/
inductive Fails : Need → World → BridgeError → World → Prop
  | object {handle world} (null : handle.isNull = true) : Fails (.object handle) world .nullHandle world
  | name {text world} (interior : text.contains (Char.ofNat 0) = true) :
      Fails (.name text) world (.interiorNul text) world
  | value {content world error after}
      (failed : Bridge.on (build content) world = (.error error, after)) :
      Fails (.value content) world error after

end Need

/-- That needs are met one after the other. -/
inductive Passes : World → List Need → List Handle → World → Prop
  | nil {world} : Passes world [] [] world
  | cons {world middle after need needs images others} (met : Need.Met need world images middle)
      (rest : Passes middle needs others after) : Passes world (need :: needs) (images ++ others) after

variable {world middle ready after : World} {handle : Handle} {images others : List Handle}
  {arguments : List Value} {keywords : List (String × Value)} {error : BridgeError}

namespace Need

/-- Sees to a need. -/
def meet : Need → Bridge (List Handle)
  | object handle => do
    requireObject handle
    return []
  | name text => do
    requireNoNul text
    return []
  | value content => return [← build content]

variable {need : Need}

theorem meet_object_on (handle : Handle) (world : World) : Bridge.on (meet (.object handle)) world =
    if handle.isNull then (.error .nullHandle, world) else (.ok [], world) := by
  rw [meet, requireObject]
  split <;> rfl

theorem meet_name_on (text : String) (world : World) : Bridge.on (meet (.name text)) world =
    if text.contains (Char.ofNat 0) then (.error (.interiorNul text), world) else (.ok [], world) := by
  rw [meet, requireNoNul]
  split <;> rfl

theorem Met.on (met : need.Met world images after) : Bridge.on need.meet world = (.ok images, after) := by
  cases met with
  | object there => rw [meet_object_on, there, if_neg Bool.false_ne_true]
  | name plain => rw [meet_name_on, plain, if_neg Bool.false_ne_true]
  | value built => exact on_bind _ built

theorem Fails.on (fails : need.Fails world error after) :
    Bridge.on need.meet world = (.error error, after) := by
  cases fails with
  | object null => rw [meet_object_on, null, if_pos rfl]
  | name interior => rw [meet_name_on, interior, if_pos rfl]
  | value failed => rw [meet, on_bind_eq, failed]

/-- Each need is met or not. -/
theorem met_or_fails (need : Need) (world : World) :
    (∃ images after, need.Met world images after) ∨ ∃ error after, need.Fails world error after := by
  cases need with
  | object handle =>
    cases null : handle.isNull with
    | false => exact .inl ⟨_, _, .object null⟩
    | true => exact .inr ⟨_, _, .object null⟩
  | name text =>
    cases interior : text.contains (Char.ofNat 0) with
    | false => exact .inl ⟨_, _, .name interior⟩
    | true => exact .inr ⟨_, _, .name interior⟩
  | value content =>
    cases step : Bridge.on (build content) world with
    | mk result after =>
      cases result with
      | ok image => exact .inl ⟨_, _, .value step⟩
      | error error => exact .inr ⟨_, _, .value step⟩

/-- There is one object for a value, and for an object it is that object. -/
theorem Met.of_value {content : Value} (met : Met (.value content) world images after) :
    ∃ image, images = [image] ∧ ∀ given, content = .object given → image = given := by
  cases met with
  | value built =>
    refine ⟨_, rfl, fun given same => ?_⟩
    subst same
    rw [build, on_bind_eq, on_lift] at built
    cases built
    rfl

theorem Met.grows (met : need.Met world images after) : world.Grows after := by
  cases met with
  | object there => exact .refl _
  | name plain => exact .refl _
  | @value content _ _ _ built =>
    have grown := ((@build_quiet World.Grows _ content).1 world).1
    change world.Grows (Bridge.on (build content) world).2 at grown
    rwa [built] at grown

end Need

/-- That of some needs the first that is not met fails. -/
def Rejects (world : World) (needs : List Need) (error : BridgeError) : Prop :=
  ∃ early need late images middle after, needs = early ++ need :: late ∧
    Passes world early images middle ∧ need.Fails middle error after

theorem Rejects.head {need : Need} {needs : List Need} (fails : need.Fails world error after) :
    Rejects world (need :: needs) error :=
  ⟨[], need, needs, [], world, after, rfl, .nil, fails⟩

theorem Rejects.tail {need : Need} {needs : List Need} (met : need.Met world images middle)
    (rejects : Rejects middle needs error) : Rejects world (need :: needs) error := by
  obtain ⟨early, failing, late, others, last, after, rfl, passes, fails⟩ := rejects
  exact ⟨need :: early, failing, late, images ++ others, last, after, rfl, .cons met passes, fails⟩

/-- Sees to some needs one after the other; on a failure what has been made is given back. -/
def meetAll : List Need → Bridge (List Handle)
  | [] => return []
  | need :: rest => do
    let images ← need.meet
    let others ← elseRelease images (meetAll rest)
    return images ++ others

theorem meetAll_cons_on (need : Need) (rest : List Need) (world : World) :
    Bridge.on (meetAll (need :: rest)) world = match Bridge.on need.meet world with
      | (.error error, after) => (.error error, after)
      | (.ok images, middle) => match Bridge.on (meetAll rest) middle with
        | (.error error, after) => (.error error, images.foldl World.giveBack after)
        | (.ok others, after) => (.ok (images ++ others), after) := by
  rw [meetAll, on_bind_eq]
  obtain ⟨result, middle⟩ := Bridge.on need.meet world
  cases result with
  | error error => rfl
  | ok images =>
    simp only [on_bind_eq, elseRelease_on]
    obtain ⟨result, after⟩ := Bridge.on (meetAll rest) middle
    cases result <;> rfl

variable {needs : List Need}

theorem Passes.on (passes : Passes world needs images after) :
    Bridge.on (meetAll needs) world = (.ok images, after) := by
  induction passes with
  | nil => rfl
  | cons met _ ih => simp only [meetAll_cons_on, met.on, ih]

theorem Rejects.on (rejects : Rejects world needs error) :
    ∃ after, Bridge.on (meetAll needs) world = (.error error, after) := by
  obtain ⟨early, need, late, images, middle, after, rfl, passes, fails⟩ := rejects
  induction passes with
  | nil => exact ⟨after, by rw [List.nil_append, meetAll_cons_on, fails.on]⟩
  | @cons _ _ _ _ _ images _ met _ ih =>
    obtain ⟨last, step⟩ := ih fails
    exact ⟨images.foldl World.giveBack last, by
      simp only [List.cons_append, meetAll_cons_on, met.on, step]⟩

/-- Needs are met, or one of them is the first that is not. -/
theorem passes_or_rejects (needs : List Need) (world : World) :
    (∃ images after, Passes world needs images after) ∨ ∃ error, Rejects world needs error := by
  induction needs generalizing world with
  | nil => exact .inl ⟨[], world, .nil⟩
  | cons need rest ih =>
    obtain ⟨images, middle, met⟩ | ⟨error, after, fails⟩ := need.met_or_fails world
    · obtain ⟨others, after, passes⟩ | ⟨error, rejects⟩ := ih middle
      · exact .inl ⟨_, after, .cons met passes⟩
      · exact .inr ⟨error, rejects.tail met⟩
    · exact .inr ⟨error, .head fails⟩

theorem Passes.not_rejects (passes : Passes world needs images after) : ¬ Rejects world needs error := by
  rintro rejects
  obtain ⟨last, step⟩ := rejects.on
  rw [passes.on] at step
  cases step

theorem Passes.unique {last : World} (passes : Passes world needs images after)
    (again : Passes world needs others last) : images = others ∧ after = last := by
  have both := passes.on.symm.trans again.on
  simpa only [Prod.mk.injEq, Except.ok.injEq] using both

theorem Passes.grows (passes : Passes world needs images after) : world.Grows after := by
  induction passes with
  | nil => exact .refl _
  | cons met _ ih => exact met.grows.trans ih

/-! Values in order. -/

/-- That there is an object for each of some values, which for an object is that object. -/
def Images (values : List Value) (images : List Handle) : Prop :=
  List.Forall₂ (fun value image => ∀ given, value = .object given → image = given) values images

theorem Images.of_passes {values : List Value} (passes : Passes world (values.map .value) images after) :
    Images values images := by
  induction values generalizing world images with
  | nil =>
    cases passes
    exact .nil
  | cons value rest ih =>
    cases passes with
    | cons met others =>
      obtain ⟨image, rfl, same⟩ := met.of_value
      exact .cons same (ih others)

/-- Objects for values are made as the values are met as needs. -/
theorem buildAll_on (values : List Value) (world : World) :
    Bridge.on (buildAll values) world = Bridge.on (meetAll (values.map .value)) world := by
  induction values generalizing world with
  | nil => rfl
  | cons value rest ih =>
    rw [List.map_cons, meetAll_cons_on, buildAll, Need.meet, on_bind_eq, on_bind_eq]
    obtain ⟨result, middle⟩ := Bridge.on (build value) world
    cases result with
    | error error => rfl
    | ok image =>
      simp only [on_bind_eq, elseRelease_on, ih, on_pure]
      obtain ⟨result, after⟩ := Bridge.on (meetAll (rest.map .value)) middle
      cases result <;> rfl

/-! Values by name. -/

/-- What is looked at for values by name: each name, and then its value. -/
def namedNeeds (keywords : List (String × Value)) : List Need :=
  keywords.flatMap fun keyword => [.name keyword.1, .value keyword.2]

/-- Objects for values by name are made as the names and the values are met as needs. -/
theorem buildNamed_on (keywords : List (String × Value)) (world : World) :
    Bridge.on (buildNamed keywords) world = Bridge.on (do
      return (keywords.map (·.1)).zip (← meetAll (namedNeeds keywords))) world := by
  induction keywords generalizing world with
  | nil => rfl
  | cons keyword rest ih =>
    obtain ⟨name, value⟩ := keyword
    have needs : namedNeeds ((name, value) :: rest) = .name name :: .value value :: namedNeeds rest := rfl
    simp only [buildNamed, needs, on_bind_eq, meetAll_cons_on, Need.meet, elseRelease_on, ih, on_pure,
      List.map_cons]
    obtain ⟨result, same⟩ := Bridge.on (requireNoNul name) world
    cases result with
    | error error => rfl
    | ok none =>
      simp only
      obtain ⟨result, middle⟩ := Bridge.on (build value) same
      cases result with
      | error error => rfl
      | ok image =>
        simp only
        obtain ⟨result, after⟩ := Bridge.on (meetAll (namedNeeds rest)) middle
        cases result <;> rfl

theorem Images.of_named (passes : Passes world (namedNeeds keywords) images ready) :
    Images (keywords.map (·.2)) images := by
  induction keywords generalizing world images with
  | nil =>
    cases passes
    exact .nil
  | cons keyword rest ih =>
    cases passes with
    | cons nameMet others =>
      cases nameMet with
      | name =>
        cases others with
        | cons met others =>
          obtain ⟨image, rfl, same⟩ := met.of_value
          exact .cons same (ih others)

/-- What has been made for values by name is put into a dictionary, which gathers it. -/
theorem exists_named (sound : world.machine.heap.Sound) (pairs : List (String × Handle)) :
    ∃ dict called after, Bridge.on (thenRelease (pairs.map (·.2)) do
        let dict ← made Run.newEmptyDict
        elseRelease [dict] (perform (Run.putNames dict pairs))
        return some dict) world = (.ok (some dict), after) ∧
      world.Extends (fun _ => False) after ∧ Gathers pairs called ∧
      after.machine.Gives (some dict) called := by
  have found := Heap.get?_add_self world.machine.heap (.ofCore .dict (.dict .empty))
  obtain ⟨called, last, put, kept, gathers, listed⟩ := Run.on_putNames_new sound pairs
  have opened := @made_on_ok world Run.newEmptyDict _ _ (Run.on_new _)
    (Option.isSome_iff_exists.mpr ⟨_, found⟩)
  obtain ⟨held, overdrawn, step⟩ := thenRelease_on_ok (pairs.map (·.2))
    ((on_bind (fun dict => do
      elseRelease [dict] (perform (Run.putNames dict pairs))
      return some dict) opened).trans
      ((on_bind _ (elseRelease_on_ok (perform_on_ok put))).trans (on_pure _ _)))
  exact ⟨_, called, _, step, .ran kept held overdrawn, gathers, listed⟩

/-- A dictionary is made for values by name, if there are any, once the names and the values are in
order. -/
theorem Passes.on_buildKeywords (passes : Passes world (namedNeeds keywords) images ready)
    (sound : world.machine.heap.Sound) : ∃ dict called after,
      Bridge.on (buildKeywords keywords) world = (.ok dict, after) ∧
      ready.Extends (fun _ => False) after ∧ Gathers ((keywords.map (·.1)).zip images) called ∧
      after.machine.Gives dict called := by
  cases keywords with
  | nil =>
    cases passes
    exact ⟨none, [], world, rfl, .refl _ _, ⟨rfl, fun _ => rfl⟩, rfl⟩
  | cons keyword rest =>
    obtain ⟨dict, called, after, step, kept, gathers, gives⟩ :=
      exists_named (sound.grows passes.grows) (((keyword :: rest).map (·.1)).zip images)
    refine ⟨some dict, called, after, ?_, kept, gathers, gives⟩
    have built : Bridge.on (buildNamed (keyword :: rest)) world =
        (.ok (((keyword :: rest).map (·.1)).zip images), ready) := by
      rw [buildNamed_on, on_bind _ passes.on]
      rfl
    exact (on_bind _ built).trans step

theorem Rejects.on_buildKeywords (rejects : Rejects world (namedNeeds keywords) error) :
    ∃ after, Bridge.on (buildKeywords keywords) world = (.error error, after) := by
  obtain ⟨after, step⟩ := rejects.on
  refine ⟨after, ?_⟩
  cases keywords with
  | nil => cases step
  | cons keyword rest =>
    have failed : Bridge.on (buildNamed (keyword :: rest)) world = (.error error, after) := by
      rw [buildNamed_on, on_bind_eq, step]
    exact (on_bind_eq _ _ _).trans (by rw [failed])

/-! The tuple. -/

/-- The world once the tuple of some objects has been made, which takes the references to them over. -/
def packing (world : World) (images : List Handle) : World :=
  (Bridge.on (thenRelease images (made (Run.newTuple images))) world).2

theorem exists_tuple (sound : world.machine.heap.Sound) (images : List Handle) : ∃ tuple,
    Bridge.on (thenRelease images (made (Run.newTuple images))) world =
      (.ok tuple, packing world images) ∧
    world.Extends (fun _ => False) (packing world images) ∧
    (packing world images).machine.heap.get? tuple = some (.ofCore .tuple (.tuple images)) := by
  obtain ⟨tuple, after, step, kept, found⟩ := newTuple_made sound images
  obtain ⟨held, overdrawn, back⟩ := thenRelease_on_ok images step
  rw [packing, back]
  exact ⟨tuple, rfl, kept.trans (.ran (.refl _ _) held overdrawn), found⟩

/-- What a call looks at before it makes the tuple. -/
def firstNeeds (handle : Handle) (arguments : List Value) : List Need :=
  .object handle :: arguments.map .value

theorem Images.of_firstNeeds (passes : Passes world (firstNeeds handle arguments) images after) :
    Images arguments images := by
  cases passes with
  | cons met others =>
    cases met with
    | object there => exact .of_passes others

/-- What a call makes of the values in order, once the target has been looked at. -/
def buildArguments (handle : Handle) (arguments : List Value) : Bridge Handle := do
  requireObject handle
  buildTuple arguments

theorem buildArguments_on (handle : Handle) (arguments : List Value) (world : World) :
    Bridge.on (buildArguments handle arguments) world = Bridge.on (do
      let images ← meetAll (firstNeeds handle arguments)
      thenRelease images (made (Run.newTuple images))) world := by
  rw [buildArguments, firstNeeds, on_bind_eq, on_bind_eq _ _ world, meetAll_cons_on, Need.meet_object_on, requireObject]
  cases handle.isNull with
  | true => rfl
  | false =>
    simp only [Bool.false_eq_true, ↓reduceIte, on_pure, buildTuple, on_bind_eq, buildAll_on]
    obtain ⟨result, after⟩ := Bridge.on (meetAll (arguments.map .value)) world
    cases result <;> rfl

/-! Calls. -/

/-- That everything a call needs is in order: the target and the values in order, and, once the tuple of
them has been made, the names and the values by name. -/
def Admits (world : World) (handle : Handle) (arguments : List Value) (keywords : List (String × Value))
    (images named : List Handle) (ready : World) : Prop :=
  ∃ built, Passes world (firstNeeds handle arguments) images built ∧
    Passes (packing built images) (namedNeeds keywords) named ready

/-- That the first thing a call needs that is not in order fails. -/
def Refuses (world : World) (handle : Handle) (arguments : List Value) (keywords : List (String × Value))
    (error : BridgeError) : Prop :=
  Rejects world (firstNeeds handle arguments) error ∨
    ∃ images built, Passes world (firstNeeds handle arguments) images built ∧
      Rejects (packing built images) (namedNeeds keywords) error

/-- Everything is in order, or there is something that is not. -/
theorem admits_or_refuses (world : World) (handle : Handle) (arguments : List Value)
    (keywords : List (String × Value)) :
    (∃ images named ready, Admits world handle arguments keywords images named ready) ∨
      ∃ error, Refuses world handle arguments keywords error := by
  obtain ⟨images, built, early⟩ | ⟨error, rejects⟩ :=
    passes_or_rejects (firstNeeds handle arguments) world
  · obtain ⟨named, ready, late⟩ | ⟨error, rejects⟩ :=
      passes_or_rejects (namedNeeds keywords) (packing built images)
    · exact .inl ⟨images, named, ready, built, early, late⟩
    · exact .inr ⟨error, .inr ⟨images, built, early, rejects⟩⟩
  · exact .inr ⟨error, .inl rejects⟩

theorem Admits.not_refuses {named : List Handle}
    (admits : Admits world handle arguments keywords images named ready) :
    ¬ Refuses world handle arguments keywords error := by
  obtain ⟨built, early, late⟩ := admits
  rintro (rejects | ⟨others, last, again, rejects⟩)
  · exact early.not_rejects rejects
  · obtain ⟨rfl, rfl⟩ := early.unique again
    exact late.not_rejects rejects

/-- What a call makes before the target is called: the tuple, and the dictionary if there is one. -/
def prepare (handle : Handle) (arguments : List Value) (keywords : List (String × Value)) :
    Bridge (Handle × Option Handle) := do
  let tuple ← buildArguments handle arguments
  let named ← elseRelease [tuple] (buildKeywords keywords)
  return (tuple, named)

/-- What a call does once everything is there: the target is called, and what has been packed for it is
given back before the outcome is looked at. -/
def finish (run : Run Handle) (packed : List Handle) : Bridge Handle := do
  let result ← attemptOwned run
  releaseAll packed
  settledObject result

/-- A call, given what calls the target. -/
def callThrough (invoke : Invoke) (handle : Handle) (arguments : List Value)
    (keywords : List (String × Value)) : Bridge Handle := do
  requireObject handle
  let tuple ← buildTuple arguments
  let named ← elseRelease [tuple] (buildKeywords keywords)
  let result ← attemptOwned (Run.callPacked invoke handle tuple named)
  releaseAll (tuple :: named.toList)
  settledObject result

theorem callThrough_eq (invoke : Invoke) (handle : Handle) (arguments : List Value)
    (keywords : List (String × Value)) : callThrough invoke handle arguments keywords =
      prepare handle arguments keywords >>= fun packed =>
        finish (Run.callPacked invoke handle packed.1 packed.2) (packed.1 :: packed.2.toList) := by
  simp only [callThrough, prepare, buildArguments, finish, bind_assoc, pure_bind]

theorem Admits.on_prepare {named : List Handle} (sound : world.machine.heap.Sound)
    (admits : Admits world handle arguments keywords images named ready) :
    ∃ tuple dict called after,
      Bridge.on (prepare handle arguments keywords) world = (.ok (tuple, dict), after) ∧
      after.machine.heap.get? tuple = some (.ofCore .tuple (.tuple images)) ∧
      Gathers ((keywords.map (·.1)).zip named) called ∧ after.machine.Gives dict called := by
  obtain ⟨built, early, late⟩ := admits
  have sound := sound.grows early.grows
  obtain ⟨tuple, packed, kept, found⟩ := exists_tuple sound images
  obtain ⟨dict, called, after, step, more, gathers, gives⟩ :=
    late.on_buildKeywords (kept.machine.sound sound)
  have first : Bridge.on (buildArguments handle arguments) world =
      (.ok tuple, packing built images) := by
    rw [buildArguments_on, on_bind _ early.on, packed]
  -- a tuple is never changed, whatever has run for the values by name
  obtain ⟨now, there, same⟩ := late.grows.kept found
  obtain rfl := same (by simp [Cell.isFixed, Cell.ofCore, Cell.of])
  refine ⟨tuple, dict, called, after, ?_, more.machine.cell there, gathers, gives⟩
  exact (on_bind _ first).trans ((on_bind _ (elseRelease_on_ok step)).trans (on_pure _ _))

theorem Refuses.on_prepare (sound : world.machine.heap.Sound)
    (refuses : Refuses world handle arguments keywords error) :
    ∃ after, Bridge.on (prepare handle arguments keywords) world = (.error error, after) := by
  obtain rejects | ⟨images, built, early, rejects⟩ := refuses
  · obtain ⟨after, step⟩ := rejects.on
    refine ⟨after, (on_bind_eq _ _ _).trans ?_⟩
    rw [buildArguments_on, on_bind_eq, step]
  · obtain ⟨tuple, packed, kept, _⟩ := exists_tuple (sound.grows early.grows) images
    obtain ⟨after, step⟩ := rejects.on_buildKeywords
    refine ⟨[tuple].foldl World.giveBack after, (on_bind_eq _ _ _).trans ?_⟩
    rw [buildArguments_on, on_bind _ early.on, packed]
    exact (on_bind_eq _ _ _).trans (by rw [elseRelease_on, step])

/-- What runs alike is attempted alike. -/
theorem attemptOwned_congr {run other : Run Handle} (same : run.on world.machine = other.on world.machine) :
    Act.on (attemptOwned run) world = Act.on (attemptOwned other) world := by
  have first : Act.on (attempt run) world = Act.on (attempt other) world := by
    rw [attempt, attempt, Act.on_bind, Act.on_bind, onMachine_on, onMachine_on, same]
  rw [attemptOwned, attemptOwned, Act.on_bind, Act.on_bind, first]

/-- When everything is in order the target is called once, with the objects for the values in order and
with those that have been gathered for the values by name. -/
theorem Admits.on_callThrough {named : List Handle} (sound : world.machine.heap.Sound)
    (admits : Admits world handle arguments keywords images named ready) :
    ∃ called packed after, Gathers ((keywords.map (·.1)).zip named) called ∧
      ∀ invoke, Bridge.on (callThrough invoke handle arguments keywords) world =
        Bridge.on (finish (invoke handle ⟨images, called⟩) packed) after := by
  obtain ⟨tuple, dict, called, after, step, found, gathers, gives⟩ := admits.on_prepare sound
  refine ⟨called, tuple :: dict.toList, after, gathers, fun invoke => ?_⟩
  rw [callThrough_eq, on_bind _ step, finish, finish, on_bind_eq, on_bind_eq _ _ after, on_lift, on_lift,
    attemptOwned_congr (Run.on_callPacked invoke handle found gives)]

/-- When something is not in order it does not matter what would call the target. -/
theorem Refuses.on_callThrough (sound : world.machine.heap.Sound)
    (refuses : Refuses world handle arguments keywords error) : ∃ after,
      Bridge.on (prepare handle arguments keywords) world = (.error error, after) ∧
      ∀ invoke, Bridge.on (callThrough invoke handle arguments keywords) world =
        (.error error, after) := by
  obtain ⟨after, step⟩ := refuses.on_prepare sound
  exact ⟨after, step, fun invoke => by rw [callThrough_eq, on_bind_eq, step]⟩

/-! Assignments. -/

/-- An assignment to an attribute, given what sets it. -/
def setThrough (set : Handle → String → Handle → Run Unit) (handle : Handle) (name : String)
    (value : Value) : Bridge Unit := do
  requireObject handle
  requireNoNul name
  let value ← build value
  thenRelease [value] do
    settled (fun _ => []) (← attempt (set handle name value))

/-- What an assignment looks at. -/
def assignNeeds (handle : Handle) (name : String) (value : Value) : List Need :=
  [.object handle, .name name, .value value]

/-- What an assignment does once everything is there. -/
def assign (run : Run Unit) (image : Handle) : Bridge Unit :=
  thenRelease [image] do
    settled (fun _ => []) (← attempt run)

variable {name : String} {value : Value}

theorem Passes.on_setThrough (passes : Passes world (assignNeeds handle name value) images ready) :
    ∃ image, images = [image] ∧ (∀ given, value = .object given → image = given) ∧
      ∀ set, Bridge.on (setThrough set handle name value) world =
        Bridge.on (assign (set handle name image) image) ready := by
  cases passes with
  | cons object others =>
    cases object with
    | object there =>
      cases others with
      | cons nameMet others =>
        cases nameMet with
        | name plain =>
          cases others with
          | cons met others =>
            cases others
            obtain ⟨image, rfl, same⟩ := met.of_value
            refine ⟨image, rfl, same, fun set => ?_⟩
            cases met with
            | value built =>
              rw [setThrough, requireObject, there]
              refine (on_bind _ (on_pure () world)).trans ?_
              exact (on_bind _ (requireNoNul_on plain world)).trans (on_bind _ built)

theorem Rejects.on_setThrough (rejects : Rejects world (assignNeeds handle name value) error) :
    ∃ after, Bridge.on (meetAll (assignNeeds handle name value)) world = (.error error, after) ∧
      ∀ set, Bridge.on (setThrough set handle name value) world = (.error error, after) := by
  obtain ⟨after, step⟩ := rejects.on
  refine ⟨after, step, fun set => ?_⟩
  simp only [assignNeeds, meetAll_cons_on, Need.meet_object_on, Need.meet_name_on] at step
  rw [setThrough, requireObject]
  cases null : handle.isNull with
  | true =>
    rw [null] at step
    cases step
    rfl
  | false =>
    rw [null] at step
    refine (on_bind _ (on_pure () world)).trans ?_
    rw [requireNoNul]
    cases interior : name.contains (Char.ofNat 0) with
    | true =>
      rw [interior] at step
      cases step
      rfl
    | false =>
      rw [interior] at step
      refine (on_bind _ (on_pure () world)).trans ?_
      simp only [Bool.false_eq_true, ↓reduceIte, Need.meet, on_bind_eq] at step ⊢
      cases built : Bridge.on (build value) world with
      | mk result middle =>
        rw [built] at step
        cases result with
        | error failed =>
          cases step
          rfl
        | ok image => cases step

end Bridge

end ForeignBridge
