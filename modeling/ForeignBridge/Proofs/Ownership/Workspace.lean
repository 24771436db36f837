import ForeignBridge.Proofs.Fields
import ForeignBridge.Proofs.Ownership.Interface
import ForeignBridge.Proofs.Value.Objects
import ForeignBridge.Workspace.Basic
import ForeignBridge.Workspace.Step

/-! # Workspaces in balance

A recipe makes a value of what is kept by name, so the objects in the value are kept as well, or they
are the handle of no object.

What is kept by name is held by one reference each, as are the objects in the registry and in the
session. There are no other references between two steps, so an object is referred to just by other
objects and by these, and none of them has been freed.
-/

namespace ForeignBridge.Recipe

variable {objects : List (String × Handle)} {values : List (String × Value)} {lent : List Handle}

theorem wrap_objects (wrapping : Wrapping) {value : Value} (part : value.objects ⊆ lent) :
    (wrapping.wrap value).objects ⊆ lent := by
  cases wrapping <;> simpa [Wrapping.wrap, Value.objects, Value.itemObjects, Value.pairObjects,
    Value.fieldObjects] using part

theorem nested_objects (wrapping : Wrapping) {value : Value} (part : value.objects ⊆ lent)
    (times : ℕ) : (Nat.repeat wrapping.wrap times value).objects ⊆ lent := by
  induction times with
  | zero => exact part
  | succ times ih => exact wrap_objects wrapping ih

/-- That what is kept by name is lent, and the handle of no object. -/
structure Lends (objects : List (String × Handle)) (values : List (String × Value))
    (lent : List Handle) : Prop where
  none : .null ∈ lent
  object : ∀ name, (objects.lookup name).getD .null ∈ lent
  value : ∀ name, ((values.lookup name).getD .null).objects ⊆ lent

mutual

/-- What a recipe makes has only objects in it that are kept by name, and the handle of none. -/
theorem objects_make (lends : Lends objects values lent) (recipe : Recipe) :
    (recipe.make objects values).objects ⊆ lent := by
  cases recipe with
  | null | bool | int | float | text | function | repeatedText => exact List.nil_subset _
  | list items => exact Value.itemObjects_subset.mpr (objects_makeItems lends items)
  | map pairs => exact Value.pairObjects_subset.mpr (objects_makePairs lends pairs)
  | record fields =>
    exact Value.fieldObjects_subset.mpr fun field member =>
      objects_makeFields lends fields field (Fields.mem_ofList member)
  | object name => exact List.cons_subset.mpr ⟨lends.object name, List.nil_subset _⟩
  | noObject => exact List.cons_subset.mpr ⟨lends.none, List.nil_subset _⟩
  | kept name => exact lends.value name
  | repeated item times =>
    refine Value.itemObjects_subset.mpr fun value member => ?_
    rw [List.eq_of_mem_replicate member]
    exact objects_make lends item
  | range count =>
    exact Value.itemObjects_subset.mpr (List.forall_mem_map.mpr fun _ _ => List.nil_subset _)
  | nested wrapping times leaf => exact nested_objects wrapping (objects_make lends leaf) times

theorem objects_makeItems (lends : Lends objects values lent) (recipes : List Recipe) :
    ∀ item ∈ makeItems objects values recipes, item.objects ⊆ lent := by
  cases recipes with
  | nil => exact List.forall_mem_nil _
  | cons recipe rest =>
    exact List.forall_mem_cons.mpr ⟨objects_make lends recipe, objects_makeItems lends rest⟩

theorem objects_makePairs (lends : Lends objects values lent) (recipes : List (Recipe × Recipe)) :
    ∀ pair ∈ makePairs objects values recipes, pair.1.objects ⊆ lent ∧ pair.2.objects ⊆ lent := by
  cases recipes with
  | nil => exact List.forall_mem_nil _
  | cons pair rest =>
    obtain ⟨key, value⟩ := pair
    exact List.forall_mem_cons.mpr
      ⟨⟨objects_make lends key, objects_make lends value⟩, objects_makePairs lends rest⟩

theorem objects_makeFields (lends : Lends objects values lent)
    (recipes : List (String × Recipe)) :
    ∀ field ∈ makeFields objects values recipes, field.2.objects ⊆ lent := by
  cases recipes with
  | nil => exact List.forall_mem_nil _
  | cons field rest =>
    obtain ⟨name, value⟩ := field
    exact List.forall_mem_cons.mpr ⟨objects_make lends value, objects_makeFields lends rest⟩

end

end ForeignBridge.Recipe

namespace ForeignBridge

open World (Change)

/-- The references that come with what an action comes to. -/
def Product.references : Product → List Handle
  | .answer _ => []
  | .object handle => [handle]
  | .value result => result.objects
  | .attribute handle => [handle]

/-- How worlds change in an action: what integers are for and the last error stay as they are unless
the action is about them. -/
def Action.changes : Action → World → World → Prop
  | .openRegistry | .closeRegistry | .register _ | .unregister _ | .setLastError _
  | .clearLastError => World.Grows
  | _ => World.Starting

instance (action : Action) : Change action.changes := by
  unfold Action.changes
  split <;> infer_instance

namespace Workspace

/-- The objects that are kept by name. -/
def named (workspace : Workspace) : List Handle :=
  workspace.slots.map (·.2) ++ (workspace.values.map (·.2)).flatMap Value.objects

theorem references_eq (workspace : Workspace) :
    workspace.references = workspace.named ++ workspace.world.kept := by
  rw [references, named, World.kept, List.flatMap_map, List.append_assoc _ _ (Option.getD _ _)]

/-- A workspace whose host holds the references to what is kept by name, and those that are owed. -/
structure Calm (workspace : Workspace) (owed : List Handle) : Prop where
  world : workspace.world.Calm (owed ++ workspace.named)
  alive : workspace.world.Alive (owed ++ workspace.named)
  slots : Fields.Ascending workspace.slots
  values : Fields.Ascending workspace.values

/-- What comes of something in a workspace. -/
def on {α : Type} (act : StateM Workspace α) (workspace : Workspace) : α × Workspace :=
  act.run workspace

theorem on_bind {α β : Type} (first : StateM Workspace α) (next : α → StateM Workspace β)
    (workspace : Workspace) :
    on (first >>= next) workspace = on (next (on first workspace).1) (on first workspace).2 := rfl

/-- What turns, in a workspace whose world has the objects that are lent, the references that it is
given into those that are due for its result. -/
def Balances {α : Type} (change : World → World → Prop) (workspace : Workspace)
    (lent given : List Handle) (act : StateM Workspace α) (due : α → List Handle) : Prop :=
  ∀ owed, workspace.Calm (given ++ owed) → workspace.world.Alive lent →
    change workspace.world (on act workspace).2.world ∧
      (on act workspace).2.Calm (due (on act workspace).1 ++ owed)

/-- What does so unless it fails; if it fails no references are due. -/
abbrev Tries {α : Type} (change : World → World → Prop) (workspace : Workspace)
    (lent given : List Handle) (attempt : Attempt α) (due : α → List Handle) : Prop :=
  Balances change workspace lent given attempt.run (Bridge.dues due)

variable {change : World → World → Prop} {α β : Type} {workspace : Workspace}
  {lent given more : List Handle} {mid : α → List Handle} {due : β → List Handle}

theorem Calm.perm {owed others : List Handle} (calm : workspace.Calm owed) (same : owed.Perm others) :
    workspace.Calm others where
  world := calm.world.perm (same.append_right _)
  alive := calm.alive.mono (same.append_right _).symm.subset
  slots := calm.slots
  values := calm.values

/-! Putting things together. -/

theorem Balances.lend {act : StateM Workspace β} (balances : Balances change workspace lent given act due)
    (part : lent ⊆ more) : Balances change workspace more given act due :=
  fun owed calm alive => balances owed calm (alive.mono part)

theorem Balances.get_bind {next : Workspace → StateM Workspace β}
    (tail : Balances change workspace lent given (next workspace) due) :
    Balances change workspace lent given (get >>= next) due := tail

/-- References that something is not concerned with stay beside it. -/
theorem Balances.beside {act : StateM Workspace β} (balances : Balances change workspace lent [] act due) :
    Balances change workspace lent given act fun value => given ++ due value := by
  intro owed calm alive
  obtain ⟨grown, after⟩ := balances (given ++ owed) calm alive
  refine ⟨grown, after.perm ?_⟩
  rw [← List.append_assoc]
  exact List.perm_append_comm.append_right owed

/-- What is kept by name is there. -/
theorem Balances.of_named {act : StateM Workspace β}
    (balances : Balances change workspace (.null :: workspace.named) given act due) :
    Balances change workspace lent given act due := by
  refine fun owed calm _ => balances owed calm fun handle member object => ?_
  obtain rfl | member := List.mem_cons.mp member
  · cases object
  · exact calm.alive handle (List.mem_append_right _ member) object

theorem Tries.get_bind {next : Workspace → Attempt β}
    (tail : Tries change workspace lent given (next workspace) due) :
    Tries change workspace lent given (get >>= next) due := tail

/-- What does not fail. -/
theorem Tries.lift {act : StateM Workspace β} (balances : Balances change workspace lent given act due) :
    Tries change workspace lent given (liftM act) due := balances

/-- What does not fail, and what comes after it. -/
theorem Tries.lift_bind {act : StateM Workspace α} {next : α → Attempt β}
    (tail : Balances change workspace lent given (act >>= fun value => (next value).run) (Bridge.dues due)) :
    Tries change workspace lent given (liftM act >>= next) due := tail

/-- What changes nothing can be left out once it is known what it comes to. -/
theorem Tries.known_bind {act : StateM Workspace α} {value : α} {next : α → Attempt β}
    (known : on act workspace = (value, workspace))
    (tail : Tries change workspace lent given (next value) due) :
    Tries change workspace lent given (liftM act >>= next) due := by
  have same : on (liftM act >>= next : Attempt β).run workspace = on (next value).run workspace := by
    change on (next (on act workspace).1).run (on act workspace).2 = _
    rw [known]
  unfold Tries Balances
  rw [same]
  exact tail

variable [Change change]

/-- What balances does so however worlds may change in it. -/
theorem Balances.grow {act : StateM Workspace β} (balances : Balances change workspace lent given act due) :
    Balances World.Grows workspace lent given act due := by
  intro owed calm alive
  obtain ⟨changed, done⟩ := balances owed calm alive
  exact ⟨Change.grows changed, done⟩

theorem Balances.pure {value : β} (same : given.Perm (due value)) :
    Balances change workspace lent given (pure value) due :=
  fun owed calm _ => ⟨Change.of_steady (.refl _), calm.perm (same.append_right owed)⟩

theorem Balances.bind {first : StateM Workspace α} {next : α → StateM Workspace β}
    (head : Balances change workspace lent given first mid)
    (tail : Balances change (on first workspace).2 (mid (on first workspace).1 ++ lent)
      (mid (on first workspace).1) (next (on first workspace).1) due) :
    Balances change workspace lent given (first >>= next) due := by
  intro owed calm alive
  obtain ⟨early, between⟩ := head owed calm alive
  have there := (between.alive.mono (List.subset_append_left _ _)).mono
    (List.subset_append_left _ owed)
  obtain ⟨late, done⟩ := tail owed between (there.append (alive.grows (Change.grows early)))
  exact ⟨Change.trans early late, done⟩

theorem Balances.inWorld {act : Act β} (balances : Act.Balances change lent given act due) :
    Balances change workspace lent given (inWorld act) due := by
  intro owed calm alive
  have world := calm.world
  rw [List.append_assoc] at world
  obtain ⟨grown, after, there⟩ := balances workspace.world (owed ++ workspace.named) world alive
  refine ⟨grown, by rw [List.append_assoc]; exact after, ?_, calm.slots, calm.values⟩
  rw [List.append_assoc]
  refine there.append ((calm.alive.mono ?_).grows (Change.grows grown))
  rw [List.append_assoc]
  exact List.subset_append_right _ _

theorem Balances.inWorld_bind {act : Act α} {next : α → StateM Workspace β}
    (head : Act.Balances change lent given act mid)
    (tail : ∀ value world,
      Balances change { workspace with world } (mid value ++ lent) (mid value) (next value) due) :
    Balances change workspace lent given (Workspace.inWorld act >>= next) due :=
  (Balances.inWorld head).bind (tail _ _)

theorem Tries.pure {value : β} (same : given.Perm (due value)) :
    Tries change workspace lent given (pure value) due := Balances.pure same

theorem Tries.throw (error : BridgeError) :
    Tries change workspace lent [] (throw error : Attempt β) due := Balances.pure (.refl _)

theorem Tries.bind {first : Attempt α} {next : α → Attempt β}
    (head : Tries change workspace lent given first mid)
    (tail : ∀ value workspace,
      Tries change workspace (mid value ++ lent) (mid value) (next value) due) :
    Tries change workspace lent given (first >>= next) due := by
  have whole : Balances change workspace lent given (first.run >>= ExceptT.bindCont next)
      (Bridge.dues due) := by
    refine Balances.bind head ?_
    cases (on first.run workspace).1 with
    | ok value => exact tail value _
    | error error => exact Tries.throw error
  exact whole

theorem Tries.always_bind {act : Act α} {next : α → Attempt β}
    (head : Act.Balances change lent given act mid)
    (tail : ∀ value world,
      Tries change { workspace with world } (mid value ++ lent) (mid value) (next value) due) :
    Tries change workspace lent given (always act >>= next) due :=
  Tries.lift_bind (Balances.inWorld_bind head tail)

theorem Tries.tryInWorld_bind {bridge : Bridge α} {next : α → Attempt β}
    (head : Bridge.Balances change lent given bridge mid)
    (tail : ∀ value world,
      Tries change { workspace with world } (mid value ++ lent) (mid value) (next value) due) :
    Tries change workspace lent given (tryInWorld bridge >>= next) due := by
  have whole : Balances change workspace lent given
      (Workspace.inWorld (Bridge.outcome bridge) >>= ExceptT.bindCont next) (Bridge.dues due) := by
    refine Balances.inWorld_bind head fun result world => ?_
    cases result with
    | ok value => exact tail value world
    | error error => exact Tries.throw error
  exact whole

/-! What is kept by name. -/

theorem slot_mem (workspace : Workspace) (name : String) :
    workspace.slot name ∈ Handle.null :: workspace.named := by
  unfold slot
  cases found : workspace.slots.lookup name with
  | none => exact List.mem_cons_self ..
  | some handle =>
    have kept : handle ∈ workspace.slots.map (·.2) := List.mem_map_of_mem (mem_of_lookup found)
    exact List.mem_cons_of_mem _ (List.mem_append_left _ kept)

/-- The recipes of a workspace make values of what is kept in it. -/
theorem lends (workspace : Workspace) :
    Recipe.Lends workspace.slots workspace.values (.null :: workspace.named) where
  none := List.mem_cons_self ..
  object := workspace.slot_mem
  value name := by
    cases found : workspace.values.lookup name with
    | none => exact List.nil_subset _
    | some value =>
      intro handle member
      have kept : value ∈ workspace.values.map (·.2) := List.mem_map_of_mem (mem_of_lookup found)
      exact List.mem_cons_of_mem _ (List.mem_append_right _ (List.mem_flatMap.mpr ⟨value, kept, member⟩))

/-- References may go over from those who are owed them to names, and back. -/
theorem Calm.keep {owed others : List Handle} {slots : List (String × Handle)}
    {values : List (String × Value)} (calm : workspace.Calm owed)
    (inOrder : Fields.Ascending slots) (valuesInOrder : Fields.Ascending values)
    (same : (owed ++ workspace.named).Perm (others ++ named { workspace with slots, values })) :
    Calm { workspace with slots, values } others where
  world := calm.world.perm same
  alive := calm.alive.mono same.symm.subset
  slots := inOrder
  values := valuesInOrder

/-- What is replaced may be nothing. -/
theorem release_balances (old : Option Handle) :
    Balances change workspace lent old.toList (inWorld (Bridge.release (old.getD .null))) fun _ => [] := by
  cases old with
  | none => exact Balances.pure (.refl _)
  | some handle => exact Balances.inWorld (Bridge.release_balances handle)

theorem releaseAll_balances (handles : List Handle) :
    Balances change workspace lent handles (inWorld (Bridge.releaseAll handles)) fun _ => [] :=
  Balances.inWorld (Bridge.releaseAll_balances handles)

/-- An object that is kept under a name takes the place of the one that was. -/
theorem storeObject_balances (name : String) (handle : Handle) :
    Balances change workspace lent [handle] (storeObject name handle) fun _ => [] := by
  intro owed calm alive
  have replaced := @Fields.insert_perm _ name handle _ calm.slots
  refine release_balances (workspace.slots.lookup name) owed
    (calm.keep (Fields.ascending_insert name handle calm.slots) calm.values ?_) alive
  refine List.perm_iff_count.mpr fun other => ?_
  have count := replaced.count_eq other
  simp only [named, List.count_append] at *
  omega

/-- The objects of a value that may be missing. -/
private theorem objects_getD (old : Option Value) :
    old.toList.flatMap Value.objects = (old.getD .null).objects := by
  cases old with
  | none => rfl
  | some value => exact List.append_nil _

/-- A value that is kept under a name takes the place of the one that was. -/
theorem storeValue_balances {value : Value} (name : String) (part : value.objects ⊆ lent) :
    Balances change workspace lent [] (storeValue name value) fun _ => [] := by
  refine Balances.get_bind (Balances.inWorld_bind (Bridge.ownAll_balances part) fun _ world => ?_)
  intro owed calm alive
  have replaced := (@Fields.insert_perm _ name value _ calm.values).flatMap_right Value.objects
  refine releaseAll_balances ((workspace.values.lookup name).getD .null).objects owed
    (calm.keep calm.slots (Fields.ascending_insert name value calm.values) ?_) alive
  refine List.perm_iff_count.mpr fun other => ?_
  have count := replaced.count_eq other
  rw [List.flatMap_append, List.flatMap_append, objects_getD, List.flatMap_singleton] at count
  simp only [named, List.count_append] at *
  omega

theorem dropObject_balances (name : String) :
    Balances change workspace lent [] (dropObject name) fun _ => [] := by
  refine Balances.get_bind ?_
  split
  · exact .pure (.refl _)
  · rename_i handle found
    intro owed calm alive
    have removed := Fields.filter_perm calm.slots found
    have kept : Calm { workspace with slots := workspace.slots.filter (·.1 != name) }
        ([handle] ++ owed) := by
      refine calm.keep (calm.slots.filter _) calm.values (List.perm_iff_count.mpr fun other => ?_)
      have count := removed.count_eq other
      simp only [named, List.count_append, List.count_nil] at *
      omega
    exact release_balances (some handle) owed kept alive

theorem dropValue_balances (name : String) :
    Balances change workspace lent [] (dropValue name) fun _ => [] := by
  refine Balances.get_bind ?_
  split
  · exact .pure (.refl _)
  · rename_i value found
    intro owed calm alive
    have removed := (Fields.filter_perm calm.values found).flatMap_right Value.objects
    have kept : Calm { workspace with values := workspace.values.filter (·.1 != name) }
        (value.objects ++ owed) := by
      refine calm.keep calm.slots (calm.values.filter _) (List.perm_iff_count.mpr fun other => ?_)
      have count := removed.count_eq other
      rw [List.flatMap_append, List.flatMap_singleton] at count
      simp only [named, List.count_append, List.count_nil] at *
      omega
    exact releaseAll_balances value.objects owed kept alive

/-! What an action comes to. -/

theorem keepObject_balances (slot : Option String) (handle : Handle) :
    Balances change workspace lent [handle] (keepObject slot handle) fun _ => [] := by
  cases slot with
  | some name => exact storeObject_balances name handle
  | none => exact .inWorld (Bridge.release_balances handle)

theorem keepLeaf_balances {value : Value} (slot : Option String) (part : value.objects ⊆ lent) :
    Balances change workspace lent [] (keepLeaf slot value) fun _ => [] := by
  unfold keepLeaf
  split
  · rename_i name handle
    have member : handle ∈ lent := part (List.mem_singleton_self handle)
    exact Balances.inWorld_bind (Bridge.own_balances member) fun _ _ => storeObject_balances name handle
  · exact .pure (.refl _)

theorem keepValue_balances (slot kept : Option String) (value : Value) :
    Balances change workspace value.objects value.objects (keepValue slot kept value) fun _ => [] := by
  refine (keepLeaf_balances slot (List.Subset.refl _)).beside.bind ?_
  rw [List.append_nil]
  cases kept with
  | none => exact releaseAll_balances value.objects
  | some name =>
    refine (storeValue_balances name (List.subset_append_left _ _)).beside.bind ?_
    rw [List.append_nil]
    exact releaseAll_balances value.objects

/-- What comes of an action goes over to a name, or is given back. -/
theorem deliver_balances (slot kept : Option String) (view : View) (product : Product) :
    Balances change workspace product.references product.references (deliver slot kept view product)
      fun _ => [] := by
  cases product with
  | answer answer => exact .pure (.refl _)
  | object handle =>
    exact .get_bind (Balances.bind (keepObject_balances slot handle) (.pure (.refl [])))
  | value value =>
    exact .get_bind (Balances.bind (keepValue_balances slot kept value) (.pure (.refl [])))
  | «attribute» handle =>
    exact .get_bind (Balances.bind (keepObject_balances slot handle) (.pure (.refl [])))

/-! Actions. -/

theorem on_madeAll (recipes : List Recipe) : on (madeAll recipes) workspace =
    (recipes.map (·.make workspace.slots workspace.values), workspace) := by
  induction recipes with
  | nil => rfl
  | cons recipe rest ih =>
    rw [madeAll, List.mapM_cons]
    change (_ :: (on (madeAll rest) workspace).1, (on (madeAll rest) workspace).2) = _
    rw [ih]
    rfl

theorem on_madeNamed (recipes : List (String × Recipe)) : on (madeNamed recipes) workspace =
    (recipes.map fun entry => (entry.1, entry.2.make workspace.slots workspace.values), workspace) := by
  induction recipes with
  | nil => rfl
  | cons recipe rest ih =>
    rw [madeNamed, List.mapM_cons]
    change (_ :: (on (madeNamed rest) workspace).1, (on (madeNamed rest) workspace).2) = _
    rw [ih]
    rfl

/-- The objects of the session are there once there is one. -/
theorem Tries.session_bind {next : Session → Attempt β}
    (tail : ∀ session, Tries change workspace session.handles [] (next session) due) :
    Tries change workspace lent [] (tryInWorld Bridge.session >>= next) due := by
  intro owed calm alive
  have kept := calm.world.kept
  cases opened : workspace.world.session with
  | none =>
    have same : on (tryInWorld Bridge.session >>= next).run workspace =
        (.error .notInitialized, workspace) := by
      obtain ⟨⟨⟩⟩ := workspace
      cases opened
      rfl
    rw [same]
    exact ⟨Change.of_steady (.refl _), calm⟩
  | some session =>
    have same : on (tryInWorld Bridge.session >>= next).run workspace =
        on (next session).run workspace := by
      obtain ⟨⟨⟩⟩ := workspace
      cases opened
      rfl
    rw [World.kept, opened] at kept
    rw [same]
    exact tail session owed calm (kept.mono (List.subset_append_right _ _))

/-- What is read back is let go. -/
theorem readBack_balances (view : View) (handle : Handle) :
    Bridge.Balances change lent [handle] (readBack view handle) fun _ => [] := by
  refine .thenRelease [handle] ((Bridge.valueOf_balances handle).bind fun back => ?_)
  refine .lift_bind ?_
  refine (Bridge.releaseAll_balances back.objects).bind fun _ => ?_
  cases view with
  | whole =>
    exact Bridge.Balances.lift_bind (Bridge.outcome_bind (Bridge.repr_balances handle)
      (fun _ => .pure (.refl _) (List.nil_subset _))
      fun _ => .pure (.refl _) (List.nil_subset _))
  | depth | debug => exact .pure (.refl _) (List.nil_subset _)

theorem roundTrip_balances {value : Value} (view : View) (part : value.objects ⊆ lent) :
    Tries change workspace lent [] (roundTrip view value) fun _ => [] := by
  refine Tries.tryInWorld_bind (Bridge.build_balances part) fun handle world => ?_
  exact Tries.tryInWorld_bind (readBack_balances view handle) fun _ _ => .pure (.refl _)

theorem ownedObject_balances {handle : Handle} (part : handle ∈ lent) :
    Balances change workspace lent [] (ownedObject handle) Product.references :=
  Balances.inWorld_bind (Bridge.own_balances part) fun _ _ => .pure (.refl _)

theorem ownedValue_balances {value : Value} (part : value.objects ⊆ lent) :
    Balances change workspace lent [] (ownedValue value) Product.references :=
  Balances.inWorld_bind (Bridge.ownAll_balances part) fun _ _ => .pure (.refl _)

/-- A reference to no object is none. -/
theorem nullObject_balances : Balances change workspace lent [] (pure (.object .null)) Product.references :=
  fun owed calm _ => ownedObject_balances (List.mem_singleton_self _) owed calm
    (List.forall_mem_singleton.mpr nofun)

/-- Marks keep no references. -/
theorem mark_balances (marks : Workspace → List (String × ℕ)) :
    Balances change workspace lent []
      (modify fun workspace => { workspace with marks := marks workspace }) fun _ => [] :=
  fun _ calm _ => ⟨Change.of_steady (.refl _), calm.world, calm.alive, calm.slots, calm.values⟩

/-- An action comes to what it hands out a reference for, and leaves no other. -/
theorem perform_balances (view : View) (action : Action) :
    Tries action.changes workspace lent [] (perform view action) Product.references := by
  refine Balances.of_named ?_
  have lends := workspace.lends
  have made := Recipe.objects_make lends
  have positional (recipes : List Recipe) : ∀ argument ∈
      recipes.map (·.make workspace.slots workspace.values),
      argument.objects ⊆ .null :: workspace.named :=
    List.forall_mem_map.mpr fun recipe _ => made recipe
  have keywords (recipes : List (String × Recipe)) : ∀ keyword ∈
      recipes.map fun entry => (entry.1, entry.2.make workspace.slots workspace.values),
      keyword.2.objects ⊆ .null :: workspace.named :=
    List.forall_mem_map.mpr fun entry _ => made entry.2
  cases action with
  | startWith config =>
    exact Tries.tryInWorld_bind (Bridge.startWith_balances config) fun _ _ => .pure (.refl _)
  | start => exact Tries.tryInWorld_bind Bridge.start_balances fun _ _ => .pure (.refl _)
  | showSession => exact Tries.session_bind fun _ => .get_bind (.pure (.refl _))
  | sameSession =>
    exact Tries.session_bind fun _ =>
      Tries.tryInWorld_bind Bridge.start_balances fun _ _ => .pure (.refl _)
  | builtins =>
    exact Tries.session_bind fun session => .lift (ownedObject_balances (List.mem_cons_self ..))
  | noneObject =>
    exact Tries.session_bind fun session =>
      .lift (ownedObject_balances (List.mem_cons_of_mem _ (List.mem_cons_self ..)))
  | run source =>
    exact Tries.session_bind fun _ =>
      Tries.tryInWorld_bind (Bridge.run_balances source) fun _ _ => .pure (.refl _)
  | eval source =>
    exact Tries.session_bind fun _ =>
      Tries.tryInWorld_bind (Bridge.eval_balances source) fun _ _ => .pure (.refl _)
  | importModule name =>
    exact Tries.session_bind fun _ =>
      Tries.tryInWorld_bind (Bridge.importModule_balances name) fun _ _ => .pure (.refl _)
  | build value =>
    refine Tries.known_bind rfl ?_
    exact Tries.tryInWorld_bind (Bridge.build_balances (made value)) fun _ _ => .pure (.refl _)
  | roundTrip value =>
    refine Tries.known_bind rfl ?_
    exact (roundTrip_balances view (made value)).bind fun _ _ => .pure (.refl _)
  | valueOf slot =>
    refine Tries.get_bind ?_
    exact Tries.tryInWorld_bind (Bridge.valueOf_balances _) fun _ _ => .pure (.refl _)
  | toJson slot =>
    refine Tries.get_bind ?_
    exact Tries.tryInWorld_bind (Bridge.toJson_balances _) fun _ _ => .pure (.refl _)
  | make value => exact Tries.known_bind rfl (.lift (ownedValue_balances (made value)))
  | equal a b => exact Tries.known_bind rfl (Tries.known_bind rfl (.pure (.refl _)))
  | lookUp value key =>
    refine Tries.known_bind rfl (Tries.known_bind rfl ?_)
    split
    · rename_i found same
      have part := Value.objects_get? same
      exact .lift (ownedValue_balances fun _ member => made value (part member))
    · exact .pure (.refl _)
  | forget name => exact Tries.lift_bind ((dropValue_balances name).bind (.pure (.refl [])))
  | nullObject => exact nullObject_balances
  | own slot => exact Tries.get_bind (.lift (ownedObject_balances (workspace.slot_mem slot)))
  | drop slot => exact Tries.lift_bind ((dropObject_balances slot).bind (.pure (.refl [])))
  | mark slot => exact Tries.lift_bind ((mark_balances _).bind (.pure (.refl [])))
  | change slot => exact Tries.get_bind (.pure (.refl _))
  | compare a b => exact Tries.get_bind (Tries.get_bind (.pure (.refl _)))
  | describe slot => exact Tries.get_bind (.pure (.refl _))
  | display slot =>
    refine Tries.get_bind ?_
    exact Tries.always_bind (Bridge.display_balances _) fun _ _ => .pure (.refl _)
  | str slot =>
    refine Tries.get_bind ?_
    exact Tries.tryInWorld_bind (Bridge.str_balances _) fun _ _ => .pure (.refl _)
  | repr slot =>
    refine Tries.get_bind ?_
    exact Tries.tryInWorld_bind (Bridge.repr_balances _) fun _ _ => .pure (.refl _)
  | getAttribute slot name =>
    refine Tries.get_bind (Tries.always_bind (Bridge.getAttribute_balances _ name) fun found _ => ?_)
    cases found with
    | none => exact .pure (.refl _)
    | some found => exact .pure (.refl _)
  | setAttribute slot name value =>
    refine Tries.get_bind (Tries.known_bind rfl ?_)
    exact Tries.tryInWorld_bind (Bridge.setAttribute_balances _ name (made value))
      fun _ _ => .pure (.refl _)
  | call slot arguments named =>
    refine Tries.get_bind (Tries.known_bind (on_madeAll _) (Tries.known_bind (on_madeNamed _) ?_))
    exact Tries.tryInWorld_bind (Bridge.callWith_balances _ (positional arguments) (keywords named))
      fun _ _ => .pure (.refl _)
  | callMethod slot name arguments named =>
    refine Tries.get_bind (Tries.known_bind (on_madeAll _) (Tries.known_bind (on_madeNamed _) ?_))
    exact Tries.tryInWorld_bind
      (Bridge.callMethod_balances _ name (positional arguments) (keywords named))
      fun _ _ => .pure (.refl _)
  | member slot key =>
    refine Tries.get_bind (Tries.always_bind (Bridge.member_balances _ key) fun found _ => ?_)
    cases found with
    | none => exact .pure (.refl _)
    | some found => cases found <;> exact .pure (.refl _)
  | invoke slot intrinsic arguments =>
    refine Tries.get_bind (Tries.known_bind (on_madeAll _) ?_)
    exact Tries.tryInWorld_bind (Bridge.invoke_balances _ intrinsic (positional arguments))
      fun _ _ => .pure (.refl _)
  | openRegistry => exact Tries.always_bind Bridge.openRegistry_balances fun _ _ => .pure (.refl _)
  | closeRegistry => exact Tries.always_bind Bridge.closeRegistry_balances fun _ _ => .pure (.refl _)
  | register slot =>
    refine Tries.get_bind (Tries.always_bind (Bridge.own_balances (workspace.slot_mem slot)) ?_)
    intro _ _
    exact Tries.tryInWorld_bind (Bridge.register_balances (List.mem_cons_self ..))
      fun _ _ => .pure (.refl _)
  | resolve id => exact Tries.tryInWorld_bind (Bridge.resolve_balances id) fun _ _ => .pure (.refl _)
  | unregister id =>
    exact Tries.tryInWorld_bind (Bridge.unregister_balances id) fun _ _ => .pure (.refl _)
  | registered => exact Tries.tryInWorld_bind Bridge.registered_balances fun _ _ => .pure (.refl _)
  | setLastError text =>
    exact Tries.always_bind (CAbi.setLastError_balances text) fun _ _ => .pure (.refl _)
  | clearLastError =>
    exact Tries.always_bind CAbi.clearLastError_balances fun _ _ => .pure (.refl _)
  | lastError => exact Tries.get_bind (.pure (.refl _))

end Workspace

end ForeignBridge
