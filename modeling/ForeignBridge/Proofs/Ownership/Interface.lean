import ForeignBridge.CAbi
import ForeignBridge.Proofs.Registry
import ForeignBridge.Proofs.Ownership.Start

/-! # The C interface in balance

The registry holds one reference for each integer that has been handed out. To hand one out takes the
caller's reference over, to take one back hands the reference to the caller, and every call of the
interface gives back all other references that it has taken.
-/

namespace ForeignBridge

open World (Change)

namespace Bridge

variable {change : World → World → Prop} [Change change] {lent : List Handle}

/-! The registry. -/

theorem registry_balances : Bridge.Balances change lent [] registry fun _ => [] := by
  refine .get_bind fun world => ?_
  split
  · exact .pure (.refl _) (List.nil_subset _)
  · exact .throw _

theorem registered_balances : Bridge.Balances change lent [] registered fun _ => [] :=
  registry_balances.bind fun _ => .pure (.refl _) (List.nil_subset _)

/-- The object of an integer is there, and is handed out with a reference of its own. -/
theorem resolve_balances (id : Int) :
    Bridge.Balances change lent [] (resolve id) fun handle => [handle] := by
  intro world owed calm alive
  rw [resolve_on]
  cases opened : world.registry with
  | none => exact Balances.throw _ world owed calm alive
  | some table =>
    simp only
    cases found : table.get? id with
    | none => exact Balances.throw _ world owed calm alive
    | some handle =>
      have kept : handle ∈ world.kept := by
        rw [World.kept, opened]
        exact List.mem_append_left _ (Registry.mem_handles found)
      exact own_balances kept world owed calm calm.kept

theorem resolveAll_balances (ids : List Int) :
    Bridge.Balances change lent [] (resolveAll ids) fun handles => handles := by
  induction ids with
  | nil => exact .pure (.refl _) (List.nil_subset _)
  | cons id rest ih =>
    refine (resolve_balances id).bind fun handle => ?_
    refine (Balances.elseRelease (List.subset_append_left [handle] lent)
      (ih.lend (List.subset_append_right _ _))).bind fun handles => ?_
    exact .pure (.refl _) (List.subset_append_left _ _)

/-- The reference to what an integer is handed out for goes over to the registry. -/
theorem register_balances {handle : Handle} (part : handle ∈ lent) :
    Bridge.Balances World.Grows lent [handle] (register handle) fun _ => [] := by
  intro world owed calm alive
  have back : (world.giveBack handle).Calm owed := calm.giveBackAll
  have steady := World.steady_giveBackAll [handle] world
  rw [register_on]
  cases opened : world.registry with
  | none => exact ⟨steady.grows, back, nofun⟩
  | some table =>
    simp only
    split
    · exact ⟨steady.grows, back, nofun⟩
    · have kept := World.kept_of_registry opened
      have there := calm.kept
      rw [kept] at there
      refine ⟨.refl _, ⟨calm.toHolds.keep ?_ ?_ ?_, calm.pending⟩, nofun⟩
      · rintro _ ⟨rfl⟩
        exact (calm.registry table opened).insert handle
      · have first := alive.mono (List.cons_subset.mpr ⟨part, List.nil_subset _⟩)
        exact first.append there
      · rw [kept]
        exact List.perm_middle.symm

/-- The reference of the registry goes over to the caller. -/
theorem unregister_balances (id : Int) :
    Bridge.Balances World.Grows lent [] (unregister id) fun handle => [handle] := by
  intro world owed calm alive
  rw [unregister_on]
  cases opened : world.registry with
  | none => exact Balances.throw _ world owed calm alive
  | some table =>
    simp only
    cases found : table.get? id with
    | none => exact Balances.throw _ world owed calm alive
    | some handle =>
      have valid := calm.registry table opened
      have kept := World.kept_of_registry opened
      have split := (Registry.handles_erase valid found).append_right
        ((world.session.map Session.handles).getD [])
      have there := calm.kept
      rw [kept] at there
      have parts := there.mono split.symm.subset
      refine ⟨.refl _, ⟨calm.toHolds.keep ?_ ?_ ?_, calm.pending⟩, ?_⟩
      · rintro _ ⟨rfl⟩
        exact valid.erase id
      · exact parts.mono (List.subset_cons_self _ _)
      · rw [kept]
        exact (split.append_left owed).trans List.perm_middle
      · exact parts.mono (List.cons_subset_cons _ (List.nil_subset _))

theorem openRegistry_balances :
    Act.Balances World.Grows lent [] openRegistry fun _ => [] := by
  intro world owed calm alive
  have same : World.kept { world with registry := some (world.registry.getD .empty) } =
      world.kept := by
    unfold World.kept
    cases world.registry <;> rfl
  refine ⟨.refl _, ⟨calm.toHolds.keep ?_ ?_ ?_, calm.pending⟩, nofun⟩
  · rintro _ ⟨rfl⟩
    cases opened : world.registry with
    | none => exact Registry.valid_empty
    | some table => exact calm.registry table opened
  · exact same ▸ calm.kept
  · exact .of_eq (congrArg (owed ++ ·) same.symm)

/-- A registry that is closed gives back one reference for each integer that is left in it. -/
theorem closeRegistry_balances :
    Act.Balances World.Grows lent [] closeRegistry fun _ => [] := by
  intro world owed calm alive
  rw [closeRegistry_on]
  cases opened : world.registry with
  | none => exact ⟨.refl _, calm, nofun⟩
  | some table =>
    have kept := World.kept_of_registry opened
    have there := calm.kept
    rw [kept] at there
    have closed : World.Calm { world with registry := none } (table.handles ++ owed) := by
      refine ⟨calm.toHolds.keep nofun (there.mono (List.subset_append_right _ _)) ?_, calm.pending⟩
      rw [kept, ← List.append_assoc]
      exact List.perm_append_comm.append_right _
    have steady := World.steady_giveBackAll table.handles { world with registry := none }
    exact ⟨steady.grows, closed.giveBackAll, nofun⟩

end Bridge

/-! Calls. -/

namespace CAbi

open Bridge (Balances)

variable {change : World → World → Prop} [Change change] {lent : List Handle} {α : Type}
  {due : α → List Handle}

theorem argumentText_balances (bytes : Bytes) :
    Bridge.Balances change lent [] (argumentText bytes) fun _ => [] := .ofExcept _

theorem argumentObjects_balances (ids : Ids) (count : ℕ) :
    Bridge.Balances change lent [] (argumentObjects ids count) fun handles => handles :=
  (Balances.ofExcept _).bind fun ids => Bridge.resolveAll_balances ids

/-- An object is held while it is looked at. -/
theorem withObject_balances {look : Handle → Bridge α} (id : Int)
    (looks : ∀ handle, Bridge.Balances change (handle :: lent) [] (look handle) due) :
    Bridge.Balances change lent [] (withObject id look) due :=
  (Bridge.resolve_balances id).bind fun handle => .thenRelease [handle] (looks handle)

theorem registered_balances {result : Bridge Handle} {given : List Handle}
    (balances : Bridge.Balances World.Grows lent given result fun handle => [handle]) :
    Bridge.Balances World.Grows lent given (registered result) fun _ => [] :=
  balances.bind fun _ => Bridge.register_balances (List.mem_append_left _ (List.mem_singleton_self _))

/-- Objects that are passed on as arguments are there while they are held. -/
theorem objects_subset {handles : List Handle} (part : handles ⊆ lent) :
    ∀ argument ∈ handles.map Value.object, argument.objects ⊆ lent := by
  refine List.forall_mem_map.mpr fun handle member => ?_
  rw [Value.objects]
  exact List.cons_subset.mpr ⟨part member, List.nil_subset _⟩

theorem init_balances : Bridge.Balances World.Grows lent [] init fun _ => [] :=
  Bridge.start_balances.grow.bind fun _ => .lift Bridge.openRegistry_balances

theorem exec_balances (code : Bytes) : Bridge.Balances change lent [] (exec code) fun _ => [] :=
  (argumentText_balances code).bind fun code => Bridge.session_balances.bind fun _ =>
    Bridge.run_balances code

theorem eval_balances (code : Bytes) :
    Bridge.Balances World.Grows lent [] (eval code) fun _ => [] :=
  (argumentText_balances code).bind fun code => Bridge.session_balances.bind fun _ =>
    registered_balances (Bridge.eval_balances code)

theorem importModule_balances (name : Bytes) :
    Bridge.Balances World.Grows lent [] (importModule name) fun _ => [] :=
  (argumentText_balances name).bind fun name => Bridge.session_balances.bind fun _ =>
    registered_balances (Bridge.importModule_balances name)

theorem getAttribute_balances (object : Int) (name : Bytes) :
    Bridge.Balances World.Grows lent [] (getAttribute object name) fun _ => [] := by
  refine (argumentText_balances name).bind fun name => ?_
  refine (withObject_balances object fun handle =>
    .lift (Bridge.getAttribute_balances handle name)).bind fun found => ?_
  cases found with
  | some handle => exact Bridge.register_balances (List.mem_append_left _ (List.mem_singleton_self _))
  | none => exact .pure (.refl _) (List.nil_subset _)

theorem setAttribute_balances (object : Int) (name : Bytes) (value : Int) :
    Bridge.Balances change lent [] (setAttribute object name value) fun _ => [] := by
  refine (argumentText_balances name).bind fun name => withObject_balances value fun value => ?_
  refine withObject_balances object fun handle => Bridge.setAttribute_balances handle name ?_
  simp [Value.objects]

theorem call_balances (callable : Int) (arguments : Ids) (count : ℕ) :
    Bridge.Balances World.Grows lent [] (call callable arguments count) fun _ => [] := by
  refine (argumentObjects_balances arguments count).bind fun arguments => ?_
  refine registered_balances <| .thenRelease arguments <| withObject_balances callable fun handle => ?_
  exact Bridge.callWith_balances handle (objects_subset (by simp)) (List.forall_mem_nil _)

theorem invoke_balances (object : Int) (method : Bytes) (arguments : Ids) (count : ℕ) :
    Bridge.Balances World.Grows lent [] (invoke object method arguments count) fun _ => [] := by
  refine (argumentText_balances method).bind fun method => ?_
  refine (argumentObjects_balances arguments count).bind fun arguments => ?_
  refine registered_balances <| .thenRelease arguments <| withObject_balances object fun handle => ?_
  exact Bridge.callMethod_balances handle method (objects_subset (by simp)) (List.forall_mem_nil _)

theorem fromJson_balances (text : Bytes) :
    Bridge.Balances World.Grows lent [] (fromJson text) fun _ => [] := by
  refine (argumentText_balances text).bind fun text => ?_
  split
  · exact .throw _
  · refine Bridge.session_balances.bind fun _ => registered_balances (Bridge.build_balances ?_)
    rw [Value.objects_ofJson]
    exact List.nil_subset _

/-! Answers. -/

theorem setLastError_balances (text : String) :
    Act.Balances World.Grows lent [] (setLastError text) fun _ => [] :=
  fun _ _ calm _ => ⟨.refl _, ⟨⟨calm.sound, calm.registry, calm.kept, calm.held, calm.overdrawn⟩,
    calm.pending⟩, nofun⟩

theorem clearLastError_balances :
    Act.Balances World.Grows lent [] clearLastError fun _ => [] :=
  fun _ _ calm _ => ⟨.refl _, ⟨⟨calm.sound, calm.registry, calm.kept, calm.held, calm.overdrawn⟩,
    calm.pending⟩, nofun⟩

/-- However a call is answered, the error that it keeps is all that it leaves behind. -/
theorem answer_balances {result : Bridge α} (success : α → Answer) (failure : Answer)
    (balances : Bridge.Balances World.Grows lent [] result fun _ => []) :
    Act.Balances World.Grows lent [] (answer success failure result) fun _ => [] := by
  refine clearLastError_balances.bind fun _ => ?_
  refine Bridge.outcome_bind balances (fun value => .pure (.refl _) (List.nil_subset _)) fun error => ?_
  exact (setLastError_balances _).bind fun _ => .pure (.refl _) (List.nil_subset _)

/-- Every call balances, whatever it comes to. -/
theorem perform_balances (call : Call) :
    Act.Balances World.Grows lent [] (perform call) fun _ => [] := by
  cases call with
  | init => exact answer_balances _ _ init_balances
  | finalize => exact answer_balances _ _ (.lift Bridge.closeRegistry_balances)
  | exec code => exact answer_balances _ _ (exec_balances code)
  | eval code => exact answer_balances _ _ (eval_balances code)
  | importModule name => exact answer_balances _ _ (importModule_balances name)
  | getAttribute object name => exact answer_balances _ _ (getAttribute_balances object name)
  | setAttribute object name value =>
    exact answer_balances _ _ (setAttribute_balances object name value)
  | call callable arguments count =>
    exact answer_balances _ _ (call_balances callable arguments count)
  | invoke object method arguments count =>
    exact answer_balances _ _ (invoke_balances object method arguments count)
  | toStr object => exact answer_balances _ _ <| withObject_balances object fun handle =>
      Bridge.str_balances handle
  | toRepr object => exact answer_balances _ _ <| withObject_balances object fun handle =>
      Bridge.repr_balances handle
  | toJson object => exact answer_balances _ _ <| withObject_balances object fun handle =>
      Bridge.toJson_balances handle
  | fromJson text => exact answer_balances _ _ (fromJson_balances text)
  | isAbsent object =>
    exact answer_balances _ _ <| withObject_balances object fun handle =>
      .get_bind fun _ => .pure (.refl _) (List.nil_subset _)
  | drop id =>
    exact answer_balances _ _ <| (Bridge.unregister_balances id).bind fun handle =>
      .lift (Bridge.release_balances handle)
  | handleCount => exact answer_balances _ _ Bridge.registered_balances
  | lastError => exact .get_bind fun _ => .pure (.refl _) (List.nil_subset _)
  | clearLastError =>
    exact clearLastError_balances.bind fun _ => .pure (.refl _) (List.nil_subset _)

end CAbi

end ForeignBridge
