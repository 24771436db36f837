import ForeignBridge.Bridge.Start
import ForeignBridge.Proofs.Ownership.Objects

/-! # Starting in balance

A start that fails gives every reference back that it has taken; one that succeeds leaves the session
with one reference to each of its objects.
-/

namespace ForeignBridge

open World (Change)

namespace Bridge

variable {change : World → World → Prop} [Change change] {lent given : List Handle} {α β : Type}
  {due : α → List Handle}

theorem importModule_balances (name : String) :
    Bridge.Balances change lent [] (importModule name) fun module => [module] :=
  (requireNoNul_balances name).bind fun _ => attemptOwned_orThrow _ _

theorem requireAttribute_balances (module : Handle) (moduleName name : String) :
    Bridge.Balances change lent [] (requireAttribute module moduleName name)
      fun value => [value] := by
  refine (Balances.lift (getAttribute_balances module name)).bind fun found => ?_
  cases found with
  | some value => exact .pure (.refl _) (List.subset_append_left _ _)
  | none => exact .throw _

theorem insertEntries_balances (path : Handle) (entries : List String) :
    Bridge.Balances change lent [] (insertEntries path entries) fun _ => [] := by
  induction entries with
  | nil => exact .pure (.refl _) (List.nil_subset _)
  | cons entry rest ih =>
    refine ih.bind fun _ => (callMethod_balances path "insert" ?_ (List.forall_mem_nil _)).bind fun answer => ?_
    · simp [Value.objects]
    · exact .lift (release_balances answer)

theorem extendSearchPath_balances (entries : List String) :
    Bridge.Balances change lent [] (extendSearchPath entries) fun _ => [] := by
  unfold extendSearchPath
  split
  · exact .pure (.refl _) (List.nil_subset _)
  · refine (importModule_balances "sys").bind fun module => .thenRelease [module] ?_
    refine (requireAttribute_balances module "sys" "path").bind fun path => .thenRelease [path] ?_
    exact insertEntries_balances path entries

/-! Nested acts, each of which gives back what it has taken, are one after the other. -/

private theorem ext {first second : Bridge α}
    (same : ∀ world, Bridge.on first world = Bridge.on second world) : first = second := funext same

theorem elseRelease_bind (handles : List Handle) (first : Bridge α) (next : α → Bridge β) :
    elseRelease handles (first >>= next) =
      elseRelease handles first >>= fun value => elseRelease handles (next value) := by
  refine ext fun world => ?_
  rw [elseRelease_on, on_bind_eq, on_bind_eq, elseRelease_on]
  obtain ⟨result, after⟩ := first.on world
  cases result with
  | ok value => exact (elseRelease_on handles (next value) after).symm
  | error error => rfl

theorem elseRelease_elseRelease (outer inner : List Handle) (act : Bridge α) :
    elseRelease outer (elseRelease inner act) = elseRelease (inner ++ outer) act := by
  refine ext fun world => ?_
  rw [elseRelease_on, elseRelease_on, elseRelease_on]
  obtain ⟨result, after⟩ := act.on world
  cases result with
  | ok value => rfl
  | error error => simp only [List.foldl_append]

/-- A built-in name is looked up while others are held, and held with them from then on. -/
theorem withBuiltin_balances {held : List Handle} {builtins : Handle} {name : String}
    {next : Handle → Bridge α} (part : held ⊆ lent)
    (tail : ∀ value, Bridge.Balances change (value :: lent) (value :: held)
      (elseRelease (value :: held) (next value)) due) :
    Bridge.Balances change lent held (elseRelease held (withBuiltin builtins name next)) due := by
  rw [withBuiltin, elseRelease_bind]
  refine (Balances.elseRelease part (requireAttribute_balances builtins "builtins" name)).bind
    fun value => ?_
  rw [elseRelease_elseRelease]
  refine Balances.perm (List.perm_append_singleton value held).symm ((tail value).lend ?_)
  exact List.cons_subset.mpr ⟨by simp, List.subset_append_right _ _⟩

/-- A start hands out one reference to each object of the session. -/
theorem bootstrap_balances (config : Config) :
    Bridge.Balances change lent [] (bootstrap config) Session.handles := by
  refine (importModule_balances "builtins").bind fun builtins => ?_
  refine withBuiltin_balances (List.subset_append_left _ _) fun none => ?_
  refine withBuiltin_balances (by simp) fun boolClass => ?_
  refine withBuiltin_balances (by simp) fun intClass => ?_
  refine withBuiltin_balances (by simp) fun floatClass => ?_
  refine withBuiltin_balances (by simp) fun strClass => ?_
  refine withBuiltin_balances (by simp) fun listClass => ?_
  refine withBuiltin_balances (by simp) fun dictClass => ?_
  rw [elseRelease_bind]
  refine (Balances.elseRelease (by simp) (extendSearchPath_balances _)).bind fun _ => ?_
  exact .pure (List.reverse_perm (Session.handles ⟨_, _, _, _, _, _, _, _⟩)) (List.subset_append_left _ _)

/-- A start hands the references over to the session. -/
theorem startWith_balances (config : Config) :
    Bridge.Balances World.Starting lent [] (startWith config) fun _ => [] := by
  intro world owed calm alive
  rw [startWith, on_bind _ (on_get world)]
  cases running : world.session with
  | some session => exact Balances.pure (.refl _) (List.nil_subset _) world owed calm alive
  | none =>
    obtain ⟨steady, between, there⟩ := @bootstrap_balances World.Steady _ lent config world owed calm
      alive
    simp only
    rw [on_bind_eq]
    generalize Bridge.on (bootstrap config) world = outcome at *
    obtain ⟨result, after⟩ := outcome
    cases result with
    | error error => exact ⟨steady.starting, between, there⟩
    | ok session =>
      have unkept : after.session = .none := steady.session.trans running
      have before : after.kept = (after.registry.map Registry.handles).getD [] := by
        rw [World.kept, unkept]
        exact List.append_nil _
      have holds : World.Holds { after with session := some session } owed := by
        refine between.toHolds.keep between.registry ?_ ?_
        · exact (before ▸ between.kept).append there
        · rw [before]
          change (session.handles ++ owed ++ _).Perm (owed ++ (_ ++ session.handles))
          rw [List.append_assoc]
          refine List.perm_append_comm.trans ?_
          rw [List.append_assoc]
      exact ⟨⟨steady.grows, steady.registry, steady.lastError⟩, ⟨holds, between.pending⟩,
        List.forall_mem_nil _⟩

theorem start_balances : Bridge.Balances World.Starting lent [] start fun _ => [] :=
  .get_bind fun _ => startWith_balances _

theorem eval_balances (source : String) :
    Bridge.Balances change lent [] (eval source) fun result => [result] :=
  (requireNoNul_balances source).bind fun _ => .lift_bind <| attemptOwned_bind
    (fun _ => settledObject_balances (List.cons_subset_cons _ (List.nil_subset _))) settled_calms

/-- To report what is pending calms the world. -/
theorem reportPending_calms : Act.Calms change [] reportPending fun _ => [] := by
  intro world owed holds
  rw [reportPending, Act.on_get_bind]
  cases pending : world.pending with
  | none =>
    simp only
    exact ⟨Change.of_steady (.refl world), ⟨holds, pending⟩, nofun⟩
  | some thrown =>
    simp only
    exact (onMachine_stirs _).bind (fun _ => clear_calms) world owed holds

theorem run_balances (source : String) :
    Bridge.Balances change lent [] (run source) fun _ => [] := by
  refine (requireNoNul_balances source).bind fun _ => .lift_bind ?_
  refine (attempt_tries _).bind (fun done => ?_) ?_
  · exact Balances.pure (.refl _) (List.nil_subset _)
  · exact reportPending_calms

end Bridge

end ForeignBridge
