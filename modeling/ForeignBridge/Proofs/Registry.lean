import ForeignBridge.Bridge.Ids
import ForeignBridge.Proofs.Bridge.Act
import ForeignBridge.Proofs.Fields

/-! # What a registry has handed out

Every integer in a registry has been handed out and is there once. So an integer that is taken back
takes one object along, and one that is handed out is new.
-/

namespace ForeignBridge.Registry

/-- The integers in a registry. -/
def ids (registry : Registry) : List Int := registry.entries.map (·.1)

/-- A registry whose integers have been handed out, each for one object. -/
structure Valid (registry : Registry) : Prop where
  positive : 1 ≤ registry.next
  issued : ∀ id ∈ registry.ids, 1 ≤ id ∧ id < registry.next
  unique : registry.ids.Nodup

theorem valid_empty : empty.Valid := ⟨Int.le_refl 1, nofun, .nil⟩

variable {registry : Registry} {id other : Int} {handle : Handle}

theorem Valid.insert (valid : registry.Valid) (handle : Handle) :
    (registry.insert handle).Valid where
  positive := Int.le_trans valid.positive (Int.le_of_lt (Int.lt_succ _))
  issued id member := by
    obtain rfl | member := List.mem_cons.mp member
    · exact ⟨valid.positive, Int.lt_succ _⟩
    · obtain ⟨positive, below⟩ := valid.issued id member
      exact ⟨positive, Int.lt_trans below (Int.lt_succ _)⟩
  unique := List.nodup_cons.mpr
    ⟨fun member => Int.lt_irrefl _ (valid.issued _ member).2, valid.unique⟩

theorem Valid.erase (valid : registry.Valid) (id : Int) : (registry.erase id).Valid := by
  have part : (registry.erase id).ids.Sublist registry.ids := List.filter_sublist.map _
  exact ⟨valid.positive, fun other member => valid.issued other (part.subset member),
    valid.unique.sublist part⟩

/-- An integer that is handed out is of the object that it is handed out for. -/
theorem get?_insert (registry : Registry) (handle : Handle) (id : Int) :
    (registry.insert handle).get? id =
      if id = registry.next then some handle else registry.get? id := by
  rw [get?, insert, List.lookup_cons]
  split <;> simp_all [get?]

/-- Only the integer that is taken back goes. -/
theorem get?_erase (registry : Registry) (id other : Int) :
    (registry.erase id).get? other = if other = id then none else registry.get? other := by
  unfold get? erase
  induction registry.entries with
  | nil => split <;> rfl
  | cons entry rest ih =>
    rw [List.filter_cons, List.lookup_cons]
    by_cases same : entry.1 = id
    · rw [if_neg (by simpa using same), ih]
      split
      · rfl
      · rename_i apart
        rw [beq_false_of_ne (by rwa [same])]
    · rw [if_pos (by simpa using same), List.lookup_cons]
      cases wanted : other == entry.1 with
      | true => rw [if_neg (by rwa [beq_iff_eq.mp wanted])]
      | false => exact ih

/-- Nothing goes if the integer is not there. -/
theorem erase_of_get?_eq_none (absent : registry.get? id = none) : registry.erase id = registry := by
  have others : ∀ entry ∈ registry.entries, (entry.1 != id) = true := by
    intro entry member
    rw [bne_comm]
    exact List.lookup_eq_none_iff.mp absent entry member
  rw [erase, List.filter_eq_self.mpr others]

/-- An integer that is taken back takes its object along, once. -/
theorem handles_erase (valid : registry.Valid) (found : registry.get? id = some handle) :
    registry.handles.Perm (handle :: (registry.erase id).handles) := by
  obtain ⟨before, after, same, erased⟩ := split_of_lookup valid.unique found
  rw [handles, handles, erase, erased, same, List.map_append, List.map_append, List.map_cons]
  exact List.perm_middle

theorem size_erase (valid : registry.Valid) (found : registry.get? id = some handle) :
    registry.size = (registry.erase id).size + 1 := by
  obtain ⟨before, after, same, erased⟩ := split_of_lookup valid.unique found
  rw [size, size, erase, erased, same, List.length_append, List.length_append, List.length_cons]
  omega

/-- An integer that is taken back is one less. -/
theorem ids_erase (valid : registry.Valid) (found : registry.get? id = some handle) :
    registry.ids.Perm (id :: (registry.erase id).ids) := by
  obtain ⟨before, after, same, erased⟩ := split_of_lookup valid.unique found
  rw [ids, ids, erase, erased, same, List.map_append, List.map_append, List.map_cons]
  exact List.perm_middle

/-- An integer that is there has an object. -/
theorem exists_get? (member : id ∈ registry.ids) : ∃ handle, registry.get? id = some handle := by
  obtain ⟨entry, inside, rfl⟩ := List.mem_map.mp member
  cases found : registry.get? entry.1 with
  | some handle => exact ⟨handle, rfl⟩
  | none => simpa using List.lookup_eq_none_iff.mp found entry inside

theorem mem_handles (found : registry.get? id = some handle) : handle ∈ registry.handles :=
  List.mem_map.mpr ⟨_, mem_of_lookup found, rfl⟩

end ForeignBridge.Registry

/-! The registry of a world: what each operation on it comes to. Without a registry, and for an integer
that is not in it, nothing changes; only the reference that was to be handed over is given back. -/

namespace ForeignBridge.Bridge

variable {world : World}

theorem registry_on (world : World) : Bridge.on registry world = match world.registry with
    | some registry => (.ok registry, world)
    | none => (.error .notInitialized, world) := by
  rw [registry, on_bind _ (on_get world)]
  cases world.registry <;> rfl

theorem register_on (handle : Handle) (world : World) :
    Bridge.on (register handle) world = match world.registry with
      | some registry =>
        if registry.isFull then
          (.error (.invalidArgument "id counter overflow"), world.giveBack handle)
        else (.ok registry.next, { world with registry := some (registry.insert handle) })
      | none => (.error .notInitialized, world.giveBack handle) := by
  rw [register, elseRelease_on, on_bind_eq, registry_on]
  cases world.registry with
  | none => rfl
  | some registry =>
    simp only
    cases registry.isFull <;> rfl

theorem resolve_on (id : Int) (world : World) :
    Bridge.on (resolve id) world = match world.registry with
      | some registry => match registry.get? id with
        | some handle => (.ok handle, (Act.on (own handle) world).2)
        | none => (.error (.invalidHandle id), world)
      | none => (.error .notInitialized, world) := by
  rw [resolve, on_bind_eq, registry_on]
  cases world.registry with
  | none => rfl
  | some registry =>
    simp only
    cases registry.get? id <;> rfl

theorem unregister_on (id : Int) (world : World) :
    Bridge.on (unregister id) world = match world.registry with
      | some registry => match registry.get? id with
        | some handle => (.ok handle, { world with registry := some (registry.erase id) })
        | none => (.error (.invalidHandle id), world)
      | none => (.error .notInitialized, world) := by
  rw [unregister, on_bind_eq, registry_on]
  cases world.registry with
  | none => rfl
  | some registry =>
    simp only
    cases registry.get? id <;> rfl

theorem registered_on (world : World) :
    Bridge.on registered world = match world.registry with
      | some registry => (.ok registry.size, world)
      | none => (.error .notInitialized, world) := by
  rw [registered, on_bind_eq, registry_on]
  cases world.registry <;> rfl

theorem closeRegistry_on (world : World) :
    Act.on closeRegistry world = ((), match world.registry with
      | some registry => registry.handles.foldl World.giveBack { world with registry := none }
      | none => world) := by
  rw [closeRegistry, Act.on_get_bind]
  cases world.registry with
  | none => rfl
  | some registry => exact releaseAll_on registry.handles { world with registry := none }

/-! What becomes of the registry and the last error. References that are given back do not matter to
them. -/

theorem register_registry (handle : Handle) (world : World) :
    (Bridge.on (register handle) world).2.registry = world.registry.map fun table =>
      if table.isFull then table else table.insert handle := by
  obtain ⟨held, overdrawn, back⟩ := World.foldl_giveBack [handle] world
  have back : world.giveBack handle = { world with held, overdrawn } := back
  rw [register_on, back]
  cases world.registry with
  | none => rfl
  | some table =>
    simp only [Option.map_some]
    split <;> rfl

theorem register_lastError (handle : Handle) (world : World) :
    (Bridge.on (register handle) world).2.lastError = world.lastError := by
  obtain ⟨held, overdrawn, back⟩ := World.foldl_giveBack [handle] world
  have back : world.giveBack handle = { world with held, overdrawn } := back
  rw [register_on, back]
  cases world.registry with
  | none => rfl
  | some table => dsimp only; split <;> rfl

theorem unregister_registry (id : Int) (world : World) :
    (Bridge.on (unregister id) world).2.registry = world.registry.map (Registry.erase id) := by
  rw [unregister_on]
  cases opened : world.registry with
  | none => exact opened
  | some table =>
    simp only [Option.map_some]
    cases found : table.get? id with
    | none => rw [Registry.erase_of_get?_eq_none found, opened]
    | some handle => rfl

theorem closeRegistry_registry (world : World) :
    (Act.on closeRegistry world).2.registry = none := by
  rw [closeRegistry_on]
  cases opened : world.registry with
  | none => exact opened
  | some table =>
    obtain ⟨held, overdrawn, back⟩ := World.foldl_giveBack table.handles { world with registry := none }
    simp only [back]

theorem closeRegistry_lastError (world : World) :
    (Act.on closeRegistry world).2.lastError = world.lastError := by
  rw [closeRegistry_on]
  cases world.registry with
  | none => rfl
  | some table =>
    obtain ⟨held, overdrawn, back⟩ := World.foldl_giveBack table.handles { world with registry := none }
    simp only [back]

end ForeignBridge.Bridge
