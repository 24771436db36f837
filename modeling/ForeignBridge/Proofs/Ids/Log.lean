import ForeignBridge.Error
import ForeignBridge.Proofs.Registry
import Mathlib.Data.List.Range

/-! # The history of a registry

A log has the integers that were handed out since a registry was opened, with what they were handed
out for, and those that were taken back. The registry has no other memory: what it answers can be
told from the log.
-/

namespace ForeignBridge

/-- What became of integers since a registry was opened. -/
structure IdLog where
  /-- The integers that were handed out, in order, and their objects. -/
  issued : List (Int × Handle)
  /-- The integers that were taken back. -/
  dropped : List Int
deriving DecidableEq, Repr, Inhabited

namespace IdLog

def empty : IdLog := ⟨[], []⟩

/-- The object that an integer was handed out for, until it is taken back. -/
def object? (log : IdLog) (id : Int) : Option Handle :=
  if id ∈ log.dropped then none else log.issued.lookup id

/-- One more than there were integers handed out. -/
def next (log : IdLog) : Int := log.issued.length + 1

/-- The log once an integer has been handed out. -/
def issue (id : Int) (handle : Handle) (log : IdLog) : IdLog :=
  { log with issued := log.issued ++ [(id, handle)] }

/-- The log once an integer has been taken back. -/
def drop (id : Int) (log : IdLog) : IdLog := { log with dropped := id :: log.dropped }

/-! What a registry should answer, with its log or without one if it is closed. -/

/-- The object of an integer. -/
def resolve (log : Option IdLog) (id : Int) : Except BridgeError Handle :=
  match log with
  | none => .error .notInitialized
  | some log => match log.object? id with
    | some handle => .ok handle
    | none => .error (.invalidHandle id)

/-- The integer that is handed out. -/
def register (log : Option IdLog) : Except BridgeError Int :=
  match log with
  | none => .error .notInitialized
  | some log =>
    if log.next = Registry.lastId then .error (.invalidArgument "id counter overflow")
    else .ok log.next

/-- How many integers were handed out and not taken back. -/
def registered (log : Option IdLog) : Except BridgeError ℕ :=
  match log with
  | none => .error .notInitialized
  | some log => .ok (log.issued.length - log.dropped.length)

/-- That a registry is what has become of an empty one by its log. -/
structure Describes (log : IdLog) (registry : Registry) : Prop where
  /-- The integers are 1, 2, 3, … in order. -/
  ids : log.issued.map (·.1) = (List.range log.issued.length).map fun place : ℕ => (place : Int) + 1
  next : registry.next = log.next
  object : ∀ id, registry.get? id = log.object? id
  dropped : ∀ id ∈ log.dropped, id ∈ log.issued.map (·.1)
  once : log.dropped.Nodup
  size : registry.size + log.dropped.length = log.issued.length

variable {log : IdLog} {registry : Registry} {id : Int} {handle : Handle}

theorem describes_empty : empty.Describes .empty := ⟨rfl, rfl, fun _ => rfl, nofun, .nil, rfl⟩

/-- What has been handed out comes before what is handed out next. -/
theorem Describes.lt_next (described : log.Describes registry)
    (member : id ∈ log.issued.map (·.1)) : id < log.next := by
  rw [described.ids] at member
  obtain ⟨place, below, rfl⟩ := List.mem_map.mp member
  have below := List.mem_range.mp below
  rw [IdLog.next]
  omega

/-- An integer that is handed out is of its object, and the others stay what they were. -/
theorem Describes.issue (described : log.Describes registry) (handle : Handle) :
    (log.issue log.next handle).Describes (registry.insert handle) where
  ids := by
    simp only [IdLog.issue, List.map_append, List.map_cons, List.map_nil, List.length_append,
      List.length_cons, List.length_nil, List.range_succ]
    rw [described.ids, IdLog.next]
  next := by
    rw [Registry.insert, described.next, IdLog.next, IdLog.next, IdLog.issue, List.length_append]
    rfl
  object other := by
    have fresh : log.next ∉ log.dropped := fun member =>
      Int.lt_irrefl _ (described.lt_next (described.dropped _ member))
    have unknown : log.issued.lookup log.next = none := by
      refine List.lookup_eq_none_iff.mpr fun entry member => ?_
      have below := described.lt_next (List.mem_map_of_mem member)
      simp only [bne_iff_ne, ne_eq]
      omega
    rw [Registry.get?_insert, described.next, described.object]
    unfold object? IdLog.issue
    rw [List.lookup_append]
    split
    · rename_i same
      rw [same, if_neg fresh, unknown]
      simp
    · rename_i apart
      split
      · rfl
      · simp [List.lookup_cons, beq_false_of_ne apart]
  dropped other member := by
    rw [IdLog.issue, List.map_append]
    exact List.mem_append_left _ (described.dropped other member)
  once := described.once
  size := by
    have size := described.size
    simp only [Registry.size, Registry.insert, IdLog.issue, List.length_cons, List.length_append,
      List.length_nil] at *
    omega

/-- An integer that is taken back has no object any more, and the others stay what they were. -/
theorem Describes.drop (described : log.Describes registry) (valid : registry.Valid)
    (found : registry.get? id = some handle) : (log.drop id).Describes (registry.erase id) where
  ids := described.ids
  next := described.next
  object other := by
    rw [Registry.get?_erase, described.object]
    unfold object? IdLog.drop
    by_cases same : other = id
    · simp [same]
    · simp [same]
  dropped other member := by
    obtain rfl | member := List.mem_cons.mp member
    · rw [described.object, object?] at found
      split at found
      · cases found
      · exact List.mem_map_of_mem (mem_of_lookup found)
    · exact described.dropped other member
  once := by
    refine List.nodup_cons.mpr ⟨fun member => ?_, described.once⟩
    rw [described.object, object?, if_pos member] at found
    cases found
  size := by
    have size := described.size
    have less := Registry.size_erase valid found
    simp only [IdLog.drop, List.length_cons]
    omega

end IdLog

end ForeignBridge
