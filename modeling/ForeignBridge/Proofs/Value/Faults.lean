import ForeignBridge.Bridge.Build
import ForeignBridge.Proofs.Value.Objects
import ForeignBridge.Proofs.Value.Normal

/-! # Faults of values

What stands in the way of an object for a value: functions of the host, and containers as keys of a map.
They are listed in the order in which they are met, depth first and from left to right. Whether a key has
a hash is asked only once there are objects for the key and for the value under it, so what is wrong
within either of them comes first.
-/

namespace ForeignBridge

namespace Value

/-- A value and what stands anywhere in it, keys of maps included. -/
inductive Within : Value → Value → Prop
  | self {value} : Within value value
  | item {part item items} (member : item ∈ items) (inner : Within part item) :
      Within part (list items)
  | key {part pair pairs} (member : pair ∈ pairs) (inner : Within part (Prod.fst pair)) :
      Within part (map pairs)
  | value {part pair pairs} (member : pair ∈ pairs) (inner : Within part (Prod.snd pair)) :
      Within part (map pairs)
  | field {part field fields} (member : field ∈ fields) (inner : Within part (Prod.snd field)) :
      Within part (record fields)

/-- A value in which no object is a key of a map. -/
def PlainKeys (value : Value) : Prop :=
  ∀ pairs, Within (map pairs) value → ∀ pair ∈ pairs, ∀ handle, pair.1 ≠ object handle

/-- The failure for a key of a class whose instances have no hash. -/
def unhashable (type : String) : BridgeError := .foreign ("unhashable type: '" ++ type ++ "'") none

/-- The class of the containers of the interpreter that a value becomes, if it becomes one. -/
def containerType? : Value → Option String
  | list _ => some "list"
  | map _ | record _ => some "dict"
  | _ => none

/-- What is wrong with a value as a key, whatever is wrong within it. -/
def keyFaults (key : Value) : List BridgeError := key.containerType?.toList.map unhashable

mutual

/-- What stands in the way of an object for a value, in the order in which it is met. -/
def faults : Value → List BridgeError
  | list items => itemFaults items
  | map pairs => pairFaults pairs
  | record fields => fieldFaults fields
  | function _ => [Bridge.noFunctions]
  | null | bool _ | int _ | float _ | text _ | object _ => []

/-- The faults of some items. -/
def itemFaults : List Value → List BridgeError
  | [] => []
  | item :: rest => item.faults ++ itemFaults rest

/-- The faults of some pairs: of each first those within its key, then those within its value, and only
then that of the key itself. -/
def pairFaults : List (Value × Value) → List BridgeError
  | [] => []
  | (key, value) :: rest => key.faults ++ value.faults ++ key.keyFaults ++ pairFaults rest

/-- The faults of some fields. -/
def fieldFaults : List (String × Value) → List BridgeError
  | [] => []
  | (_, value) :: rest => value.faults ++ fieldFaults rest

end

theorem itemFaults_eq (items : List Value) : itemFaults items = items.flatMap faults := by
  induction items with
  | nil => rfl
  | cons item rest ih => rw [itemFaults, ih, List.flatMap_cons]

theorem pairFaults_eq (pairs : List (Value × Value)) : pairFaults pairs =
    pairs.flatMap fun pair => pair.1.faults ++ pair.2.faults ++ pair.1.keyFaults := by
  induction pairs with
  | nil => rfl
  | cons pair rest ih => rw [pairFaults, ih, List.flatMap_cons]

theorem fieldFaults_eq (fields : List (String × Value)) :
    fieldFaults fields = fields.flatMap fun field => field.2.faults := by
  induction fields with
  | nil => rfl
  | cons field rest ih => rw [fieldFaults, ih, List.flatMap_cons]

namespace PlainKeys

theorem list_iff {items : List Value} : (list items).PlainKeys ↔ ∀ item ∈ items, item.PlainKeys := by
  constructor
  · exact fun plain item member pairs inner => plain pairs (.item member inner)
  · intro each pairs inner
    cases inner with
    | item member inner => exact each _ member pairs inner

theorem map_iff {pairs : List (Value × Value)} : (map pairs).PlainKeys ↔ ∀ pair ∈ pairs,
    (∀ handle, pair.1 ≠ object handle) ∧ pair.1.PlainKeys ∧ pair.2.PlainKeys := by
  constructor
  · exact fun plain pair member => ⟨plain pairs .self pair member,
      fun others inner => plain others (.key member inner),
      fun others inner => plain others (.value member inner)⟩
  · intro each others inner
    cases inner with
    | self => exact fun pair member => (each pair member).1
    | key member inner => exact (each _ member).2.1 others inner
    | value member inner => exact (each _ member).2.2 others inner

theorem record_iff {fields : List (String × Value)} :
    (record fields).PlainKeys ↔ ∀ field ∈ fields, field.2.PlainKeys := by
  constructor
  · exact fun plain field member pairs inner => plain pairs (.field member inner)
  · intro each pairs inner
    cases inner with
    | field member inner => exact each _ member pairs inner

end PlainKeys

theorem mem_keyFaults_iff {key : Value} {error : BridgeError} :
    error ∈ key.keyFaults ↔ ∃ type, key.containerType? = some type ∧ error = unhashable type := by
  unfold keyFaults
  cases key.containerType? with
  | none => simp
  | some type => simp

/-- A record's fields are at fault as pairs whose keys are their names. -/
theorem fieldFaults_eq_pairFaults (fields : List (String × Value)) :
    fieldFaults fields = pairFaults (fields.map fun field => (text field.1, field.2)) := by
  rw [fieldFaults_eq, pairFaults_eq, List.flatMap_map]
  simp [faults, keyFaults, containerType?]

/-- In a key without parts nothing is wrong. -/
theorem faults_of_isKey {key : Value} (isKey : key.isKey = true) : key.faults = [] := by
  cases key <;> first | rfl | cases isKey

theorem containerType?_of_isKey {key : Value} (isKey : key.isKey = true) :
    key.containerType? = none := by
  cases key <;> first | rfl | cases isKey

/-- A key in which nothing is wrong has no parts, or it is at fault itself. -/
theorem isKey_or_unhashable {key : Value} (clean : key.faults = [])
    (plain : ∀ handle, key ≠ object handle) : key.isKey = true ∧ key.keyFaults = [] ∨
      ∃ type, key.containerType? = some type ∧ key.keyFaults = [unhashable type] := by
  cases key with
  | object handle => exact (plain handle rfl).elim
  | function identity => cases clean
  | list items => exact .inr ⟨_, rfl, rfl⟩
  | map pairs => exact .inr ⟨_, rfl, rfl⟩
  | record fields => exact .inr ⟨_, rfl, rfl⟩
  | null | bool _ | int _ | float _ | text _ => exact .inl ⟨rfl, rfl⟩

/-- That an error stands for something within a value: a function, or a key that has no hash. -/
def Tells (error : BridgeError) (value : Value) : Prop :=
  (error = Bridge.noFunctions ∧ ∃ identity, Within (function identity) value) ∨
    ∃ pairs, Within (map pairs) value ∧ ∃ pair ∈ pairs, ∃ type,
      pair.1.containerType? = some type ∧ error = unhashable type

namespace Tells

variable {error : BridgeError}

/-- What is told of within a part is told of within the whole. -/
theorem lift {part value : Value} (tells : Tells error part)
    (outward : ∀ {inner}, Within inner part → Within inner value) : Tells error value := by
  obtain ⟨same, identity, inner⟩ | ⟨pairs, inner, pair, member, type, container, same⟩ := tells
  · exact .inl ⟨same, identity, outward inner⟩
  · exact .inr ⟨pairs, outward inner, pair, member, type, container, same⟩

theorem function_iff {identity : ℕ} :
    Tells error (function identity) ↔ error = Bridge.noFunctions := by
  constructor
  · rintro (⟨same, _⟩ | ⟨pairs, inner, _⟩)
    · exact same
    · cases inner
  · exact fun same => .inl ⟨same, identity, .self⟩

theorem list_iff {items : List Value} :
    Tells error (list items) ↔ ∃ item ∈ items, Tells error item := by
  constructor
  · rintro (⟨same, identity, inner⟩ | ⟨pairs, inner, found⟩)
    · cases inner with
      | item member inner => exact ⟨_, member, .inl ⟨same, identity, inner⟩⟩
    · cases inner with
      | item member inner => exact ⟨_, member, .inr ⟨pairs, inner, found⟩⟩
  · exact fun ⟨item, member, tells⟩ => tells.lift (.item member)

/-- In a map it is within a key or what is under it, or the key itself has no hash. -/
theorem map_iff {pairs : List (Value × Value)} : Tells error (map pairs) ↔
    ∃ pair ∈ pairs, (Tells error pair.1 ∨ Tells error pair.2) ∨ error ∈ pair.1.keyFaults := by
  constructor
  · rintro (⟨same, identity, inner⟩ | ⟨others, inner, pair, inOthers, found⟩)
    · cases inner with
      | key member inner => exact ⟨_, member, .inl (.inl (.inl ⟨same, identity, inner⟩))⟩
      | value member inner => exact ⟨_, member, .inl (.inr (.inl ⟨same, identity, inner⟩))⟩
    · cases inner with
      | self => exact ⟨pair, inOthers, .inr (mem_keyFaults_iff.mpr found)⟩
      | key member inner =>
        exact ⟨_, member, .inl (.inl (.inr ⟨others, inner, pair, inOthers, found⟩))⟩
      | value member inner =>
        exact ⟨_, member, .inl (.inr (.inr ⟨others, inner, pair, inOthers, found⟩))⟩
  · rintro ⟨pair, member, (tells | tells) | fault⟩
    · exact tells.lift (.key member)
    · exact tells.lift (.value member)
    · exact .inr ⟨pairs, .self, pair, member, mem_keyFaults_iff.mp fault⟩

theorem record_iff {fields : List (String × Value)} :
    Tells error (record fields) ↔ ∃ field ∈ fields, Tells error field.2 := by
  constructor
  · rintro (⟨same, identity, inner⟩ | ⟨pairs, inner, found⟩)
    · cases inner with
      | field member inner => exact ⟨_, member, .inl ⟨same, identity, inner⟩⟩
    · cases inner with
      | field member inner => exact ⟨_, member, .inr ⟨pairs, inner, found⟩⟩
  · exact fun ⟨field, member, tells⟩ => tells.lift (.field member)

end Tells

theorem not_tells_of_bare {error : BridgeError} {value : Value}
    (bare : ∀ {part}, Within part value → part = value)
    (noFunction : ∀ identity, value ≠ function identity) (noMap : ∀ pairs, value ≠ map pairs) :
    ¬ Tells error value := by
  rintro (⟨_, identity, inner⟩ | ⟨pairs, inner, _⟩)
  · exact noFunction identity (bare inner).symm
  · exact noMap pairs (bare inner).symm

/-- What is in the way of an object for a value is what is told of within it. -/
theorem mem_faults_iff {value : Value} {error : BridgeError} :
    error ∈ value.faults ↔ Tells error value := by
  induction value using Value.induction with
  | null | bool _ | int _ | float _ | text _ | object _ =>
    refine iff_of_false List.not_mem_nil (not_tells_of_bare ?_ nofun nofun)
    intro part inner
    cases inner
    rfl
  | function identity => rw [faults, List.mem_singleton, Tells.function_iff]
  | list items each =>
    rw [faults, itemFaults_eq, List.mem_flatMap, Tells.list_iff]
    exact exists_congr fun item => and_congr_right fun member => each item member
  | map pairs each =>
    rw [faults, pairFaults_eq, List.mem_flatMap, Tells.map_iff]
    refine exists_congr fun pair => and_congr_right fun member => ?_
    rw [List.mem_append, List.mem_append, (each pair member).1, (each pair member).2]
  | record fields each =>
    rw [faults, fieldFaults_eq, List.mem_flatMap, Tells.record_iff]
    exact exists_congr fun field => and_congr_right fun member => each field member

/-- Something stands in the way of an object for a value just if there is a function anywhere in it, or a
map anywhere in it has a container for a key. -/
theorem faults_ne_nil_iff {value : Value} : value.faults ≠ [] ↔
    (∃ identity, Within (function identity) value) ∨
      ∃ pairs, Within (map pairs) value ∧ ∃ pair ∈ pairs, pair.1.containerType?.isSome = true := by
  rw [Ne, List.eq_nil_iff_forall_not_mem, not_forall_not]
  constructor
  · rintro ⟨error, fault⟩
    obtain ⟨_, found⟩ | ⟨pairs, inner, pair, member, type, container, _⟩ := mem_faults_iff.mp fault
    · exact .inl found
    · exact .inr ⟨pairs, inner, pair, member, by rw [container]; rfl⟩
  · rintro (found | ⟨pairs, inner, pair, member, container⟩)
    · exact ⟨_, mem_faults_iff.mpr (.inl ⟨rfl, found⟩)⟩
    · obtain ⟨type, same⟩ := Option.isSome_iff_exists.mp container
      exact ⟨_, mem_faults_iff.mpr (.inr ⟨pairs, inner, pair, member, type, same, rfl⟩)⟩

end Value

end ForeignBridge
