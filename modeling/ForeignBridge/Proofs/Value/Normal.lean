import ForeignBridge.Proofs.Number.Hash
import ForeignBridge.Value.Basic

/-! # Normal forms

The normal form of a value is what is read back once an object has been built for it. Records come
back as maps. A map comes back as a dictionary that its pairs have been put into one by one: a key
that is there stays where it is, and gets the later value.
-/

namespace ForeignBridge.Value

/-- Induction on a value, in which each part of a container comes before it. -/
@[elab_as_elim]
theorem induction {motive : Value → Prop} (null : motive null) (bool : ∀ b, motive (bool b))
    (int : ∀ n, motive (int n)) (float : ∀ x, motive (float x)) (text : ∀ s, motive (text s))
    (list : ∀ items, (∀ item ∈ items, motive item) → motive (list items))
    (map : ∀ pairs, (∀ pair ∈ pairs, motive pair.1 ∧ motive pair.2) → motive (map pairs))
    (record : ∀ fields, (∀ field ∈ fields, motive field.2) → motive (record fields))
    (object : ∀ handle, motive (object handle)) (function : ∀ identity, motive (function identity))
    (value : Value) : motive value :=
  @Value.rec motive (fun items => ∀ item ∈ items, motive item)
    (fun pairs => ∀ pair ∈ pairs, motive pair.1 ∧ motive pair.2)
    (fun fields => ∀ field ∈ fields, motive field.2)
    (fun pair => motive pair.1 ∧ motive pair.2) (fun field => motive field.2)
    null bool int float text (fun items each => list items each) (fun pairs each => map pairs each)
    (fun fields each => record fields each) object function
    (fun _ member => (List.not_mem_nil member).elim)
    (fun _ _ first rest => List.forall_mem_cons.mpr ⟨first, rest⟩)
    (fun _ member => (List.not_mem_nil member).elim)
    (fun _ _ first rest => List.forall_mem_cons.mpr ⟨first, rest⟩)
    (fun _ member => (List.not_mem_nil member).elim)
    (fun _ _ first rest => List.forall_mem_cons.mpr ⟨first, rest⟩)
    (fun _ _ key value => ⟨key, value⟩) (fun _ _ value => value) value

/-- The integer that a value counts as among keys. -/
def whole? : Value → Option ℤ
  | bool b => some (if b then 1 else 0)
  | int n => some n.toInt
  | _ => none

/-- Whether two keys are one. Truth values count as integers, an integer is a double if it is the very
number that the double is, and what is no number is no key but itself. -/
def sameKey : Value → Value → Bool
  | null, null => true
  | text a, text b => a == b
  | float x, float y => x.equal y
  | float x, key => key.whole?.any fun n => x.toInt? == some n
  | key, float x => key.whole?.any fun n => x.toInt? == some n
  | a, b => a.whole?.any fun n => b.whole? == some n

/-- Pairs with one more: the first key that is the same stays, with the new value. -/
def putPair (key value : Value) : List (Value × Value) → List (Value × Value)
  | [] => [(key, value)]
  | (other, old) :: rest =>
    if other.sameKey key then (other, value) :: rest else (other, old) :: putPair key value rest

mutual

/-- The value that is read back. -/
def normal : Value → Value
  | list items => list (normalItems items)
  | map pairs => map (normalPairs [] pairs)
  | record fields => map (normalFields fields)
  | value => value

/-- The values that are read back for some items. -/
def normalItems : List Value → List Value
  | [] => []
  | item :: rest => item.normal :: normalItems rest

/-- The pairs of a dictionary into which further pairs are put. -/
def normalPairs (done : List (Value × Value)) : List (Value × Value) → List (Value × Value)
  | [] => done
  | (key, value) :: rest => normalPairs (putPair key value.normal done) rest

/-- The pairs that fields come back as. -/
def normalFields : List (String × Value) → List (Value × Value)
  | [] => []
  | (name, value) :: rest => (text name, value.normal) :: normalFields rest

end

mutual

/-- How many containers stand one in another; one without parts counts. -/
def depth : Value → ℕ
  | list items => itemsDepth items + 1
  | map pairs => pairsDepth pairs + 1
  | record fields => fieldsDepth fields + 1
  | _ => 0

/-- How many containers stand one in another in some items. -/
def itemsDepth : List Value → ℕ
  | [] => 0
  | item :: rest => max item.depth (itemsDepth rest)

/-- How many containers stand one in another in some pairs. -/
def pairsDepth : List (Value × Value) → ℕ
  | [] => 0
  | (_, value) :: rest => max value.depth (pairsDepth rest)

/-- How many containers stand one in another in some fields. -/
def fieldsDepth : List (String × Value) → ℕ
  | [] => 0
  | (_, value) :: rest => max value.depth (fieldsDepth rest)

end

/-- The UTF-8 form of a text. -/
def bytes (text : String) : List UInt8 := text.toUTF8.data.toList

/-- Whether a value may be a key. -/
def isKey : Value → Bool
  | null | bool _ | int _ | float _ | text _ => true
  | _ => false

/-- A value that may be a key is its own normal form. -/
theorem normal_of_isKey {key : Value} (isKey : key.isKey = true) : key.normal = key := by
  cases key <;> first | rfl | cases isKey

mutual

/-- The values that are converted there and back: keys are without parts, the fields of a record are
in the order of the bytes of their names, and objects are of some sort that is left alone. -/
def Convertible (alone : Handle → Prop) : Value → Prop
  | list items => ItemsConvertible alone items
  | map pairs => PairsConvertible alone pairs
  | record fields => fields.Pairwise (fun a b => bytes a.1 < bytes b.1) ∧
      FieldsConvertible alone fields
  | object handle => alone handle
  | function _ => False
  | null | bool _ | int _ | float _ | text _ => True

def ItemsConvertible (alone : Handle → Prop) : List Value → Prop
  | [] => True
  | item :: rest => item.Convertible alone ∧ ItemsConvertible alone rest

def PairsConvertible (alone : Handle → Prop) : List (Value × Value) → Prop
  | [] => True
  | (key, value) :: rest =>
    key.isKey = true ∧ value.Convertible alone ∧ PairsConvertible alone rest

def FieldsConvertible (alone : Handle → Prop) : List (String × Value) → Prop
  | [] => True
  | (_, value) :: rest => value.Convertible alone ∧ FieldsConvertible alone rest

end

variable {alone : Handle → Prop}

theorem itemsConvertible_iff {items : List Value} :
    ItemsConvertible alone items ↔ ∀ item ∈ items, item.Convertible alone := by
  induction items with
  | nil => simp [ItemsConvertible]
  | cons item rest ih => simp [ItemsConvertible, ih]

theorem pairsConvertible_iff {pairs : List (Value × Value)} : PairsConvertible alone pairs ↔
    ∀ pair ∈ pairs, pair.1.isKey = true ∧ pair.2.Convertible alone := by
  induction pairs with
  | nil => simp [PairsConvertible]
  | cons pair rest ih => simp [PairsConvertible, ih, and_assoc]

theorem fieldsConvertible_iff {fields : List (String × Value)} :
    FieldsConvertible alone fields ↔ ∀ field ∈ fields, field.2.Convertible alone := by
  induction fields with
  | nil => simp [FieldsConvertible]
  | cons field rest ih => simp [FieldsConvertible, ih]

theorem itemsDepth_le_iff {items : List Value} {bound : ℕ} :
    itemsDepth items ≤ bound ↔ ∀ item ∈ items, item.depth ≤ bound := by
  induction items with
  | nil => simp [itemsDepth]
  | cons item rest ih => simp [itemsDepth, ih]

theorem pairsDepth_le_iff {pairs : List (Value × Value)} {bound : ℕ} :
    pairsDepth pairs ≤ bound ↔ ∀ pair ∈ pairs, pair.2.depth ≤ bound := by
  induction pairs with
  | nil => simp [pairsDepth]
  | cons pair rest ih => simp [pairsDepth, ih]

theorem fieldsDepth_le_iff {fields : List (String × Value)} {bound : ℕ} :
    fieldsDepth fields ≤ bound ↔ ∀ field ∈ fields, field.2.depth ≤ bound := by
  induction fields with
  | nil => simp [fieldsDepth]
  | cons field rest ih => simp [fieldsDepth, ih]

theorem Convertible.mono {more : Handle → Prop} (part : ∀ handle, alone handle → more handle)
    {value : Value} (convertible : value.Convertible alone) : value.Convertible more := by
  induction value using induction with
  | null => trivial
  | bool b => trivial
  | int n => trivial
  | float x => trivial
  | text s => trivial
  | list items each =>
    rw [Convertible, itemsConvertible_iff] at *
    exact fun item member => each item member (convertible item member)
  | map pairs each =>
    rw [Convertible, pairsConvertible_iff] at *
    exact fun pair member =>
      ⟨(convertible pair member).1, (each pair member).2 (convertible pair member).2⟩
  | record fields each =>
    rw [Convertible, fieldsConvertible_iff] at *
    exact ⟨convertible.1, fun field member => each field member (convertible.2 field member)⟩
  | object handle => exact part handle convertible
  | function identity => exact convertible.elim

/-! Records as maps. -/

/-- A key that no other one is goes to the end. -/
theorem putPair_of_new {key value : Value} {pairs : List (Value × Value)}
    (new : ∀ pair ∈ pairs, pair.1.sameKey key = false) :
    putPair key value pairs = pairs ++ [(key, value)] := by
  induction pairs with
  | nil => rfl
  | cons pair rest ih =>
    obtain ⟨first, others⟩ := List.forall_mem_cons.mp new
    rw [putPair, first, if_neg Bool.false_ne_true, ih others, List.cons_append]

/-- Fields whose names are all different go into a dictionary in their order. -/
theorem normalPairs_fields {fields : List (String × Value)} {done : List (Value × Value)}
    (apart : fields.Pairwise fun a b => a.1 ≠ b.1)
    (new : ∀ field ∈ fields, ∀ pair ∈ done, pair.1.sameKey (text field.1) = false) :
    normalPairs done (fields.map fun field => (text field.1, field.2)) =
      done ++ normalFields fields := by
  induction fields generalizing done with
  | nil => rw [List.map_nil, normalPairs, normalFields, List.append_nil]
  | cons field rest ih =>
    obtain ⟨name, value⟩ := field
    obtain ⟨others, apart⟩ := List.pairwise_cons.mp apart
    obtain ⟨first, new⟩ := List.forall_mem_cons.mp new
    rw [List.map_cons, normalPairs, putPair_of_new first, ih apart, normalFields,
      List.append_assoc, List.singleton_append]
    intro field member pair old
    obtain old | one := List.mem_append.mp old
    · exact new field member pair old
    · obtain rfl := List.mem_singleton.mp one
      exact beq_false_of_ne (others field member)

end ForeignBridge.Value
