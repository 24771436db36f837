import Mathlib.Data.List.Induction
import ForeignBridge.Proofs.Value.Equality

/-! # Looking keys up in dictionaries

Two keys may be one to a dictionary although they are not equal as values, and the pairs of a map are put
into a dictionary one by one. So under one key the dictionary keeps the key of the first pair and the
value of the last, where the map has the value of the first pair with an equal key.
-/

namespace ForeignBridge

namespace Double

/-- Doubles that are one integer are equal. -/
theorem equal_of_toInt? {x y : Double} {n : ℤ} (left : x.toInt? = some n) (right : y.toInt? = some n) :
    x.equal y = true := by
  obtain ⟨finite, value⟩ := toInt?_eq_some_iff.mp left
  obtain ⟨both, other⟩ := toInt?_eq_some_iff.mp right
  exact equal_iff.mpr (.inr ⟨finite, both, value.trans other.symm⟩)

/-- Equal doubles are the same integer, or neither is one. -/
theorem toInt?_congr {x y : Double} (same : x.equal y = true) : x.toInt? = y.toInt? := by
  ext n
  rw [toInt?_eq_some_iff, toInt?_eq_some_iff]
  obtain ⟨left, right, -⟩ | ⟨left, right, value⟩ := equal_iff.mp same
  · exact iff_of_false (fun whole => not_isInfinite_of_isFinite whole.1 left)
      fun whole => not_isInfinite_of_isFinite whole.1 right
  · rw [left, right, value]

end Double

namespace Value

/-- The integer that a key is, also as a double. -/
def integer? : Value → Option ℤ
  | float x => x.toInt?
  | key => key.whole?

/-- Two keys are one if they are one integer, equal doubles, both nothing, or one text. -/
theorem sameKey_iff {a b : Value} : a.sameKey b = true ↔
    (∃ n, a.integer? = some n ∧ b.integer? = some n) ∨
    (∃ x y, a = float x ∧ b = float y ∧ x.equal y = true) ∨
    (a = null ∧ b = null) ∨ ∃ s, a = text s ∧ b = text s := by
  have doubles {x y : Double} : x.equal y = true ↔
      (∃ n, x.toInt? = some n ∧ y.toInt? = some n) ∨ x.equal y = true :=
    (or_iff_right_of_imp fun ⟨_, left, right⟩ => Double.equal_of_toInt? left right).symm
  cases a <;> cases b
  case float.float x y => simpa [sameKey, integer?] using doubles
  case text.text s t => simpa [sameKey, integer?, whole?] using eq_comm
  all_goals simp [sameKey, integer?, whole?]

theorem sameKey_symm {a b : Value} (same : a.sameKey b = true) : b.sameKey a = true := by
  rw [sameKey_iff] at same ⊢
  obtain ⟨n, left, right⟩ | ⟨x, y, rfl, rfl, same⟩ | ⟨rfl, rfl⟩ | ⟨s, rfl, rfl⟩ := same
  · exact .inl ⟨n, right, left⟩
  · exact .inr (.inl ⟨y, x, rfl, rfl, Double.equal_symm same⟩)
  · exact .inr (.inr (.inl ⟨rfl, rfl⟩))
  · exact .inr (.inr (.inr ⟨s, rfl, rfl⟩))

/-- Keys that are one are the same integer, or neither is one. -/
theorem integer?_congr {a b : Value} (same : a.sameKey b = true) : a.integer? = b.integer? := by
  obtain ⟨n, left, right⟩ | ⟨x, y, rfl, rfl, same⟩ | ⟨rfl, rfl⟩ | ⟨s, rfl, rfl⟩ := sameKey_iff.mp same
  · rw [left, right]
  · exact Double.toInt?_congr same
  · rfl
  · rfl

theorem sameKey_trans {a b c : Value} (first : a.sameKey b = true) (second : b.sameKey c = true) :
    a.sameKey c = true := by
  have whole := (integer?_congr first).trans (integer?_congr second)
  obtain ⟨n, left, -⟩ | ⟨x, y, rfl, rfl, one⟩ | ⟨rfl, rfl⟩ | ⟨s, rfl, rfl⟩ := sameKey_iff.mp first
  · exact sameKey_iff.mpr (.inl ⟨n, left, whole ▸ left⟩)
  · obtain ⟨n, -, right⟩ | ⟨_, z, same, rfl, two⟩ | ⟨same, -⟩ | ⟨s, same, -⟩ := sameKey_iff.mp second
    · exact sameKey_iff.mpr (.inl ⟨n, whole.trans right, right⟩)
    · cases same
      exact sameKey_iff.mpr (.inr (.inl ⟨x, z, rfl, rfl, Double.equal_trans one two⟩))
    · cases same
    · cases same
  · exact second
  · exact second

theorem sameKey_congr {a b c : Value} (same : a.sameKey b = true) : a.sameKey c = b.sameKey c :=
  Bool.eq_iff_iff.mpr ⟨sameKey_trans (sameKey_symm same), sameKey_trans same⟩

/-- Values that are equal are one key if they may be keys at all. -/
theorem sameKey_of_equal {a b : Value} (isKey : a.isKey = true) (same : a.equal b = true) :
    a.sameKey b = true := by
  cases a with
  | null => exact equal_null_iff.mp same ▸ rfl
  | bool value =>
    obtain rfl := equal_bool_iff.mp same
    simp [sameKey, whole?]
  | int n =>
    obtain rfl := equal_int_iff.mp same
    simp [sameKey, whole?]
  | text s =>
    obtain rfl := equal_text_iff.mp same
    simp [sameKey]
  | float x =>
    obtain ⟨y, rfl, numbers⟩ := equal_float_iff.mp same
    exact numbers
  | _ => cases isKey

/-! What a dictionary holds under a key. -/

section Lookup

variable {key other value : Value} {pairs done : List (Value × Value)}

/-- No two keys of the pairs are one. -/
def KeysApart (pairs : List (Value × Value)) : Prop :=
  (pairs.map Prod.fst).Pairwise fun a b => a.sameKey b = false

/-- A key that is there stays as it is, and one that is not comes last. -/
theorem keys_putPair : (putPair key value pairs).map Prod.fst =
    if pairs.any (·.1.sameKey key) then pairs.map Prod.fst else pairs.map Prod.fst ++ [key] := by
  induction pairs with
  | nil => rfl
  | cons pair rest ih =>
    obtain ⟨first, old⟩ := pair
    rw [putPair]
    cases same : first.sameKey key with
    | true => simp [same]
    | false =>
      simp only [Bool.false_eq_true, ↓reduceIte, List.map_cons, ih, List.any_cons, same,
        Bool.false_or]
      split <;> rfl

theorem keysApart_putPair (apart : KeysApart pairs) : KeysApart (putPair key value pairs) := by
  rw [KeysApart, keys_putPair]
  split
  · exact apart
  · rename_i new
    refine List.pairwise_append.mpr ⟨apart, List.pairwise_singleton .., ?_⟩
    intro first member last one
    obtain rfl := List.mem_singleton.mp one
    obtain ⟨pair, there, rfl⟩ := List.mem_map.mp member
    simp only [List.any_eq_true, not_exists, not_and, Bool.not_eq_true] at new
    exact new pair there

/-- Under the key that is put there is now the value, with the key that was there. Under every other one
there is what was there. -/
theorem find?_putPair : (putPair key value pairs).find? (fun pair => pair.1.sameKey other) =
    if key.sameKey other then
      some (((pairs.find? fun pair => pair.1.sameKey other).map Prod.fst).getD key, value)
    else pairs.find? fun pair => pair.1.sameKey other := by
  induction pairs with
  | nil => cases one : key.sameKey other <;> simp [putPair, one]
  | cons pair rest ih =>
    obtain ⟨first, old⟩ := pair
    rw [putPair]
    cases same : first.sameKey key with
    | true =>
      rw [if_pos rfl, List.find?_cons, List.find?_cons, sameKey_congr same]
      cases key.sameKey other <;> rfl
    | false =>
      rw [if_neg Bool.false_ne_true, List.find?_cons, List.find?_cons, ih]
      cases found : first.sameKey other with
      | false => rfl
      | true =>
        have apart : key.sameKey other = false := Bool.eq_false_iff.mpr fun one =>
          Bool.eq_false_iff.mp same (sameKey_trans found (sameKey_symm one))
        rw [apart]
        rfl

theorem normalPairs_concat : normalPairs done (pairs ++ [(key, value)]) =
    putPair key value.normal (normalPairs done pairs) := by
  induction pairs generalizing done with
  | nil => rfl
  | cons pair rest ih => exact ih

theorem keysApart_normalPairs : KeysApart (normalPairs [] pairs) := by
  induction pairs using List.reverseRecOn with
  | nil => exact .nil
  | append_singleton rest pair ih =>
    rw [normalPairs_concat]
    exact keysApart_putPair ih

/-- Every key of a dictionary is one that has been put into it. -/
theorem keys_normalPairs : (normalPairs [] pairs).map Prod.fst ⊆ pairs.map Prod.fst := by
  induction pairs using List.reverseRecOn with
  | nil => exact List.Subset.refl _
  | append_singleton rest pair ih =>
    rw [normalPairs_concat, keys_putPair, List.map_append]
    split
    · exact List.subset_append_of_subset_left _ ih
    · exact List.append_subset.mpr ⟨List.subset_append_of_subset_left _ ih,
        List.subset_append_right ..⟩

/-- Under a key a dictionary has the key of the first pair that is put there, and the value of the last. -/
theorem find?_normalPairs :
    ((normalPairs [] pairs).find? fun pair => pair.1.sameKey other).map Prod.fst =
        (pairs.find? fun pair => pair.1.sameKey other).map Prod.fst ∧
      ((normalPairs [] pairs).find? fun pair => pair.1.sameKey other).map Prod.snd =
        (pairs.reverse.find? fun pair => pair.1.sameKey other).map (·.2.normal) := by
  induction pairs using List.reverseRecOn with
  | nil => exact ⟨rfl, rfl⟩
  | append_singleton rest pair ih =>
    obtain ⟨key, value⟩ := pair
    rw [normalPairs_concat, find?_putPair, List.find?_append, List.reverse_append,
      List.reverse_singleton, List.singleton_append, List.find?_cons, List.find?_cons, List.find?_nil]
    cases one : key.sameKey other with
    | false => simpa using ih
    | true =>
      rw [if_pos rfl, Option.map_some, Option.map_some, ih.1]
      refine ⟨?_, rfl⟩
      cases rest.find? fun pair => pair.1.sameKey other <;> rfl

/-- Of keys that are apart at most one is equal to a value, the one that is the same key. -/
theorem find?_equal (apart : KeysApart pairs) (keys : ∀ pair ∈ pairs, pair.1.isKey = true) :
    (pairs.find? fun pair => pair.1.equal key) =
      (pairs.find? fun pair => pair.1.sameKey key).filter fun pair => pair.1.equal key := by
  induction pairs with
  | nil => rfl
  | cons pair rest ih =>
    obtain ⟨others, apart⟩ := List.pairwise_cons.mp apart
    obtain ⟨first, keys⟩ := List.forall_mem_cons.mp keys
    rw [List.find?_cons, List.find?_cons, ih apart keys]
    cases same : pair.1.sameKey key with
    | false =>
      have differs : pair.1.equal key = false := Bool.eq_false_iff.mpr fun equal =>
        Bool.eq_false_iff.mp same (sameKey_of_equal first equal)
      rw [differs]
    | true =>
      have none : (rest.find? fun pair => pair.1.sameKey key) = none := by
        refine List.find?_eq_none.mpr fun later member one => ?_
        have := others later.1 (List.mem_map_of_mem member)
        rw [sameKey_trans same (sameKey_symm one)] at this
        cases this
      rw [none, Option.filter_some]
      cases pair.1.equal key <;> rfl

/-- What is found in a dictionary under a key: the value that was put there last, if the key that was put
there first is equal to it. -/
theorem get?_normalPairs {first last : Value × Value} (keys : ∀ pair ∈ pairs, pair.1.isKey = true)
    (earliest : (pairs.find? fun pair => pair.1.sameKey key) = some first)
    (latest : (pairs.reverse.find? fun pair => pair.1.sameKey key) = some last) :
    (map (normalPairs [] pairs)).get? key =
      if first.1.equal key then some last.2.normal else none := by
  obtain ⟨one, two⟩ := @find?_normalPairs key pairs
  rw [earliest, Option.map_some] at one
  rw [latest, Option.map_some] at two
  obtain ⟨⟨_, found⟩, there, rfl⟩ := Option.map_eq_some_iff.mp one
  rw [there, Option.map_some, Option.some.injEq] at two
  have keys : ∀ pair ∈ normalPairs [] pairs, pair.1.isKey = true := by
    intro pair member
    obtain ⟨put, among, same⟩ := List.mem_map.mp (keys_normalPairs (List.mem_map_of_mem member))
    exact same ▸ keys put among
  rw [get?, find?_equal keysApart_normalPairs keys, there, Option.filter_some, ← two]
  cases first.1.equal key <;> rfl

end Lookup

end Value

end ForeignBridge
