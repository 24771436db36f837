import Mathlib.Data.List.Forall2
import ForeignBridge.Proofs.Foreign.Keeps
import ForeignBridge.Proofs.Foreign.Run
import ForeignBridge.Proofs.Value.Normal

/-! # Keys without parts

A key that is a number, a text or nothing is found in a dictionary by its value, and no code runs for
that. Putting a pair into a dictionary is putting a pair into the map that the dictionary stands for.
-/

namespace ForeignBridge

open Foreign

namespace Value

/-- The scalar of a value without parts. -/
def scalar? : Value → Option Scalar
  | null => some .none
  | bool b => some (.int (if b then 1 else 0))
  | int n => some (.int n.toInt)
  | float x => some (.float x)
  | text s => some (.text (.ofString s))
  | _ => none

end Value

namespace Foreign

/-- Each member of a list has a counterpart in a list that is related to it. -/
theorem exists_of_forall₂ {α β : Type} {related : α → β → Prop} {left : List α}
    {right : List β} (all : List.Forall₂ related left right) {a : α} (member : a ∈ left) :
    ∃ b, related a b := by
  induction all with
  | nil => cases member
  | cons first _ ih =>
    obtain rfl | member := List.mem_cons.mp member
    · exact ⟨_, first⟩
    · exact ih member

theorem CodePoints.ofString_inj {a b : String} :
    CodePoints.ofString a = CodePoints.ofString b ↔ a = b := by
  simp only [ofString, CodePoints.mk.injEq]
  refine ⟨fun same => ?_, fun same => same ▸ rfl⟩
  exact String.toList_inj.mp ((List.map_inj_right fun _ _ => Char.toNat_inj.mp).mp same)

/-- The code points of a text are those of that text. -/
theorem CodePoints.string?_ofString (text : String) : (ofString text).string? = some text := by
  have whole (chars : List Char) : (chars.map Char.toNat).mapM char? = some chars := by
    induction chars with
    | nil => rfl
    | cons char rest ih =>
      rw [List.map_cons, List.mapM_cons, ih, char?,
        if_pos (show char.toNat.isValidChar from char.valid), Char.ofNat_toNat]
      rfl
  rw [string?, ofString, whole, Option.map_some, String.ofList_toList]

namespace Scalar

/-- The interpreter compares keys as their values are compared. -/
theorem equal_eq_sameKey {a b : Value} {x y : Scalar} (left : a.scalar? = some x)
    (right : b.scalar? = some y) : x.equal y = a.sameKey b := by
  have whole (n : ℤ) (d : Double) : (Double.compareInt? n d == some .eq) = (d.toInt? == some n) := by
    rw [Bool.eq_iff_iff, beq_iff_eq, beq_iff_eq, Double.compareInt?_eq_iff_toInt?]
  have codes (s t : String) : (CodePoints.ofString s == CodePoints.ofString t) = (s == t) := by
    rw [Bool.eq_iff_iff, beq_iff_eq, beq_iff_eq, CodePoints.ofString_inj]
  cases a <;> cases left <;> cases b <;> cases right <;>
    simp only [equal, Value.sameKey, Value.whole?, Option.any_some, Option.any_none, whole, codes,
      Option.some_beq_some, Option.none_beq_some] <;>
    exact BEq.comm

/-- Equal scalars have one hash, whatever the objects; nothing is one object. -/
theorem hash_congr {x y : Scalar} {a b : Handle} (same : x.equal y = true)
    (single : x = .none → a = b) : x.hash a = y.hash b := by
  unfold equal at same
  split at same
  · rw [single rfl]
  · rw [beq_iff_eq.mp same, hash, hash]
  · obtain ⟨left, right⟩ := Double.not_isNaN_of_equal same
    simp only [hash, left, right, Bool.false_eq_true, ↓reduceIte]
    exact floatHash_congr same
  · have equal := beq_iff_eq.mp same
    simp only [hash, (Double.not_special_of_compareInt? equal).1, Bool.false_eq_true, ↓reduceIte]
    exact intHash_eq_floatHash equal
  · have equal := beq_iff_eq.mp same
    simp only [hash, (Double.not_special_of_compareInt? equal).1, Bool.false_eq_true, ↓reduceIte]
    exact (intHash_eq_floatHash equal).symm
  · rw [beq_iff_eq.mp same, hash, hash]
  · rw [beq_iff_eq.mp same, hash, hash]
  · cases same

end Scalar

/-- An object that is a key without parts. -/
structure IsKey (heap : Heap) (handle : Handle) (key : Value) (scalar : Scalar) : Prop where
  value : key.scalar? = some scalar
  cell : ∃ cell, heap.get? handle = some cell ∧ Scalar.ofCell? cell = some scalar
  single : scalar = .none → handle = Fixed.none

/-- An entry that stands for a pair, given what objects stand for. -/
structure Entry.Holds (heap : Heap) (reads : Handle → Value → Prop) (entry : Entry)
    (pair : Value × Value) : Prop where
  found : ∃ scalar, IsKey heap entry.key pair.1 scalar ∧ entry.hash = scalar.hash entry.key
  key : reads entry.key pair.1
  value : reads entry.value pair.2

theorem IsKey.keeps {filled : Handle → Prop} {heap later : Heap} {handle : Handle} {key : Value}
    {scalar : Scalar} (isKey : IsKey heap handle key scalar) (kept : heap.Keeps filled later) :
    IsKey later handle key scalar := by
  obtain ⟨cell, found, known⟩ := isKey.cell
  refine ⟨isKey.value, ⟨cell, kept.cells found fun shape => ?_, known⟩, isKey.single⟩
  rw [Scalar.ofCell?] at known
  rcases shape with same | same <;> rw [same, Core.ofHandle?_handle] at known <;> cases known

/-- An entry stands for its pair from then on. -/
theorem Entry.Holds.keeps {filled : Handle → Prop} {heap later : Heap}
    {reads more : Handle → Value → Prop} {entry : Entry} {pair : Value × Value}
    (holds : entry.Holds heap reads pair) (kept : heap.Keeps filled later)
    (still : ∀ {handle value}, reads handle value → more handle value) :
    entry.Holds later more pair := by
  obtain ⟨⟨scalar, isKey, hash⟩, key, value⟩ := holds
  exact ⟨⟨scalar, isKey.keeps kept, hash⟩, still key, still value⟩

/-- Another value at a place changes no entry that comes after it. -/
theorem Entry.map_replace_of_above {entries : List Entry} {place : ℕ} (value : Handle)
    (above : ∀ later ∈ entries, place < later.place) :
    (entries.map fun later => if later.place = place then { later with value } else later) =
      entries := by
  refine (List.map_congr_left fun later member => ?_).trans (List.map_id _)
  rw [if_neg (Nat.ne_of_gt (above later member))]
  rfl

/-- Each entry of a dictionary has a place of its own, before that of the next. -/
structure Dictionary.Placed (content : Dictionary) : Prop where
  ascending : content.entries.Pairwise (·.place < ·.place)
  below : ∀ entry ∈ content.entries, entry.place < content.next

namespace Dictionary.Placed

variable {content : Dictionary}

theorem replace (placed : content.Placed) (place : ℕ) (value : Handle) :
    (content.replace place value).Placed := by
  have same (entry : Entry) :
      (if entry.place = place then { entry with value } else entry).place = entry.place := by
    split <;> rfl
  refine ⟨?_, fun entry member => ?_⟩
  · rw [Dictionary.replace, List.pairwise_map]
    exact placed.ascending.imp fun {a b} less => by rwa [same, same]
  · obtain ⟨entry, was, rfl⟩ := List.mem_map.mp member
    rw [same]
    exact placed.below entry was

theorem insert (placed : content.Placed) (hash : ℤ) (key value : Handle) :
    (content.insert hash key value).Placed := by
  refine ⟨List.pairwise_append.mpr ⟨placed.ascending, List.pairwise_singleton .., ?_⟩, ?_⟩
  · intro entry was next new
    obtain rfl := List.mem_singleton.mp new
    exact placed.below entry was
  · intro entry member
    obtain was | new := List.mem_append.mp member
    · exact Nat.lt_succ_of_lt (placed.below entry was)
    · obtain rfl := List.mem_singleton.mp new
      exact Nat.lt_succ_self _

theorem erase (placed : content.Placed) (place : ℕ) : (content.erase place).Placed :=
  ⟨placed.ascending.filter _, fun entry member => placed.below entry (List.mem_filter.mp member).1⟩

end Dictionary.Placed

namespace Run

variable {machine : Machine} {heap : Heap}

/-- A scalar hashes by its value. -/
theorem on_hashOf (invoke : Invoke) {handle : Handle} {key : Value} {scalar : Scalar}
    (isKey : IsKey machine.heap handle key scalar) :
    (hashOf invoke handle).on machine = (.ok (scalar.hash handle), machine) := by
  obtain ⟨cell, found, same⟩ := isKey.cell
  rw [hashOf, hashDepth, hashWithin, on_bind _ (on_cell found), same]
  rfl

theorem on_isTrue (invoke : Invoke) (sound : machine.heap.Sound) (answer : Bool) :
    (isTrue invoke (truth answer)).on machine = (.ok answer, machine) := by
  have found := sound.fixed (Fixed.get?_truth answer) (by simp [Cell.isFixed, Cell.ofCore, Cell.of])
  have plain : plainTruth? (.ofCore .bool (.int (if answer then 1 else 0))) = some answer := by
    simp only [plainTruth?, Cell.ofCore, Cell.of, Core.ofHandle?_handle]
    cases answer <;> rfl
  rw [isTrue, isTrueWithin, on_bind _ (on_cell found), plain]
  rfl

/-- A key is the one that is looked for if it is the very object, or has an equal value. -/
theorem on_isKey (invoke : Invoke) (sound : machine.heap.Sound) {a b : Handle} {x y : Value}
    {s t : Scalar} (left : IsKey machine.heap a x s) (right : IsKey machine.heap b y t)
    (apart : a = b → x.sameKey y = true) :
    (isKey invoke a b).on machine = (.ok (x.sameKey y), machine) := by
  unfold isKey
  split
  · rename_i same
    rw [apart same]
    rfl
  · obtain ⟨first, foundFirst, isFirst⟩ := left.cell
    obtain ⟨second, foundSecond, isSecond⟩ := right.cell
    have answer : (compare invoke .equal a b).on machine =
        (.ok (truth (x.sameKey y)), machine) := by
      rw [compare, on_bind _ (on_cell foundFirst), on_bind _ (on_cell foundSecond), isFirst, isSecond,
        ← Scalar.equal_eq_sameKey left.value right.value]
      rfl
    rw [on_bind _ answer, on_isTrue invoke sound]

/-- The entry that is found for a key is the one whose pair gets the new value. -/
theorem on_findEntry (invoke : Invoke) (sound : machine.heap.Sound) {reads : Handle → Value → Prop}
    {handle value : Handle} {key image : Value} {scalar : Scalar}
    (isKey : IsKey machine.heap handle key scalar) (read : reads value image)
    {entries : List Entry} {pairs : List (Value × Value)}
    (holds : List.Forall₂ (Entry.Holds machine.heap reads) entries pairs)
    (apart : ∀ entry ∈ entries, entry.key = handle → key.sameKey key = true)
    (ascending : entries.Pairwise (·.place < ·.place)) :
    (∃ old ∈ entries,
      (findEntry invoke (scalar.hash handle) handle entries).on machine = (.ok (some old), machine) ∧
      List.Forall₂ (Entry.Holds machine.heap reads)
        (entries.map fun entry => if entry.place = old.place then { entry with value } else entry)
        (key.putPair image pairs)) ∨
    (findEntry invoke (scalar.hash handle) handle entries).on machine = (.ok none, machine) ∧
      key.putPair image pairs = pairs ++ [(key, image)] := by
  induction holds with
  | nil => exact .inr ⟨rfl, rfl⟩
  | @cons entry pair entries pairs first rest ih =>
    obtain ⟨other, old⟩ := pair
    obtain ⟨⟨found, otherKey, hash⟩, readKey, oldValue⟩ := first
    obtain ⟨above, ascending⟩ := List.pairwise_cons.mp ascending
    have isKeyThere : entry.key = handle → other.sameKey key = true := by
      intro same
      have one : scalar = found := by
        obtain ⟨cell, there, ofCell⟩ := otherKey.cell
        obtain ⟨copy, again, ofCopy⟩ := isKey.cell
        rw [same, again, Option.some.injEq] at there
        rw [there, ofCell, Option.some.injEq] at ofCopy
        exact ofCopy.symm
      rw [← Scalar.equal_eq_sameKey otherKey.value isKey.value, ← one,
        Scalar.equal_eq_sameKey isKey.value isKey.value]
      exact apart entry (List.mem_cons_self ..) same
    have asked := on_isKey invoke sound otherKey isKey isKeyThere
    cases same : other.sameKey key with
    | true =>
      refine .inl ⟨entry, List.mem_cons_self .., ?_, ?_⟩
      · rw [← Scalar.equal_eq_sameKey otherKey.value isKey.value] at same
        have hashes : entry.hash = scalar.hash handle := by
          rw [hash]
          refine Scalar.hash_congr same fun none => ?_
          have none' : scalar = .none := by
            cases scalar <;> simp_all [Scalar.equal]
          rw [otherKey.single none, isKey.single none']
        rw [Scalar.equal_eq_sameKey otherKey.value isKey.value] at same
        rw [findEntry, if_pos hashes, on_bind _ asked, same]
        rfl
      · rw [List.map_cons, if_pos rfl, Value.putPair, if_pos same]
        rw [Entry.map_replace_of_above value above]
        exact .cons ⟨⟨found, otherKey, hash⟩, readKey, read⟩ rest
    | false =>
      have skip : (findEntry invoke (scalar.hash handle) handle (entry :: entries)).on machine =
          (findEntry invoke (scalar.hash handle) handle entries).on machine := by
        rw [findEntry]
        split
        · rw [on_bind _ asked, same]
          rfl
        · rfl
      rw [skip, Value.putPair, same, if_neg Bool.false_ne_true]
      obtain ⟨later, member, step, after⟩ | ⟨step, after⟩ := ih
        (fun entry member => apart entry (List.mem_cons_of_mem _ member)) ascending
      · refine .inl ⟨later, List.mem_cons_of_mem _ member, step, ?_⟩
        rw [List.map_cons, if_neg (Nat.ne_of_lt (above later member))]
        exact .cons ⟨⟨found, otherKey, hash⟩, readKey, oldValue⟩ after
      · rw [after]
        exact .inr ⟨step, rfl⟩

/-- Putting a value under a key of a dictionary is putting a pair into the map it stands for. -/
theorem on_dictSet (invoke : Invoke) (sound : machine.heap.Sound) {reads : Handle → Value → Prop}
    {dict handle value : Handle} {key image : Value} {scalar : Scalar} {cell : Cell}
    {content : Dictionary} {pairs : List (Value × Value)}
    (found : machine.heap.get? dict = some cell) (shape : cell.body = .dict content)
    (isKey : IsKey machine.heap handle key scalar) (named : reads handle key)
    (read : reads value image)
    (holds : List.Forall₂ (Entry.Holds machine.heap reads) content.entries pairs)
    (apart : ∀ entry ∈ content.entries, entry.key = handle → key.sameKey key = true)
    (placed : content.Placed) :
    ∃ after : Dictionary, (dictSet invoke dict handle value).on machine =
        (.ok (), { machine with heap := machine.heap.revise dict { cell with body := .dict after } }) ∧
      after.Placed ∧
      List.Forall₂ (Entry.Holds machine.heap reads) after.entries (key.putPair image pairs) := by
  obtain ⟨old, member, step, after⟩ | ⟨step, after⟩ :=
    on_findEntry invoke sound isKey read holds apart placed.ascending
  · refine ⟨content.replace old.place value, ?_, placed.replace _ _, after⟩
    rw [dictSet, on_bind _ (on_hashOf invoke isKey), on_bind _ (on_dictionary found shape),
      on_bind _ step, on_bind _ (on_dictionary found shape)]
    exact on_setBody found _
  · refine ⟨content.insert (scalar.hash handle) handle value, ?_, placed.insert _ _ _, ?_⟩
    · rw [dictSet, on_bind _ (on_hashOf invoke isKey), on_bind _ (on_dictionary found shape),
        on_bind _ step, on_bind _ (on_dictionary found shape)]
      exact on_setBody found _
    · rw [after]
      exact List.rel_append holds (.cons ⟨⟨scalar, isKey, rfl⟩, named, read⟩ .nil)

end Run

end Foreign

end ForeignBridge
