import ForeignBridge.Json.Basic
import ForeignBridge.Proofs.Fields
import ForeignBridge.Proofs.Number.Rounding

/-! # Normal forms of documents

A document that has been a value comes back with its numbers told apart in another way: a double that
is an integer of 64 bits with a sign is that integer, and an integer that is none of these is the
nearest double. Nothing else changes, and a second time nothing changes at all.
-/

namespace ForeignBridge.Json

/-- Induction on a document, in which each part of a container comes before it. -/
@[elab_as_elim]
theorem induction {motive : Json → Prop} (null : motive null) (bool : ∀ b, motive (bool b))
    (integer : ∀ n, motive (integer n)) (float : ∀ x, motive (float x))
    (string : ∀ text, motive (string text))
    (array : ∀ items, (∀ item ∈ items, motive item) → motive (array items))
    (object : ∀ members, (∀ member ∈ members, motive member.2) → motive (object members))
    (document : Json) : motive document :=
  @Json.rec motive (fun items => ∀ item ∈ items, motive item)
    (fun members => ∀ member ∈ members, motive member.2) (fun member => motive member.2)
    null bool integer float string (fun items each => array items each)
    (fun members each => object members each)
    (fun _ member => (List.not_mem_nil member).elim)
    (fun _ _ first rest => List.forall_mem_cons.mpr ⟨first, rest⟩)
    (fun _ member => (List.not_mem_nil member).elim)
    (fun _ _ first rest => List.forall_mem_cons.mpr ⟨first, rest⟩)
    (fun _ _ value => value) document

mutual

/-- The documents that there are: an integer has 64 bits, with a sign or without, a double is finite,
and the members of an object are in the order of their names, each name once. -/
def WellFormed : Json → Prop
  | integer n => -2 ^ 63 ≤ n ∧ n < 2 ^ 64
  | float x => x.isFinite = true
  | array items => ItemsWellFormed items
  | object members => Fields.Ascending members ∧ MembersWellFormed members
  | null | bool _ | string _ => True

def ItemsWellFormed : List Json → Prop
  | [] => True
  | item :: rest => item.WellFormed ∧ ItemsWellFormed rest

def MembersWellFormed : List (String × Json) → Prop
  | [] => True
  | (_, value) :: rest => value.WellFormed ∧ MembersWellFormed rest

end

mutual

/-- The normal form of a document. -/
def normal : Json → Json
  | integer n => if FitsInt64 n then integer n else float (.ofInt n)
  | float x =>
    match x.toInt? with
    | some n => if FitsInt64 n then integer n else float x
    | none => float x
  | array items => array (normalItems items)
  | object members => object (normalMembers members)
  | document => document

/-- The normal forms of some items. -/
def normalItems : List Json → List Json
  | [] => []
  | item :: rest => item.normal :: normalItems rest

/-- The members with the normal forms of their values. -/
def normalMembers : List (String × Json) → List (String × Json)
  | [] => []
  | (name, value) :: rest => (name, value.normal) :: normalMembers rest

end

theorem itemsWellFormed_iff {items : List Json} :
    ItemsWellFormed items ↔ ∀ item ∈ items, item.WellFormed := by
  induction items with
  | nil => simp [ItemsWellFormed]
  | cons item rest ih => simp [ItemsWellFormed, ih]

theorem membersWellFormed_iff {members : List (String × Json)} :
    MembersWellFormed members ↔ ∀ member ∈ members, member.2.WellFormed := by
  induction members with
  | nil => simp [MembersWellFormed]
  | cons member rest ih => simp [MembersWellFormed, ih]

theorem normalItems_eq (items : List Json) : normalItems items = items.map normal := by
  induction items with
  | nil => rfl
  | cons item rest ih => rw [normalItems, ih, List.map_cons]

theorem normalMembers_eq (members : List (String × Json)) :
    normalMembers members = members.map fun member => (member.1, member.2.normal) := by
  induction members with
  | nil => rfl
  | cons member rest ih => rw [normalMembers, ih, List.map_cons]

theorem normal_float_of_whole {x : Double} {n : ℤ} (whole : x.toInt? = some n)
    (fits : FitsInt64 n) : (float x).normal = integer n := by
  simp only [normal, whole, if_pos fits]

theorem normal_float_of_not_whole {x : Double} (other : ∀ n, x.toInt? = some n → ¬ FitsInt64 n) :
    (float x).normal = float x := by
  unfold normal
  split
  · rename_i n whole
    exact if_neg (other n whole)
  · rfl

theorem normal_normal_float (x : Double) : (float x).normal.normal = (float x).normal := by
  by_cases whole : ∃ n, x.toInt? = some n ∧ FitsInt64 n
  · obtain ⟨n, same, fits⟩ := whole
    rw [normal_float_of_whole same fits, normal, if_pos fits]
  · have other : ∀ n, x.toInt? = some n → ¬ FitsInt64 n :=
      fun n same fits => whole ⟨n, same, fits⟩
    rw [normal_float_of_not_whole other, normal_float_of_not_whole other]

/-- An integer of 64 bits without a sign that is too large for a sign is a double for good. -/
theorem ofInt_not_whole {n : ℤ} (wide : -2 ^ 63 ≤ n ∧ n < 2 ^ 64) (large : ¬ FitsInt64 n) :
    ∀ m, (Double.ofInt n).toInt? = some m → ¬ FitsInt64 m := by
  intro m whole fits
  have above := Double.toInt?_ofInt_large (by omega) wide.2 whole
  omega

/-- The normal form is its own normal form. -/
theorem normal_normal {document : Json} (wellFormed : document.WellFormed) :
    document.normal.normal = document.normal := by
  induction document using induction with
  | null | bool b | string text => rfl
  | integer n =>
    by_cases fits : FitsInt64 n
    · rw [normal, if_pos fits, normal, if_pos fits]
    · rw [normal, if_neg fits, normal_float_of_not_whole (ofInt_not_whole wellFormed fits)]
  | float x => exact normal_normal_float x
  | array items each =>
    rw [WellFormed, itemsWellFormed_iff] at wellFormed
    simp only [normal, normalItems_eq, List.map_map, array.injEq]
    exact List.map_congr_left fun item member => each item member (wellFormed item member)
  | object members each =>
    rw [WellFormed, membersWellFormed_iff] at wellFormed
    simp only [normal, normalMembers_eq, List.map_map, object.injEq]
    refine List.map_congr_left fun member among => ?_
    exact Prod.ext rfl (each member among (wellFormed.2 member among))

end ForeignBridge.Json
