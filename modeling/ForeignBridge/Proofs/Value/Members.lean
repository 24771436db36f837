import Mathlib.Data.List.Forall2
import Mathlib.Data.List.Perm.Basic
import ForeignBridge.Proofs.Json.Spelling
import ForeignBridge.Proofs.Value.Document

/-! # The members of a map

A map becomes an object whose members stand under the names of its keys: a text is its own name, and the
name of a scalar is how it is written. Pairs under one name become one member, that of the last of them. This
happens to two keys only if one of them is a text that spells the other, so a map without such keys keeps all
its pairs, and it does not matter in which order they come or whether a record has them.
-/

namespace ForeignBridge

section Alignment

variable {α β : Type} {related : α → β → Prop}

/-- What is aligned with parts is aligned part by part. -/
theorem forall₂_append_cons {before after : List α} {a : α} {others : List β}
    (aligned : List.Forall₂ related (before ++ a :: after) others) : ∃ first b last,
      others = first ++ b :: last ∧ related a b ∧ List.Forall₂ related after last := by
  induction before generalizing others with
  | nil =>
    cases aligned with
    | @cons _ b _ last here rest => exact ⟨[], b, last, rfl, here, rest⟩
  | cons _ before ih =>
    cases aligned with
    | @cons _ c _ others _ rest =>
      obtain ⟨first, b, last, rfl, here, rest⟩ := ih rest
      exact ⟨c :: first, b, last, rfl, here, rest⟩

theorem exists_of_mem_aligned {parts : List α} {others : List β} (aligned : List.Forall₂ related parts others)
    {a : α} (member : a ∈ parts) : ∃ b ∈ others, related a b := by
  obtain ⟨before, after, rfl⟩ := List.mem_iff_append.mp member
  obtain ⟨first, b, last, rfl, here, -⟩ := forall₂_append_cons aligned
  exact ⟨b, List.mem_append_right _ (List.mem_cons_self ..), here⟩

/-- What holds of any two parts holds of any two that are aligned with them. -/
theorem pairwise_of_aligned {parts : List α} {others : List β} {apart : α → α → Prop} {distinct : β → β → Prop}
    (aligned : List.Forall₂ related parts others) (pairwise : parts.Pairwise apart)
    (carries : ∀ {a a' b b'}, related a b → related a' b' → apart a a' → distinct b b') :
    others.Pairwise distinct := by
  induction aligned with
  | nil => exact .nil
  | cons here rest ih =>
    obtain ⟨first, later⟩ := List.pairwise_cons.mp pairwise
    refine List.pairwise_cons.mpr ⟨fun b member => ?_, ih later⟩
    obtain ⟨a, among, there⟩ := exists_of_mem_aligned rest.flip member
    exact carries here there (first a among)

end Alignment

namespace Value

/-- The scalars that have a document, and their documents. -/
inductive Scalar : Value → Json → Prop
  | null : Scalar null .null
  | bool (b) : Scalar (bool b) (.bool b)
  | int (n) : Scalar (int n) (.integer n.toInt)
  | float {x} (finite : x.isFinite = true) : Scalar (float x) (.float x)

/-- That a key is a scalar that is written so. -/
def Written (key : Value) (name : String) : Prop := ∃ document, Scalar key document ∧ name = document.write

/-- That a key stands under a name: a text under itself, and a scalar under what it is written as. -/
def Names (key : Value) (name : String) : Prop := key = text name ∨ Written key name

/-- That two keys stand under one name. -/
def Collide (a b : Value) : Prop := ∃ name, a.Names name ∧ b.Names name

variable {typeName : Handle → String} {a b : Value} {name other : String}

theorem Scalar.eq_of_eq {document others : Json} (scalar : Scalar a document) (too : Scalar b others)
    (same : document = others) : a = b := by
  cases scalar with
  | int n =>
    cases too with
    | int m => exact congrArg Value.int (Int64.toInt_inj.mp (Json.integer.inj same))
    | null | bool _ | float _ => cases same
  | null | bool _ | float _ =>
    cases too <;> first | rfl | cases same <;> rfl

theorem Scalar.isScalar {document : Json} (scalar : Scalar a document) :
    document.IsScalar ∧ document.WellFormed := by
  cases scalar with
  | null | bool _ => exact ⟨trivial, trivial⟩
  | int n =>
    have fits := fitsInt64_toInt n
    exact ⟨trivial, fits.1, fits.2.trans (by decide)⟩
  | float finite => exact ⟨trivial, finite⟩

/-- Scalars that are written in one way are one. -/
theorem Written.unique (written : Written a name) (too : Written b name) : a = b := by
  obtain ⟨document, scalar, rfl⟩ := written
  obtain ⟨others, scalarToo, same⟩ := too
  have one := Json.write_inj scalar.isScalar.1 scalarToo.isScalar.1 scalar.isScalar.2 scalarToo.isScalar.2
    same
  exact scalar.eq_of_eq scalarToo one

theorem jsonKey_ok_iff {key : Value} : key.jsonKey typeName = .ok name ↔ key.Names name := by
  constructor
  · intro named
    cases key with
    | text s => exact .inl (congrArg text (Except.ok.inj named))
    | null => exact .inr ⟨_, .null, (Except.ok.inj named).symm⟩
    | bool b => exact .inr ⟨_, .bool b, (Except.ok.inj named).symm⟩
    | int n => exact .inr ⟨_, .int n, (Except.ok.inj named).symm⟩
    | float x =>
      rw [jsonKey, doubleJson] at named
      split at named
      · rename_i finite
        exact .inr ⟨_, .float finite, (Except.ok.inj named).symm⟩
      · cases named
    | list _ | map _ | record _ | object _ | function _ => cases named
  · rintro (rfl | ⟨document, scalar, rfl⟩)
    · rfl
    · cases scalar with
      | null | bool _ | int _ => rfl
      | float finite =>
        rw [jsonKey, doubleJson, if_pos finite]
        rfl

theorem Names.unique (names : a.Names name) (too : a.Names other) : name = other := by
  have same : a.jsonKey (fun _ => "") = .ok name := jsonKey_ok_iff.mpr names
  exact Except.ok.inj (same.symm.trans (jsonKey_ok_iff.mpr too))

/-- Two keys stand under one name just if one of them is a text that spells the other, which is a scalar. -/
theorem collide_iff (apart : a ≠ b) : Collide a b ↔
    (∃ s, a = text s ∧ Written b s) ∨ ∃ s, b = text s ∧ Written a s := by
  constructor
  · rintro ⟨name, rfl | written, too⟩
    · obtain rfl | written := too
      · exact (apart rfl).elim
      · exact .inl ⟨name, rfl, written⟩
    · obtain rfl | writtenToo := too
      · exact .inr ⟨name, rfl, written⟩
      · exact (apart (written.unique writtenToo)).elim
  · rintro (⟨s, rfl, written⟩ | ⟨s, rfl, written⟩)
    · exact ⟨s, .inl rfl, .inr written⟩
    · exact ⟨s, .inr written, .inl rfl⟩

/-- That a member stands for a pair. -/
def Stands (typeName : Handle → String) (pair : Value × Value) (member : String × Json) : Prop :=
  pair.1.Names member.1 ∧ pair.2.toJson typeName = .ok member.2

/-- That a member stands for a field. -/
def Fills (typeName : Handle → String) (field : String × Value) (member : String × Json) : Prop :=
  field.1 = member.1 ∧ field.2.toJson typeName = .ok member.2

/-- Pairs go in one after the other under their names. -/
theorem pairsToJson_ok_iff {pairs : List (Value × Value)} {members made : List (String × Json)} :
    pairsToJson typeName members pairs = .ok made ↔ ∃ named, List.Forall₂ (Stands typeName) pairs named ∧
      made = named.foldl (fun members member => Fields.insert member.1 member.2 members) members := by
  induction pairs generalizing members with
  | nil =>
    constructor
    · exact fun same => ⟨[], .nil, (Except.ok.inj same).symm⟩
    · rintro ⟨named, aligned, rfl⟩
      cases aligned
      rfl
  | cons pair rest ih =>
    constructor
    · intro same
      rw [pairsToJson] at same
      obtain ⟨name, named, same⟩ := ok_of_bind same
      obtain ⟨document, head, same⟩ := ok_of_bind same
      obtain ⟨others, aligned, rfl⟩ := ih.mp same
      exact ⟨(name, document) :: others, .cons ⟨jsonKey_ok_iff.mp named, head⟩ aligned, rfl⟩
    · rintro ⟨named, aligned, rfl⟩
      cases aligned with
      | cons here aligned =>
        rw [pairsToJson, jsonKey_ok_iff.mpr here.1, here.2]
        exact ih.mpr ⟨_, aligned, rfl⟩

theorem fieldsToJson_ok {fields : List (String × Value)} {named : List (String × Json)}
    (aligned : List.Forall₂ (Fills typeName) fields named) (members : List (String × Json)) :
    fieldsToJson typeName members fields = .ok
      (named.foldl (fun members member => Fields.insert member.1 member.2 members) members) := by
  induction aligned generalizing members with
  | nil => rfl
  | @cons field member rest others here _ ih =>
    rw [fieldsToJson, here.1, here.2]
    exact ih _

theorem toJson_map_ok_iff {pairs : List (Value × Value)} {document : Json} :
    (map pairs).toJson typeName = .ok document ↔ ∃ named, List.Forall₂ (Stands typeName) pairs named ∧
      document = .object (Fields.ofList named) := by
  have mapped (result : Except BridgeError (List (String × Json))) :
      result.map Json.object = .ok document ↔ ∃ members, result = .ok members ∧ document = .object members := by
    cases result with
    | error error => exact iff_of_false (fun done => nomatch done) fun ⟨_, done, _⟩ => nomatch done
    | ok members =>
      constructor
      · exact fun done => ⟨members, rfl, (Except.ok.inj done).symm⟩
      · rintro ⟨_, done, rfl⟩
        exact congrArg (fun members => Except.ok (Json.object members)) (Except.ok.inj done)
  rw [toJson, mapped]
  constructor
  · rintro ⟨members, made, rfl⟩
    obtain ⟨named, aligned, rfl⟩ := pairsToJson_ok_iff.mp made
    exact ⟨named, aligned, rfl⟩
  · rintro ⟨named, aligned, rfl⟩
    exact ⟨_, pairsToJson_ok_iff.mpr ⟨named, aligned, rfl⟩, rfl⟩

/-- That a pair is the last one under a name. -/
def LastUnder (pairs : List (Value × Value)) (name : String) (pair : Value × Value) : Prop :=
  ∃ before after, pairs = before ++ pair :: after ∧ pair.1.Names name ∧
    ∀ later ∈ after, ¬ Names (Prod.fst later) name

/-- A member is that of the last pair under its name. -/
theorem mem_ofList_iff_lastUnder {pairs : List (Value × Value)} {named : List (String × Json)}
    (aligned : List.Forall₂ (Stands typeName) pairs named) {member : Json} :
    (name, member) ∈ Fields.ofList named ↔
      ∃ pair, LastUnder pairs name pair ∧ pair.2.toJson typeName = .ok member := by
  rw [Fields.mem_ofList_iff]
  constructor
  · rintro ⟨before, after, rfl, absent⟩
    obtain ⟨first, pair, last, rfl, stands, rest⟩ := forall₂_append_cons aligned.flip
    refine ⟨pair, ⟨first, last, rfl, stands.1, fun later among names => ?_⟩, stands.2⟩
    obtain ⟨other, inAfter, there⟩ := exists_of_mem_aligned rest.flip among
    exact absent other inAfter (there.1.unique names)
  · rintro ⟨pair, ⟨before, after, rfl, names, absent⟩, document⟩
    obtain ⟨first, ⟨other, value⟩, last, rfl, stands, rest⟩ := forall₂_append_cons aligned
    obtain rfl := stands.1.unique names
    obtain rfl := Except.ok.inj (stands.2.symm.trans document)
    refine ⟨first, last, rfl, fun later among same => ?_⟩
    obtain ⟨pair, inAfter, there⟩ := exists_of_mem_aligned rest.flip among
    exact absent pair inAfter (same ▸ there.1)

/-- The document of a map is an object whose names are those of its keys, and under each name it has the
document of the last pair of that name. Two keys have one name just if one of them is a text that spells the
other. If no two keys of the map have one name, it keeps all its pairs, and a map with the pairs in another
order has the same document, and so has the record with the values under the texts of the keys. -/
theorem toJson_map_members (typeName : Handle → String) {pairs : List (Value × Value)} {document : Json}
    (made : (map pairs).toJson typeName = .ok document) :
    (∃ members, document = .object members ∧ Fields.Ascending members ∧
      (∀ name, (∃ member, (name, member) ∈ members) ↔ ∃ pair ∈ pairs, pair.1.Names name) ∧
      (∀ name member, (name, member) ∈ members ↔
        ∃ pair, LastUnder pairs name pair ∧ pair.2.toJson typeName = .ok member) ∧
      (pairs.Pairwise (fun pair other => ¬ Collide pair.1 other.1) → members.length = pairs.length)) ∧
    (∀ a b : Value, a ≠ b →
      (Collide a b ↔ (∃ s, a = text s ∧ Written b s) ∨ ∃ s, b = text s ∧ Written a s)) ∧
    (pairs.Pairwise (fun pair other => ¬ Collide pair.1 other.1) →
      (∀ others, others.Perm pairs → (map others).toJson typeName = .ok document) ∧
      (ofFields (pairs.map fun pair => (pair.1.keyText, pair.2))).toJson typeName = .ok document) := by
  obtain ⟨named, aligned, rfl⟩ := toJson_map_ok_iff.mp made
  have apart (none : pairs.Pairwise fun pair other => ¬ Collide pair.1 other.1) : Fields.Apart named := by
    refine pairwise_of_aligned aligned none ?_
    exact fun stands too none same => none ⟨_, stands.1, same ▸ too.1⟩
  refine ⟨⟨_, rfl, Fields.ascending_ofList named, fun name => ?_, fun name member => ?_, fun none => ?_⟩,
    fun a b => collide_iff, fun none => ⟨fun others perm => ?_, ?_⟩⟩
  · constructor
    · rintro ⟨member, among⟩
      obtain ⟨pair, ⟨before, after, rfl, names, -⟩, -⟩ := (mem_ofList_iff_lastUnder aligned).mp among
      exact ⟨pair, List.mem_append_right _ (List.mem_cons_self ..), names⟩
    · rintro ⟨pair, among, names⟩
      obtain ⟨⟨other, value⟩, there, stands⟩ := exists_of_mem_aligned aligned among
      obtain rfl := stands.1.unique names
      exact Fields.exists_mem_ofList there
  · exact mem_ofList_iff_lastUnder aligned
  · rw [(apart none).perm_ofList.length_eq, aligned.length_eq]
  · obtain ⟨renamed, realigned, reordered⟩ := List.perm_comp_forall₂ perm aligned
    rw [toJson_map_ok_iff]
    exact ⟨renamed, realigned, congrArg Json.object ((apart none).ofList_eq reordered).symm⟩
  · have filled : List.Forall₂ (Fills typeName) (pairs.map fun pair => (pair.1.keyText, pair.2)) named := by
      rw [List.forall₂_map_left_iff]
      refine aligned.imp fun pair member stands => ⟨?_, stands.2⟩
      have keyed : pair.1.jsonKey typeName = .ok member.1 := jsonKey_ok_iff.mpr stands.1
      exact (keyText_of_jsonKey keyed).symm
    have distinct : Fields.Apart (pairs.map fun pair => (pair.1.keyText, pair.2)) :=
      pairwise_of_aligned filled.flip (apart none) fun here there ne same => ne (here.1 ▸ there.1 ▸ same)
    obtain ⟨renamed, refilled, reordered⟩ := List.perm_comp_forall₂ distinct.perm_ofList filled
    rw [ofFields, toJson, fieldsToJson_ok refilled, ← (apart none).ofList_eq reordered]
    rfl

/-- The keys `1`, `1.0` and `-0.0` have names of their own, so their order does not matter; the text `1` has
the name of the number. -/
theorem toJson_map_members_numbers :
    (map [(float ⟨0x8000000000000000⟩, null), (float ⟨0x3FF0000000000000⟩, null), (int 1, bool true)]).toJson
        (fun _ => "") = .ok (.object [("-0.0", .null), ("1", .bool true), ("1.0", .null)]) ∧
      Collide (text "1") (int 1) ∧ ¬ Collide (int 1) (float ⟨0x3FF0000000000000⟩) := by
  have made : (map [(int 1, bool true), (float ⟨0x3FF0000000000000⟩, null),
      (float ⟨0x8000000000000000⟩, null)]).toJson (fun _ => "") =
        .ok (.object [("-0.0", .null), ("1", .bool true), ("1.0", .null)]) := rfl
  obtain ⟨-, collides, whole⟩ := toJson_map_members (fun _ => "") made
  have free {a b : Value} (apart : a ≠ b) (left : ∀ s, a ≠ text s) (right : ∀ s, b ≠ text s) :
      ¬ Collide a b := by
    rw [collides a b apart]
    rintro (⟨s, same, -⟩ | ⟨s, same, -⟩)
    · exact left s same
    · exact right s same
  have zero : float ⟨0x3FF0000000000000⟩ ≠ float ⟨0x8000000000000000⟩ :=
    fun same => absurd (float.inj same) (by decide)
  have none : [(int 1, bool true), (float ⟨0x3FF0000000000000⟩, null),
      (float ⟨0x8000000000000000⟩, null)].Pairwise fun pair other => ¬ Collide pair.1 other.1 := by
    simp only [List.pairwise_cons, List.mem_cons, List.not_mem_nil, or_false, forall_eq_or_imp, forall_eq,
      false_imp_iff, implies_true, List.Pairwise.nil, and_true]
    exact ⟨⟨free nofun nofun nofun, free nofun nofun nofun⟩, free zero nofun nofun⟩
  have spelt : Collide (text "1") (int 1) :=
    (collides (text "1") (int 1) nofun).mpr (.inl ⟨"1", rfl, .integer 1, .int 1, rfl⟩)
  refine ⟨(whole none).1 _ ?_, spelt, free nofun nofun nofun⟩
  exact (List.Perm.swap ..).trans (.trans (.cons _ (.swap ..)) (.swap ..))

end Value

end ForeignBridge
