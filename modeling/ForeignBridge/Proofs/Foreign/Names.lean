import ForeignBridge.Proofs.Foreign.Keeps
import ForeignBridge.Proofs.Foreign.Keys

/-! # Names and their objects

A dictionary whose keys are texts stands for a list of names with their objects. A name is looked up in
it by its text, whether by the interpreter itself or under an object that holds the text. To put an object
under a name and to take a name away change the list at that name only.
-/

namespace ForeignBridge.Foreign

/-- Names with their objects, the name that came first in front. -/
abbrev NameList := List (CodePoints × Handle)

namespace NameList

variable {names : NameList} {name other : CodePoints} {value : Handle}

/-- The names with another object under one of them. -/
def replace (names : NameList) (name : CodePoints) (value : Handle) : NameList :=
  names.map fun pair => if pair.1 = name then (name, value) else pair

/-- The names without one of them. -/
def erase (names : NameList) (name : CodePoints) : NameList := names.filter (·.1 ≠ name)

/-- The names with an object under one that may be among them. -/
def put (names : NameList) (name : CodePoints) (value : Handle) : NameList :=
  match names.lookup name with
  | some _ => names.replace name value
  | none => names ++ [(name, value)]

theorem lookup_cons_of_ne {value : Handle} (apart : other ≠ name) :
    List.lookup other ((name, value) :: names) = names.lookup other := by
  rw [List.lookup_cons, beq_eq_false_iff_ne.mpr apart]

theorem ne_of_lookup (absent : names.lookup name = none) {pair : CodePoints × Handle}
    (member : pair ∈ names) : pair.1 ≠ name := by
  rintro rfl
  simpa using List.lookup_eq_none_iff.mp absent pair member

theorem lookup_replace : (names.replace name value).lookup other =
    if other = name then (names.lookup name).map fun _ => value else names.lookup other := by
  induction names with
  | nil => split <;> rfl
  | cons pair rest ih =>
    obtain ⟨first, old⟩ := pair
    rw [replace, List.map_cons]
    by_cases same : first = name
    · subst same
      rw [if_pos rfl, List.lookup_cons_self]
      by_cases again : other = first
      · rw [again, if_pos rfl, List.lookup_cons_self, Option.map_some]
      · rw [if_neg again, lookup_cons_of_ne again, lookup_cons_of_ne again]
        exact ih.trans (if_neg again)
    · rw [if_neg same, lookup_cons_of_ne (Ne.symm same)]
      by_cases again : other = first
      · subst again
        rw [if_neg same, List.lookup_cons_self, List.lookup_cons_self]
      · rw [lookup_cons_of_ne again, lookup_cons_of_ne again]
        exact ih

/-- A name that has been given an object has that object, and no other name has another one. -/
theorem lookup_put : (names.put name value).lookup other =
    if other = name then some value else names.lookup other := by
  unfold put
  split
  · rename_i old found
    rw [lookup_replace, found, Option.map_some]
  · rename_i absent
    rw [List.lookup_append]
    by_cases same : other = name
    · rw [same, absent, if_pos rfl, List.lookup_cons_self, Option.none_or]
    · rw [if_neg same, lookup_cons_of_ne same, List.lookup_nil, Option.or_none]

/-- A name that has been taken away has no object, and every other name has the one it had. -/
theorem lookup_erase : (names.erase name).lookup other =
    if other = name then none else names.lookup other := by
  induction names with
  | nil => split <;> rfl
  | cons pair rest ih =>
    obtain ⟨first, old⟩ := pair
    rw [erase, List.filter_cons]
    by_cases same : first = name
    · subst same
      rw [if_neg (by simp)]
      refine ih.trans ?_
      split
      · rfl
      · rename_i again
        rw [lookup_cons_of_ne again]
    · rw [if_pos (by simpa using same)]
      by_cases again : other = first
      · subst again
        rw [if_neg same, List.lookup_cons_self, List.lookup_cons_self]
      · rw [lookup_cons_of_ne again, lookup_cons_of_ne again]
        exact ih

/-- Of names that are apart another object under the first one changes that one only. -/
theorem replace_cons_of_absent {old : Handle} (absent : ∀ pair ∈ names, pair.1 ≠ name) :
    replace ((name, old) :: names) name value = (name, value) :: names := by
  rw [replace, List.map_cons, if_pos rfl]
  refine congrArg (List.cons _) ((List.map_congr_left fun pair member => ?_).trans (List.map_id _))
  rw [if_neg (absent pair member)]
  rfl

theorem erase_cons_of_absent (absent : ∀ pair ∈ names, pair.1 ≠ name) :
    erase ((name, value) :: names) name = names := by
  rw [erase, List.filter_cons_of_neg (by simp)]
  exact List.filter_eq_self.mpr fun pair member => by simpa using absent pair member

theorem mem_replace {pair : CodePoints × Handle} (member : pair ∈ names.replace name value) :
    pair = (name, value) ∨ pair ∈ names := by
  obtain ⟨old, was, rfl⟩ := List.mem_map.mp member
  split
  · exact .inl rfl
  · exact .inr was

theorem mem_put {pair : CodePoints × Handle} (member : pair ∈ names.put name value) :
    pair = (name, value) ∨ pair ∈ names := by
  unfold put at member
  split at member
  · exact mem_replace member
  · exact (List.mem_append.mp member).symm.imp_left List.mem_singleton.mp

theorem mem_foldl_put {pairs : List (String × Handle)} {pair : CodePoints × Handle}
    (member : pair ∈ pairs.foldl (fun names pair => names.put (.ofString pair.1) pair.2) names) :
    pair ∈ names ∨ ∃ put ∈ pairs, put.2 = pair.2 := by
  induction pairs generalizing names with
  | nil => exact .inl member
  | cons first rest ih =>
    obtain was | ⟨put, later, same⟩ := ih member
    · obtain rfl | was := mem_put was
      · exact .inr ⟨first, List.mem_cons_self .., rfl⟩
      · exact .inl was
    · exact .inr ⟨put, List.mem_cons_of_mem _ later, same⟩

/-- To put an object under a name keeps the names apart. -/
theorem distinct_put (distinct : names.Pairwise (·.1 ≠ ·.1)) :
    (names.put name value).Pairwise (·.1 ≠ ·.1) := by
  unfold put
  split
  · have same (pair : CodePoints × Handle) :
        (if pair.1 = name then (name, value) else pair).1 = pair.1 := by
      split
      · rename_i same
        exact same.symm
      · rfl
    rw [replace, List.pairwise_map]
    exact distinct.imp fun {a b} apart => by rwa [same, same]
  · rename_i absent
    refine List.pairwise_append.mpr ⟨distinct, List.pairwise_singleton .., fun pair was new last => ?_⟩
    obtain rfl := List.mem_singleton.mp last
    exact ne_of_lookup absent was

end NameList

/-- An entry of a name with its object. -/
structure Entry.Names (heap : Heap) (entry : Entry) (pair : CodePoints × Handle) : Prop where
  key : heap.get? entry.key = some (.ofCore .str (.text pair.1))
  hash : entry.hash = textHash pair.1.codes
  value : entry.value = pair.2

/-- A dictionary that stands for some names, each with a handle. -/
structure Heap.Lists (heap : Heap) (dict : Handle) (names : NameList) : Prop where
  content : ∃ content : Dictionary, heap.get? dict = some (.ofCore .dict (.dict content)) ∧
    content.Placed ∧ List.Forall₂ (Entry.Names heap) content.entries names
  distinct : names.Pairwise (·.1 ≠ ·.1)

/-- A dictionary that stands for some names with objects that are there. -/
structure Heap.Names (heap : Heap) (dict : Handle) (names : NameList) : Prop where
  content : ∃ content : Dictionary, heap.get? dict = some (.ofCore .dict (.dict content)) ∧
    content.Placed ∧ List.Forall₂ (Entry.Names heap) content.entries names
  distinct : names.Pairwise (·.1 ≠ ·.1)
  present : ∀ pair ∈ names, heap.has pair.2 = true

section

variable {dict : Handle} {names : NameList} {before after : Machine} {filled : Handle → Prop}

theorem Entry.Names.kept {entry : Entry} {pair : CodePoints × Handle}
    (named : entry.Names before.heap pair) (kept : before.Extends filled after) :
    entry.Names after.heap pair :=
  ⟨kept.keeps.cells named.key fun shape => absurd shape (Cell.not_isContainer nofun nofun),
    named.hash, named.value⟩

/-- The names stay unless their dictionary is filled. -/
theorem Heap.Names.kept (named : before.heap.Names dict names) (kept : before.Extends filled after)
    (apart : ¬ filled dict) : after.heap.Names dict names := by
  obtain ⟨⟨content, found, placed, entries⟩, distinct, present⟩ := named
  exact ⟨⟨content, kept.keeps.cells found fun _ => apart, placed,
    entries.imp fun _ _ named => named.kept kept⟩, distinct,
    fun pair member => kept.grows.has (present pair member)⟩

/-- A dictionary that is filled anew stands for what it is filled with. -/
theorem Heap.Lists.refilled {old content : Dictionary}
    (found : before.heap.get? dict = some (.ofCore .dict (.dict old))) (placed : content.Placed)
    (entries : List.Forall₂ (Entry.Names before.heap) content.entries names)
    (distinct : names.Pairwise (·.1 ≠ ·.1)) :
    (before.heap.revise dict (.ofCore .dict (.dict content))).Lists dict names := by
  have kept := Machine.Extends.revise found (.inr rfl) (.ofCore .dict (.dict content))
  refine ⟨⟨content, ?_, placed, entries.imp fun _ _ named => named.kept kept⟩, distinct⟩
  exact Heap.get?_revise_self found (by simp [Cell.isFixed, Cell.ofCore, Cell.of])

theorem Heap.Names.lists (named : before.heap.Names dict names) : before.heap.Lists dict names :=
  ⟨named.content, named.distinct⟩

theorem Heap.Names.has {name : CodePoints} {value : Handle} (named : before.heap.Names dict names)
    (found : names.lookup name = some value) : before.heap.has value = true := by
  obtain ⟨earlier, later, rfl, _⟩ := List.lookup_eq_some_iff.mp found
  exact named.present (name, value) (List.mem_append_right _ (List.mem_cons_self ..))

end

/-- That what stands for texts holds these texts. -/
def Machine.Interns (machine : Machine) : Prop :=
  ∀ entry ∈ machine.interned, machine.heap.get? entry.2 = some (.ofCore .str (.text entry.1))

theorem Machine.Interns.kept {filled : Handle → Prop} {before after : Machine}
    (interns : before.Interns) (kept : before.Extends filled after) : after.Interns := by
  intro entry member
  obtain member | there := kept.interned entry member
  · exact kept.keeps.cells (interns entry member) fun shape =>
      absurd shape (Cell.not_isContainer nofun nofun)
  · exact there

namespace Run

variable {machine : Machine} {dict : Handle} {names : NameList}

theorem on_text? {handle : Handle} {text : CodePoints}
    (found : machine.heap.get? handle = some (.ofCore .str (.text text))) :
    (text? handle).on machine = (.ok (some text), machine) := by
  rw [text?, on_bind _ (on_body found)]
  rfl

/-- The entry that is found for a name has the object of the name. An object that is put into it stands
under the name from then on, and without it the name has none. -/
theorem on_findText {text : CodePoints} {entries : List Entry}
    (holds : List.Forall₂ (Entry.Names machine.heap) entries names)
    (ascending : entries.Pairwise (·.place < ·.place)) (distinct : names.Pairwise (·.1 ≠ ·.1)) :
    (∃ old ∈ entries,
      (findText text (textHash text.codes) entries).on machine = (.ok (some old), machine) ∧
      names.lookup text = some old.value ∧
      (∀ value, List.Forall₂ (Entry.Names machine.heap)
        (entries.map fun entry => if entry.place = old.place then { entry with value } else entry)
        (names.replace text value)) ∧
      List.Forall₂ (Entry.Names machine.heap) (entries.filter (·.place != old.place))
        (names.erase text)) ∨
    (findText text (textHash text.codes) entries).on machine = (.ok none, machine) ∧
      names.lookup text = none := by
  induction holds with
  | nil => exact .inr ⟨rfl, rfl⟩
  | @cons entry pair entries names first rest ih =>
    obtain ⟨name, value⟩ := pair
    obtain ⟨above, ascending⟩ := List.pairwise_cons.mp ascending
    obtain ⟨other, others⟩ := List.pairwise_cons.mp distinct
    obtain ⟨key, hash, rfl⟩ := first
    by_cases same : name = text
    · subst same
      have absent (later : CodePoints × Handle) (member : later ∈ names) : later.1 ≠ name :=
        (other later member).symm
      refine .inl ⟨entry, List.mem_cons_self .., ?_, List.lookup_cons_self, fun value => ?_, ?_⟩
      · rw [findText, on_bind _ (on_text? key), if_pos ⟨hash, rfl⟩]
        rfl
      · rw [List.map_cons, if_pos rfl, Entry.map_replace_of_above value above,
          NameList.replace_cons_of_absent absent]
        exact .cons ⟨key, hash, rfl⟩ rest
      · have entriesKept : entries.filter (·.place != entry.place) = entries :=
          List.filter_eq_self.mpr fun later member => by
            simpa using Nat.ne_of_gt (above later member)
        rw [List.filter_cons_of_neg (by simp), entriesKept, NameList.erase_cons_of_absent absent]
        exact rest
    · have skip : (findText text (textHash text.codes) (entry :: entries)).on machine =
          (findText text (textHash text.codes) entries).on machine := by
        rw [findText, on_bind _ (on_text? key), if_neg fun both => same (Option.some.inj both.2)]
      rw [skip, NameList.lookup_cons_of_ne (Ne.symm same)]
      refine (ih ascending others).imp_left fun ⟨old, member, step, found, replaced, erased⟩ => ?_
      have apart : entry.place ≠ old.place := Nat.ne_of_lt (above old member)
      refine ⟨old, List.mem_cons_of_mem _ member, step, found, fun value => ?_, ?_⟩
      · rw [List.map_cons, if_neg apart, NameList.replace, List.map_cons, if_neg same]
        exact .cons ⟨key, hash, rfl⟩ (replaced value)
      · rw [List.filter_cons_of_pos (by simpa using apart), NameList.erase,
          List.filter_cons_of_pos (by simpa using same)]
        exact .cons ⟨key, hash, rfl⟩ erased

theorem on_entryNamed? {cell : Cell} {content : Dictionary} (found : machine.heap.get? dict = some cell)
    (shape : cell.body = .dict content) (name : String) : (entryNamed? dict name).on machine =
      (findText (.ofString name) (textHash (CodePoints.ofString name).codes) content.entries).on
        machine := by
  rw [entryNamed?, on_bind _ (on_dictionary found shape)]

/-- A name is looked up in what a dictionary stands for. -/
theorem on_getName? (named : machine.heap.Names dict names) (name : String) :
    (getName? dict name).on machine = (.ok (names.lookup (.ofString name)), machine) := by
  obtain ⟨⟨content, found, placed, entries⟩, distinct, _⟩ := named
  have entry := on_entryNamed? found rfl name
  obtain ⟨old, _, step, there, _⟩ | ⟨step, absent⟩ := on_findText entries placed.ascending distinct
  · rw [getName?, on_bind _ (entry.trans step), there]
    rfl
  · rw [getName?, on_bind _ (entry.trans step), absent]
    rfl

/-- An object for a text is there already, or it is one more. -/
theorem on_newText (sound : machine.heap.Sound) (text : CodePoints) :
    ∃ handle after, (newText text).on machine = (.ok handle, after) ∧
      machine.Extends (fun _ => False) after ∧
      after.heap.get? handle = some (.ofCore .str (.text text)) := by
  unfold newText
  split
  · rename_i handle short
    exact ⟨handle, machine, rfl, .refl _ _,
      sound.fixed (Fixed.get?_text short) (by simp [Cell.isFixed, Cell.ofCore, Cell.of])⟩
  · exact ⟨_, _, rfl, .new machine _, Heap.get?_add_self _ _⟩

/-- What is recognised as a text holds it. -/
theorem get?_of_isText {heap : Heap} {handle : Handle} {text : CodePoints}
    (isText : heap.isText handle text = true) :
    heap.get? handle = some (.ofCore .str (.text text)) := by
  rw [Heap.isText, Option.any_eq_true] at isText
  obtain ⟨cell, found, holds⟩ := isText
  rw [found]
  unfold Cell.isText at holds
  split at holds
  · rename_i type codes
    simp only [Bool.and_eq_true, beq_iff_eq] at holds
    obtain ⟨rfl, rfl⟩ := holds
    rfl
  · cases holds

/-- The object that stands for a text holds it. -/
theorem on_internText (sound : machine.heap.Sound) (text : CodePoints) :
    ∃ handle after, (internText text).on machine = (.ok handle, after) ∧
      machine.Extends (fun _ => False) after ∧
      after.heap.get? handle = some (.ofCore .str (.text text)) := by
  unfold internText
  split
  · rename_i handle short
    exact ⟨handle, machine, rfl, .refl _ _,
      sound.fixed (Fixed.get?_text short) (by simp [Cell.isFixed, Cell.ofCore, Cell.of])⟩
  · rw [on_bind _ on_machine]
    cases found : machine.interned.find? fun entry =>
        entry.1 == text && machine.heap.isText entry.2 text with
    | some entry =>
      have both := List.find?_some found
      rw [Bool.and_eq_true] at both
      exact ⟨entry.2, machine, rfl, .refl _ _, get?_of_isText both.2⟩
    | none =>
      have holds := Heap.get?_add_self machine.heap (.ofCore .str (.text text))
      exact ⟨_, _, rfl, (Machine.Extends.new machine _).trans (.intern holds), holds⟩

/-- To put a handle under a name is to put it among the names that a dictionary stands for. -/
theorem on_putName_lists (sound : machine.heap.Sound) (listed : machine.heap.Lists dict names)
    (value : Handle) (name : String) : ∃ after,
      (putName dict name value).on machine = (.ok (), after) ∧ machine.Extends (· = dict) after ∧
      after.heap.Lists dict (names.put (.ofString name) value) := by
  obtain ⟨⟨content, found, placed, entries⟩, distinct⟩ := listed
  have distinct := @NameList.distinct_put names (.ofString name) value distinct
  have entry := on_entryNamed? found rfl name
  obtain ⟨old, _, step, before, replaced, _⟩ | ⟨step, absent⟩ :=
    on_findText entries placed.ascending (by assumption)
  · have same : names.put (.ofString name) value = names.replace (.ofString name) value := by
      rw [NameList.put, before]
    rw [same] at distinct ⊢
    refine ⟨_, ?_, .revise found (.inr rfl) _, .refilled found (placed.replace old.place value)
      (replaced value) distinct⟩
    rw [putName, on_bind _ (entry.trans step)]
    exact (on_bind _ (on_dictionary found rfl)).trans (on_setBody found _)
  · have same : names.put (.ofString name) value = names ++ [(.ofString name, value)] := by
      rw [NameList.put, absent]
    rw [same] at distinct ⊢
    obtain ⟨key, middle, interned, kept, holds⟩ := on_internText sound (.ofString name)
    have still := kept.cell found
    refine ⟨_, ?_, kept.all.trans (.revise still (.inr rfl) _), .refilled still
      (placed.insert (textHash (CodePoints.ofString name).codes) key value)
      (List.rel_append (entries.imp fun _ _ named => named.kept kept)
        (.cons ⟨holds, rfl, rfl⟩ .nil)) distinct⟩
    rw [putName, on_bind _ (entry.trans step)]
    refine (on_bind _ interned).trans ?_
    exact (on_bind _ (on_dictionary still rfl)).trans (on_setBody still _)

/-- To put an object under a name is to put it among the names that a dictionary stands for. -/
theorem on_putName {value : Handle} (sound : machine.heap.Sound)
    (named : machine.heap.Names dict names) (present : machine.heap.has value = true)
    (name : String) : ∃ after, (putName dict name value).on machine = (.ok (), after) ∧
      machine.Extends (· = dict) after ∧ after.heap.Names dict (names.put (.ofString name) value) := by
  obtain ⟨after, step, kept, listed⟩ := on_putName_lists sound named.lists value name
  refine ⟨after, step, kept, listed.content, listed.distinct, fun pair member => kept.grows.has ?_⟩
  obtain rfl | was := NameList.mem_put member
  · exact present
  · exact named.present pair was

/-- To put handles under several names is to put them among the names one after the other. -/
theorem on_putNames_lists (sound : machine.heap.Sound) (listed : machine.heap.Lists dict names)
    (pairs : List (String × Handle)) : ∃ after,
      (putNames dict pairs).on machine = (.ok (), after) ∧ machine.Extends (· = dict) after ∧
      after.heap.Lists dict
        (pairs.foldl (fun names pair => names.put (.ofString pair.1) pair.2) names) := by
  induction pairs generalizing machine names with
  | nil => exact ⟨machine, rfl, .refl _ _, listed⟩
  | cons pair rest ih =>
    obtain ⟨middle, step, early, listed⟩ := on_putName_lists sound listed pair.2 pair.1
    obtain ⟨after, more, late, listed⟩ := ih (early.sound sound) listed
    exact ⟨after, (on_bind _ step).trans more, early.trans late, listed⟩

/-- To put objects under several names is to put them among the names one after the other. -/
theorem on_putNames {pairs : List (String × Handle)} (sound : machine.heap.Sound)
    (named : machine.heap.Names dict names) (present : ∀ pair ∈ pairs, machine.heap.has pair.2 = true) :
    ∃ after, (putNames dict pairs).on machine = (.ok (), after) ∧
      machine.Extends (· = dict) after ∧ after.heap.Names dict
        (pairs.foldl (fun names pair => names.put (.ofString pair.1) pair.2) names) := by
  obtain ⟨after, step, kept, listed⟩ := on_putNames_lists sound named.lists pairs
  refine ⟨after, step, kept, listed.content, listed.distinct, fun pair member => kept.grows.has ?_⟩
  obtain was | ⟨put, among, same⟩ := NameList.mem_foldl_put member
  · exact named.present pair was
  · exact same ▸ present put among

/-- To take a name away is to take it from the names that a dictionary stands for. -/
theorem on_dropName (named : machine.heap.Names dict names) (name : String) :
    ∃ found after, (dropName dict name).on machine = (.ok found, after) ∧
      machine.Extends (· = dict) after ∧ after.heap.Names dict (names.erase (.ofString name)) := by
  obtain ⟨⟨content, found, placed, entries⟩, distinct, there⟩ := named
  have entry := on_entryNamed? found rfl name
  obtain ⟨old, _, step, _, _, erased⟩ | ⟨step, absent⟩ :=
    on_findText entries placed.ascending distinct
  · have kept := Machine.Extends.revise found (.inr rfl) (.ofCore .dict (.dict (content.erase old.place)))
    have listed := Heap.Lists.refilled found (placed.erase old.place) erased (distinct.filter _)
    refine ⟨true, _, ?_, kept, listed.content, listed.distinct, fun pair member =>
      kept.grows.has (there pair (List.mem_filter.mp member).1)⟩
    rw [dropName, on_bind _ (entry.trans step)]
    refine (on_bind _ (on_dictionary found rfl)).trans ?_
    rw [on_bind _ (on_setBody found _)]
    rfl
  · have same : names.erase (.ofString name) = names := List.filter_eq_self.mpr fun pair member => by
      simpa using NameList.ne_of_lookup absent member
    rw [same]
    refine ⟨false, machine, ?_, .refl _ _, ⟨content, found, placed, entries⟩, distinct, there⟩
    rw [dropName, on_bind _ (entry.trans step)]
    rfl

/-! Names under objects that hold them. -/

private theorem ofCell?_text (text : CodePoints) :
    Scalar.ofCell? (.ofCore .str (.text text)) = some (.text text) := by
  simp [Scalar.ofCell?, Scalar.ofBody?, Cell.ofCore, Cell.of]

/-- Texts are one key if they are equal. -/
theorem on_isKey_text (invoke : Invoke) (sound : machine.heap.Sound) {a b : Handle} {s t : CodePoints}
    (left : machine.heap.get? a = some (.ofCore .str (.text s)))
    (right : machine.heap.get? b = some (.ofCore .str (.text t))) :
    (isKey invoke a b).on machine = (.ok (s == t), machine) := by
  unfold isKey
  split
  · rename_i same
    rw [same, right] at left
    cases left
    rw [beq_self_eq_true]
    rfl
  · have answer : (compare invoke .equal a b).on machine = (.ok (truth (s == t)), machine) := by
      rw [compare, on_bind _ (on_cell left), on_bind _ (on_cell right), ofCell?_text, ofCell?_text]
      rfl
    rw [on_bind _ answer, on_isTrue invoke sound]

/-- A name is found under any object that holds it. -/
theorem on_dictGet? (invoke : Invoke) (sound : machine.heap.Sound)
    (named : machine.heap.Names dict names) {key : Handle} {text : CodePoints}
    (holds : machine.heap.get? key = some (.ofCore .str (.text text))) :
    (dictGet? invoke dict key).on machine = (.ok (names.lookup text), machine) := by
  obtain ⟨⟨content, found, _, entries⟩, _, _⟩ := named
  have hash : (hashOf invoke key).on machine = (.ok (textHash text.codes), machine) := by
    rw [hashOf, hashDepth, hashWithin, on_bind _ (on_cell holds), ofCell?_text]
    rfl
  have search {entries : List Entry} {names : NameList}
      (named : List.Forall₂ (Entry.Names machine.heap) entries names) :
      ∃ entry, (findEntry invoke (textHash text.codes) key entries).on machine =
        (.ok entry, machine) ∧ entry.map (·.value) = names.lookup text := by
    induction named with
    | nil => exact ⟨none, rfl, rfl⟩
    | @cons entry pair entries names first rest ih =>
      obtain ⟨name, value⟩ := pair
      obtain ⟨there, hashed, worth⟩ := first
      by_cases same : name = text
      · subst same
        refine ⟨some entry, ?_, ?_⟩
        · rw [findEntry, if_pos hashed, on_bind _ (on_isKey_text invoke sound there holds),
            beq_self_eq_true]
          rfl
        · rw [List.lookup_cons_self]
          exact congrArg some worth
      · obtain ⟨found, step, lookup⟩ := ih
        refine ⟨found, ?_, by rw [lookup, NameList.lookup_cons_of_ne (Ne.symm same)]⟩
        rw [findEntry]
        split
        · rw [on_bind _ (on_isKey_text invoke sound there holds), beq_eq_false_iff_ne.mpr same]
          exact step
        · exact step
  obtain ⟨entry, step, lookup⟩ := search entries
  have entryStep : (entryUnder? invoke dict key).on machine = (.ok entry, machine) := by
    rw [entryUnder?, on_bind _ hash, on_bind _ (on_dictionary found rfl), step]
  rw [dictGet?, on_bind _ entryStep, ← lookup]
  rfl

end Run

end ForeignBridge.Foreign
