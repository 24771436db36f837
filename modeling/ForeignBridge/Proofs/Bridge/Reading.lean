import ForeignBridge.Proofs.Bridge.Holding
import ForeignBridge.Proofs.Foreign.Keeps
import ForeignBridge.Proofs.Foreign.Keys

/-! # What objects read as

A session that knows the interpreter's own classes reads numbers and texts as they are. What an
object reads as depends on the cells below it only, and stays the same while other objects come to be
and while dictionaries that are older are filled.
-/

namespace ForeignBridge

open Foreign

/-- The class of the objects of a kind. -/
def Kind.core : Kind → Core
  | none => .noneType
  | bool => .bool
  | int => .int
  | float => .float
  | str => .str
  | list => .list
  | dict => .dict

namespace Session

/-- A session that knows the interpreter's own classes and its singleton. -/
structure Standard (session : Session) : Prop where
  none : session.none = Fixed.none
  bool : session.boolClass = Core.bool.handle
  int : session.intClass = Core.int.handle
  float : session.floatClass = Core.float.handle
  str : session.strClass = Core.str.handle
  list : session.listClass = Core.list.handle
  dict : session.dictClass = Core.dict.handle

/-- The session whose objects are the fixed ones. -/
def ofFixed : Session where
  builtins := Fixed.builtins
  none := Fixed.none
  boolClass := Core.bool.handle
  intClass := Core.int.handle
  floatClass := Core.float.handle
  strClass := Core.str.handle
  listClass := Core.list.handle
  dictClass := Core.dict.handle

theorem standard_ofFixed : ofFixed.Standard := ⟨rfl, rfl, rfl, rfl, rfl, rfl, rfl⟩

variable {session : Session} {handle : Handle}

theorem Standard.kind?_none (standard : session.Standard) (cls : Handle) :
    session.kind? Fixed.none cls = some .none := by
  rw [kind?, Heap.not_isNull_of_get? Fixed.get?_none, if_neg Bool.false_ne_true,
    if_pos standard.none.symm]

theorem Standard.kind?_core (standard : session.Standard) (kind : Kind) (apart : kind ≠ .none)
    (present : handle.isNull = false) (other : handle ≠ Fixed.none) :
    session.kind? handle kind.core.handle = some kind := by
  rw [kind?, present, if_neg Bool.false_ne_true, if_neg (standard.none ▸ other), classes,
    standard.bool, standard.int, standard.float, standard.str, standard.list, standard.dict]
  cases kind with
  | none => exact (apart rfl).elim
  | bool => rfl
  | int => rfl
  | float => rfl
  | str => rfl
  | list => rfl
  | dict => rfl

end Session

namespace Value

/-- The cell of the object of a value without parts. -/
def cell? : Value → Option Cell
  | null => some (.ofCore .noneType .plain)
  | bool b => some (.ofCore .bool (.int (if b then 1 else 0)))
  | int n => some (.ofCore .int (.int n.toInt))
  | float x => some (.ofCore .float (.float x))
  | text s => some (.ofCore .str (.text (.ofString s)))
  | _ => none

/-- The cell of a value without parts holds the scalar of the value. -/
theorem ofCell?_of_cell? {value : Value} {cell : Cell} (stands : value.cell? = some cell) :
    ∃ scalar, value.scalar? = some scalar ∧ Scalar.ofCell? cell = some scalar ∧
      (scalar = .none → value = .null) := by
  cases value <;> cases stands <;>
    exact ⟨_, rfl, by simp [Scalar.ofCell?, Scalar.ofBody?, Cell.ofCore, Cell.of], by simp⟩

section

variable {session : Session} {heap : Heap} {room : ℕ} {path : List Handle} {handle : Handle}
  {cell : Cell}

theorem readWithin_absent (absent : heap.get? handle = none) :
    readWithin session heap room path handle = .ok null := by
  rw [readWithin.eq_def, absent]

/-- An object of a kind without parts has the value of a scalar. -/
theorem readWithin_scalar {kind : Kind} (found : heap.get? handle = some cell)
    (known : session.kind? handle cell.type = some kind) (noList : kind ≠ .list)
    (noDict : kind ≠ .dict) :
    readWithin session heap room path handle = ofScalar handle (some kind) cell.body := by
  rw [readWithin.eq_def, found]
  simp only [known]
  split
  · rename_i same _
    exact (noList (Option.some.inj same)).elim
  · rename_i same _
    exact (noDict (Option.some.inj same)).elim
  · rfl

/-- An object of a class that the session does not recognise is left as it is. -/
theorem readWithin_unknown (found : heap.get? handle = some cell)
    (unknown : session.kind? handle cell.type = none) :
    readWithin session heap room path handle = .ok (object handle) := by
  rw [readWithin.eq_def, found]
  simp only [unknown]
  rfl

/-- A list that is not among its own surroundings is read item by item. -/
theorem readWithin_list {items : List Handle} (found : heap.get? handle = some cell)
    (known : session.kind? handle cell.type = some .list) (shape : cell.body = .list items) :
    readWithin session heap room path handle =
      if path.contains handle then .ok (object handle)
      else match room with
        | 0 => .ok (object handle)
        | room + 1 => do
          let values ← items.mapM (readWithin session heap room (handle :: path))
          return list values := by
  rw [readWithin.eq_def, found]
  cases room with
  | zero => simp only [known, shape]
  | succ room => simp only [known, shape]

/-- A dictionary that is not among its own surroundings is read entry by entry. -/
theorem readWithin_dict {content : Dictionary} (found : heap.get? handle = some cell)
    (known : session.kind? handle cell.type = some .dict) (shape : cell.body = .dict content) :
    readWithin session heap room path handle =
      if path.contains handle then .ok (object handle)
      else match room with
        | 0 => .ok (object handle)
        | room + 1 => do
          let pairs ← content.entries.mapM fun entry => do
            let key ← readWithin session heap room (handle :: path) entry.key
            let value ← readWithin session heap room (handle :: path) entry.value
            return (key, value)
          return map pairs := by
  rw [readWithin.eq_def, found]
  cases room with
  | zero => simp only [known, shape]
  | succ room => simp only [known, shape]

end

theorem mapM_eq_ok_iff {α β ε : Type} {f : α → Except ε β} {parts : List α} {results : List β} :
    parts.mapM f = .ok results ↔ List.Forall₂ (fun part result => f part = .ok result) parts results := by
  induction parts generalizing results with
  | nil =>
    rw [List.mapM_nil, List.forall₂_nil_left_iff]
    exact ⟨fun same => (Except.ok.inj same).symm, fun same => same ▸ rfl⟩
  | cons part rest ih =>
    rw [List.mapM_cons, List.forall₂_cons_left_iff]
    constructor
    · intro same
      cases first : f part with
      | error error => rw [first] at same; cases same
      | ok result =>
        cases others : rest.mapM f with
        | error error => rw [first, others] at same; cases same
        | ok more =>
          rw [first, others] at same
          exact ⟨result, more, rfl, ih.mp others, (Except.ok.inj same).symm⟩
    · rintro ⟨result, more, first, others, rfl⟩
      rw [first, ih.mpr others]
      rfl

theorem ofInt_toInt (n : Int64) : ofInt n.toInt = .ok (.int n) := by
  have fits : FitsInt64 n.toInt := ⟨n.le_toInt, n.toInt_lt⟩
  rw [ofInt, if_pos fits, Int64.ofInt_toInt]

theorem ofCodePoints_ofString (text : String) : ofCodePoints (.ofString text) = .text text := by
  rw [ofCodePoints, CodePoints.string?_ofString]

end Value

/-- An object of a class that the session does not recognise. -/
def Session.LeavesAlone (session : Session) (heap : Heap) (handle : Handle) : Prop :=
  ∃ cell, heap.get? handle = some cell ∧ session.kind? handle cell.type = .none

theorem Session.LeavesAlone.keeps {session : Session} {filled : Handle → Prop} {heap later : Heap}
    {handle : Handle} (alone : session.LeavesAlone heap handle) (standard : session.Standard)
    (kept : heap.Keeps filled later) : session.LeavesAlone later handle := by
  obtain ⟨cell, found, unknown⟩ := alone
  refine ⟨cell, kept.cells found fun shape => ?_, unknown⟩
  have other : handle ≠ Fixed.none := by
    rintro rfl
    rw [standard.kind?_none] at unknown
    cases unknown
  have known (kind : Kind) (apart : kind ≠ .none) :=
    standard.kind?_core kind apart (Heap.not_isNull_of_get? found) other
  rcases shape with same | same <;> rw [same] at unknown
  · cases (known .list nofun).symm.trans unknown
  · cases (known .dict nofun).symm.trans unknown

/-- What an object reads as from now on, inside containers that are older than some address or still
to come, while older containers may be filled. -/
def ReadsAs (session : Session) (low : ℕ) (heap : Heap) (depth : ℕ) (handle : Handle)
    (value : Value) : Prop :=
  ∀ later, heap.Keeps (·.address ≤ low) later → ∀ room path, depth ≤ room →
    (∀ outer ∈ path, outer.address ≤ low ∨ heap.cells.size < outer.address) →
    Value.readWithin session later room path handle = .ok value

namespace ReadsAs

variable {session : Session} {low depth : ℕ} {heap : Heap} {handle : Handle} {value : Value}

theorem later {next : Heap} (reads : ReadsAs session low heap depth handle value)
    (kept : heap.Keeps (·.address ≤ low) next) : ReadsAs session low next depth handle value := by
  intro later still room path enough outside
  exact reads later (kept.trans still) room path enough fun outer member =>
    (outside outer member).imp_right kept.size.trans_lt

theorem lower {less : ℕ} (reads : ReadsAs session low heap depth handle value) (le : less ≤ low) :
    ReadsAs session less heap depth handle value := by
  intro later kept room path enough outside
  exact reads later (kept.mono fun _ old => old.trans le) room path enough fun outer member =>
    (outside outer member).imp_left (·.trans le)

theorem deepen {more : ℕ} (reads : ReadsAs session low heap depth handle value)
    (le : depth ≤ more) : ReadsAs session low heap more handle value :=
  fun later kept room path enough => reads later kept room path (le.trans enough)

/-- A value without parts is read off its cell. -/
theorem of_cell {cell : Cell} (standard : session.Standard)
    (single : heap.get? Fixed.none = some (.ofCore .noneType .plain))
    (found : heap.get? handle = some cell) (stands : value.cell? = some cell)
    (nothing : value = .null → handle = Fixed.none) : ReadsAs session low heap 0 handle value := by
  have present := Heap.not_isNull_of_get? found
  have other : value ≠ .null → handle ≠ Fixed.none := by
    rintro some rfl
    rw [single, Option.some.injEq] at found
    subst found
    cases value <;> cases stands
    exact some rfl
  have known (kind : Kind) (apart : kind ≠ .none) (notNull : value ≠ .null) :
      session.kind? handle kind.core.handle = some kind :=
    standard.kind?_core kind apart present (other notNull)
  have plain : ¬ cell.IsContainer := by
    cases value <;> cases stands <;> exact Cell.not_isContainer nofun nofun
  intro later kept room path _ _
  have there := kept.cells found fun shape => (plain shape).elim
  cases value with
  | null =>
    obtain rfl := nothing rfl
    rw [Value.readWithin_scalar there (standard.kind?_none _) nofun nofun]
    rfl
  | bool b =>
    obtain rfl := Option.some.inj stands
    rw [Value.readWithin_scalar there (known .bool nofun nofun) nofun nofun]
    cases b <;> rfl
  | int n =>
    obtain rfl := Option.some.inj stands
    rw [Value.readWithin_scalar there (known .int nofun nofun) nofun nofun]
    exact Value.ofInt_toInt n
  | float x =>
    obtain rfl := Option.some.inj stands
    rw [Value.readWithin_scalar there (known .float nofun nofun) nofun nofun]
    rfl
  | text s =>
    obtain rfl := Option.some.inj stands
    rw [Value.readWithin_scalar there (known .str nofun nofun) nofun nofun]
    exact congrArg Except.ok (Value.ofCodePoints_ofString s)
  | list items => cases stands
  | map pairs => cases stands
  | record fields => cases stands
  | object handle => cases stands
  | function identity => cases stands

/-- An object of an unknown class is left as it is. -/
theorem of_alone (alone : session.LeavesAlone heap handle) (standard : session.Standard) :
    ReadsAs session low heap depth handle (.object handle) := by
  intro later kept room path _ _
  obtain ⟨cell, found, unknown⟩ := alone.keeps standard kept
  exact Value.readWithin_unknown found unknown

/-- What is not older than some address, nor still to come, is not among the surroundings. -/
private theorem not_contains {path : List Handle} (new : low < handle.address)
    (there : handle.address ≤ heap.cells.size)
    (outside : ∀ outer ∈ path, outer.address ≤ low ∨ heap.cells.size < outer.address) :
    path.contains handle = false := by
  rw [← Bool.not_eq_true, List.contains_iff_mem]
  intro member
  rcases outside handle member with old | later <;> omega

/-- What a part of a container reads as once the container is entered. -/
private theorem part {part : Handle} {later : Heap} {room : ℕ} {path : List Handle}
    (reads : ReadsAs session handle.address heap depth part value) (new : low < handle.address)
    (still : heap.Keeps (·.address ≤ low) later) (enough : depth ≤ room)
    (outside : ∀ outer ∈ path, outer.address ≤ low ∨ heap.cells.size < outer.address) :
    Value.readWithin session later room (handle :: path) part = .ok value := by
  refine reads later (still.mono fun _ old => old.trans new.le) room _ enough fun outer member => ?_
  obtain rfl | member := List.mem_cons.mp member
  · exact .inl (Nat.le_refl _)
  · exact (outside outer member).imp_left (·.trans new.le)

/-- A list whose items may be older or newer reads as the list of what these read as. -/
theorem of_list {items : List Handle} {values : List Value}
    (standard : session.Standard) (found : heap.get? handle = some (.ofCore .list (.list items)))
    (other : handle ≠ Fixed.none) (new : low < handle.address)
    (holds : List.Forall₂ (ReadsAs session handle.address heap depth) items values) :
    ReadsAs session low heap (depth + 1) handle (.list values) := by
  have present := Heap.not_isNull_of_get? found
  have known : session.kind? handle Core.list.handle = some .list :=
    standard.kind?_core .list nofun present other
  intro later still room path enough outside
  have there := still.cells found fun _ => Nat.not_le_of_lt new
  rw [Value.readWithin_list there known rfl,
    not_contains new (Heap.address_le_of_get? found).2 outside, if_neg Bool.false_ne_true]
  obtain ⟨room, rfl⟩ : ∃ less, room = less + 1 := ⟨room - 1, by omega⟩
  have inner : items.mapM (Value.readWithin session later room (handle :: path)) = .ok values :=
    Value.mapM_eq_ok_iff.mpr (holds.imp fun _ _ reads => part reads new still (by omega) outside)
  simp only [inner]
  rfl

/-- A dictionary whose entries may be older or newer reads as the map of what these read as. -/
theorem of_dict {content : Dictionary} {pairs : List (Value × Value)}
    (standard : session.Standard) (found : heap.get? handle = some (.ofCore .dict (.dict content)))
    (other : handle ≠ Fixed.none) (new : low < handle.address)
    (holds : List.Forall₂ (Entry.Holds heap (ReadsAs session handle.address heap depth))
      content.entries pairs) :
    ReadsAs session low heap (depth + 1) handle (.map pairs) := by
  have present := Heap.not_isNull_of_get? found
  have known : session.kind? handle Core.dict.handle = some .dict :=
    standard.kind?_core .dict nofun present other
  intro later still room path enough outside
  have there := still.cells found fun _ => Nat.not_le_of_lt new
  rw [Value.readWithin_dict there known rfl,
    not_contains new (Heap.address_le_of_get? found).2 outside, if_neg Bool.false_ne_true]
  obtain ⟨room, rfl⟩ : ∃ less, room = less + 1 := ⟨room - 1, by omega⟩
  have inner : content.entries.mapM (fun entry => do
      let key ← Value.readWithin session later room (handle :: path) entry.key
      let value ← Value.readWithin session later room (handle :: path) entry.value
      return (key, value)) = .ok pairs := by
    refine Value.mapM_eq_ok_iff.mpr (holds.imp fun entry pair held => ?_)
    rw [part held.key new still (by omega) outside, part held.value new still (by omega) outside]
    rfl
  simp only [inner]
  rfl

end ReadsAs

end ForeignBridge
