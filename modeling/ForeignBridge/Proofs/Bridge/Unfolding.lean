import ForeignBridge.Proofs.Bridge.Reading

/-! # The unfolding of a graph

Objects refer to one another in any way whatever. What is read of one of them is the graph unfolded
along each path: a container is read as often as paths lead to it, and a path ends at a container that
is on it already, at the 513th container, and at an object of any other sort.
-/

namespace ForeignBridge

open Foreign

/-- What a session sees in an object. -/
inductive Sight where
  | null
  | bool (value : Bool)
  | int (value : ℤ)
  | float (value : Double)
  | text (codes : CodePoints)
  | list (items : List Handle)
  | dict (entries : List Entry)
  | other

/-- Whether what is seen is a container. -/
def Sight.isContainer : Sight → Bool
  | list _ | dict _ => true
  | _ => false

namespace Session

/-- What a session sees in an object: the object is of a kind if its class is the very class of that
kind, and nothing else counts but what the class keeps in it. -/
def sees (session : Session) (heap : Heap) (handle : Handle) : Sight :=
  match heap.get? handle with
  | .none => .null
  | .some cell =>
    match session.kind? handle cell.type, cell.body with
    | some .none, _ => .null
    | some .bool, .int n => .bool (n == 1)
    | some .int, .int n => .int n
    | some .float, .float x => .float x
    | some .str, .text codes => .text codes
    | some .str, _ => .null
    | some .list, .list items => .list items
    | some .dict, .dict content => .dict content.entries
    | _, _ => .other

/-- What a path through the graph comes to, given the containers that it has come through. -/
inductive Unfolds (session : Session) (heap : Heap) : List Handle → Handle → Value → Prop
  | null {path handle} (seen : session.sees heap handle = .null) :
    Unfolds session heap path handle .null
  | bool {path handle b} (seen : session.sees heap handle = .bool b) :
    Unfolds session heap path handle (.bool b)
  | int {path handle n} (seen : session.sees heap handle = .int n) (fits : FitsInt64 n) :
    Unfolds session heap path handle (.int (Int64.ofInt n))
  | largeInt {path handle n} (seen : session.sees heap handle = .int n) (large : ¬ FitsInt64 n)
    (near : (Double.ofInt n).isFinite = true) :
    Unfolds session heap path handle (.float (.ofInt n))
  | float {path handle x} (seen : session.sees heap handle = .float x) :
    Unfolds session heap path handle (.float x)
  | text {path handle codes s} (seen : session.sees heap handle = .text codes)
    (string : codes.string? = some s) : Unfolds session heap path handle (.text s)
  | noText {path handle codes} (seen : session.sees heap handle = .text codes)
    (surrogate : codes.string? = .none) : Unfolds session heap path handle .null
  | list {path handle items} {values : List Value} (seen : session.sees heap handle = .list items)
    (new : handle ∉ path) (room : path.length < 512) (count : items.length = values.length)
    (parts : ∀ (i : ℕ) item value, items[i]? = some item → values[i]? = some value →
      Unfolds session heap (handle :: path) item value) :
    Unfolds session heap path handle (.list values)
  | dict {path handle entries} {pairs : List (Value × Value)} (seen : session.sees heap handle = .dict entries)
    (new : handle ∉ path) (room : path.length < 512) (count : entries.length = pairs.length)
    (keys : ∀ (i : ℕ) entry pair, entries[i]? = some entry → pairs[i]? = some pair →
      Unfolds session heap (handle :: path) entry.key pair.1)
    (values : ∀ (i : ℕ) entry pair, entries[i]? = some entry → pairs[i]? = some pair →
      Unfolds session heap (handle :: path) entry.value pair.2) :
    Unfolds session heap path handle (.map pairs)
  | other {path handle} (seen : session.sees heap handle = .other) :
    Unfolds session heap path handle (.object handle)
  | again {path handle} (seen : (session.sees heap handle).isContainer = true)
    (old : handle ∈ path) : Unfolds session heap path handle (.object handle)
  | deep {path handle} (seen : (session.sees heap handle).isContainer = true)
    (full : path.length = 512) : Unfolds session heap path handle (.object handle)

private theorem forall₂_iff_getElem? {α β : Type} {related : α → β → Prop} {left : List α}
    {right : List β} : List.Forall₂ related left right ↔ left.length = right.length ∧
      ∀ (i : ℕ) a b, left[i]? = some a → right[i]? = some b → related a b := by
  induction left generalizing right with
  | nil => cases right <;> simp
  | cons a left ih =>
    cases right with
    | nil => simp
    | cons b right =>
      rw [List.forall₂_cons, ih, List.length_cons, List.length_cons, Nat.add_right_cancel_iff]
      constructor
      · rintro ⟨first, count, rest⟩
        refine ⟨count, fun i => ?_⟩
        cases i with
        | zero => simpa using first
        | succ i => simpa using rest i
      · rintro ⟨count, all⟩
        exact ⟨all 0 a b rfl rfl, count, fun i => by simpa using all (i + 1)⟩

variable {session : Session} {heap : Heap} {path : List Handle} {handle : Handle} {value : Value}

/-- What a path comes to goes by what the session sees at its end. -/
theorem unfolds_iff : session.Unfolds heap path handle value ↔
    match session.sees heap handle with
    | .null => value = .null
    | .bool b => value = .bool b
    | .int n => FitsInt64 n ∧ value = .int (Int64.ofInt n) ∨
        ¬ FitsInt64 n ∧ (Double.ofInt n).isFinite = true ∧ value = .float (.ofInt n)
    | .float x => value = .float x
    | .text codes => value = Value.ofCodePoints codes
    | .list items => (handle ∈ path ∨ path.length = 512) ∧ value = .object handle ∨
        handle ∉ path ∧ path.length < 512 ∧ ∃ values, value = .list values ∧
          List.Forall₂ (session.Unfolds heap (handle :: path)) items values
    | .dict entries => (handle ∈ path ∨ path.length = 512) ∧ value = .object handle ∨
        handle ∉ path ∧ path.length < 512 ∧ ∃ pairs, value = .map pairs ∧
          List.Forall₂ (fun entry pair => session.Unfolds heap (handle :: path) entry.key pair.1 ∧
            session.Unfolds heap (handle :: path) entry.value pair.2) entries pairs
    | .other => value = .object handle := by
  constructor
  · intro unfolds
    cases unfolds with
    | null seen | bool seen | float seen | other seen => rw [seen]
    | int seen fits => rw [seen]; exact .inl ⟨fits, rfl⟩
    | largeInt seen large near => rw [seen]; exact .inr ⟨large, near, rfl⟩
    | text seen string => rw [seen]; simp only [Value.ofCodePoints, string]
    | noText seen surrogate => rw [seen]; simp only [Value.ofCodePoints, surrogate]
    | list seen new room count parts =>
      rw [seen]
      exact .inr ⟨new, room, _, rfl, forall₂_iff_getElem?.mpr ⟨count, parts⟩⟩
    | dict seen new room count keys values =>
      rw [seen]
      refine .inr ⟨new, room, _, rfl, forall₂_iff_getElem?.mpr ⟨count, fun i entry pair one two => ?_⟩⟩
      exact ⟨keys i entry pair one two, values i entry pair one two⟩
    | again seen old =>
      cases sight : session.sees heap handle <;> rw [sight] at seen <;> first
        | exact .inl ⟨.inl old, rfl⟩
        | cases seen
    | deep seen full =>
      cases sight : session.sees heap handle <;> rw [sight] at seen <;> first
        | exact .inl ⟨.inr full, rfl⟩
        | cases seen
  · intro same
    cases seen : session.sees heap handle with
    | null => rw [seen] at same; subst same; exact .null seen
    | bool b => rw [seen] at same; subst same; exact .bool seen
    | int n =>
      rw [seen] at same
      obtain ⟨fits, rfl⟩ | ⟨large, near, rfl⟩ := same
      · exact .int seen fits
      · exact .largeInt seen large near
    | float x => rw [seen] at same; subst same; exact .float seen
    | text codes =>
      rw [seen] at same
      simp only [Value.ofCodePoints] at same
      split at same
      · rename_i string
        subst same
        exact .text seen string
      · rename_i surrogate
        subst same
        exact .noText seen surrogate
    | list items =>
      rw [seen] at same
      obtain ⟨old | full, rfl⟩ | ⟨new, room, values, rfl, parts⟩ := same
      · exact .again (by rw [seen]; rfl) old
      · exact .deep (by rw [seen]; rfl) full
      · obtain ⟨count, parts⟩ := forall₂_iff_getElem?.mp parts
        exact .list seen new room count parts
    | dict entries =>
      rw [seen] at same
      obtain ⟨old | full, rfl⟩ | ⟨new, room, pairs, rfl, parts⟩ := same
      · exact .again (by rw [seen]; rfl) old
      · exact .deep (by rw [seen]; rfl) full
      · obtain ⟨count, parts⟩ := forall₂_iff_getElem?.mp parts
        exact .dict seen new room count (fun i entry pair one two => (parts i entry pair one two).1)
          fun i entry pair one two => (parts i entry pair one two).2
    | other => rw [seen] at same; subst same; exact .other seen

end Session

namespace Value

variable {session : Session} {heap : Heap}

/-- Reading goes by what the session sees. -/
theorem readWithin_eq (session : Session) (heap : Heap) (room : ℕ) (path : List Handle)
    (handle : Handle) : readWithin session heap room path handle =
      match session.sees heap handle with
      | .null => .ok null
      | .bool b => .ok (bool b)
      | .int n => ofInt n
      | .float x => .ok (float x)
      | .text codes => .ok (ofCodePoints codes)
      | .list items =>
        if path.contains handle then .ok (object handle)
        else match room with
          | 0 => .ok (object handle)
          | room + 1 => do
            let values ← items.mapM (readWithin session heap room (handle :: path))
            return list values
      | .dict entries =>
        if path.contains handle then .ok (object handle)
        else match room with
          | 0 => .ok (object handle)
          | room + 1 => do
            let pairs ← entries.mapM fun entry => do
              let key ← readWithin session heap room (handle :: path) entry.key
              let value ← readWithin session heap room (handle :: path) entry.value
              return (key, value)
            return map pairs
      | .other => .ok (object handle) := by
  rw [readWithin.eq_def, Session.sees]
  cases heap.get? handle with
  | none => rfl
  | some cell =>
    simp only
    cases session.kind? handle cell.type with
    | none => cases cell.body <;> rfl
    | some kind => cases kind <;> cases cell.body <;> rfl

private theorem ofInt_total (n : ℤ) : (∃ value, ofInt n = .ok value) ∨ ofInt n = .error tooLarge := by
  unfold ofInt
  split
  · exact .inl ⟨_, rfl⟩
  · simp only
    split
    · exact .inl ⟨_, rfl⟩
    · exact .inr rfl

private theorem pure_eq_ok_iff {value other : Value} :
    (Except.ok value : Except BridgeError Value) = .ok other ↔ other = value := by
  rw [Except.ok.injEq, eq_comm]

theorem ofInt_eq_ok_iff {n : ℤ} {value : Value} : ofInt n = .ok value ↔
    FitsInt64 n ∧ value = int (Int64.ofInt n) ∨
      ¬ FitsInt64 n ∧ (Double.ofInt n).isFinite = true ∧ value = float (.ofInt n) := by
  unfold ofInt
  split
  · rename_i fits
    rw [pure_eq_ok_iff]
    exact ⟨fun same => .inl ⟨fits, same⟩, fun either => either.elim (·.2) fun large =>
      (large.1 fits).elim⟩
  · rename_i large
    simp only
    split
    · rename_i near
      rw [pure_eq_ok_iff]
      exact ⟨fun same => .inr ⟨large, near, same⟩, fun either => either.elim
        (fun fits => (large fits.1).elim) (·.2.2)⟩
    · rename_i far
      exact ⟨fun same => (nomatch same), fun either => either.elim
        (fun fits => (large fits.1).elim) fun near => (far near.2.1).elim⟩

/-- Parts are read one by one, and put together. -/
private theorem bind_eq_ok_iff {α : Type} {parts : Except BridgeError α} {whole : α → Value}
    {value : Value} : (do return whole (← parts)) = Except.ok value ↔
      ∃ values, value = whole values ∧ parts = .ok values := by
  cases parts with
  | error error => exact ⟨fun same => (nomatch same), fun ⟨_, _, same⟩ => (nomatch same)⟩
  | ok values =>
    exact ⟨fun same => ⟨values, (Except.ok.inj same).symm, rfl⟩, fun ⟨_, same, read⟩ => by
      rw [same, ← Except.ok.inj read]
      rfl⟩

/-- An entry is read as a pair. -/
private theorem readEntry_eq_ok_iff {key value : Except BridgeError Value} {pair : Value × Value} :
    (do
      let key ← key
      let value ← value
      return (key, value)) = Except.ok pair ↔ key = .ok pair.1 ∧ value = .ok pair.2 := by
  obtain ⟨first, second⟩ := pair
  cases key with
  | error error => exact ⟨fun same => (nomatch same), fun ⟨same, _⟩ => (nomatch same)⟩
  | ok key =>
    cases value with
    | error error => exact ⟨fun same => (nomatch same), fun ⟨_, same⟩ => (nomatch same)⟩
    | ok value =>
      change (Except.ok (key, value) : Except BridgeError _) = _ ↔ _
      simp

/-- A container is left as it is when it is met again, and is made of its parts while there is room. -/
private theorem entered_eq_ok_iff {α : Type} {path : List Handle} {handle : Handle} {value : Value}
    {parts : Except BridgeError α} {whole : α → Value} (room : path.length < 512) :
    (if path.contains handle then .ok (object handle) else do return whole (← parts)) =
        Except.ok value ↔
      (handle ∈ path ∨ path.length = 512) ∧ value = object handle ∨
        handle ∉ path ∧ path.length < 512 ∧ ∃ values, value = whole values ∧ parts = .ok values := by
  by_cases old : handle ∈ path
  · rw [if_pos (List.contains_iff_mem.mpr old), pure_eq_ok_iff]
    exact ⟨fun same => .inl ⟨.inl old, same⟩, fun either => either.elim (·.2) fun new =>
      (new.1 old).elim⟩
  · rw [if_neg fun found => old (List.contains_iff_mem.mp found), bind_eq_ok_iff]
    exact ⟨fun entered => .inr ⟨old, room, entered⟩, fun either => either.elim
      (fun left => (left.1.elim old room.ne).elim) (·.2.2)⟩

/-- Reading comes to the unfolding, as far as the room that is left. -/
theorem readWithin_eq_ok_iff {room : ℕ} {path : List Handle} {handle : Handle} {value : Value}
    (rest : path.length + room = 512) :
    readWithin session heap room path handle = .ok value ↔
      session.Unfolds heap path handle value := by
  induction room generalizing path handle value with
  | zero =>
    rw [readWithin_eq, Session.unfolds_iff]
    have full : path.length = 512 := rest
    cases session.sees heap handle with
    | null | bool b | float x | text codes | other => exact pure_eq_ok_iff
    | int n => exact ofInt_eq_ok_iff
    | list items | dict entries =>
      simp only [full, or_true, true_and, Nat.lt_irrefl, false_and, and_false, or_false, ite_self]
      exact pure_eq_ok_iff
  | succ room ih =>
    rw [readWithin_eq, Session.unfolds_iff]
    have open? : path.length < 512 := by omega
    have inner (item : Handle) (value : Value) :=
      @ih (handle :: path) item value (by rw [List.length_cons]; omega)
    cases session.sees heap handle with
    | null | bool b | float x | text codes | other => exact pure_eq_ok_iff
    | int n => exact ofInt_eq_ok_iff
    | list items =>
      refine (entered_eq_ok_iff open?).trans ?_
      simp only [mapM_eq_ok_iff, inner]
    | dict entries =>
      refine (entered_eq_ok_iff open?).trans ?_
      simp only [mapM_eq_ok_iff, readEntry_eq_ok_iff, inner]

end Value

namespace Session

variable {session : Session} {heap : Heap}

/-- What a session sees as something is there. -/
theorem has_of_sees {handle : Handle}
    (seen : session.sees heap handle ≠ .null) : heap.has handle = true := by
  cases found : heap.get? handle with
  | none =>
    rw [sees, found] at seen
    exact (seen rfl).elim
  | some cell => rw [Heap.has, found]; rfl

/-- The objects in what a path comes to are there. -/
theorem Unfolds.alive {path : List Handle}
    {handle : Handle} {value : Value} (unfolds : session.Unfolds heap path handle value) :
    ∀ object ∈ value.objects, heap.has object = true := by
  induction unfolds with
  | null | bool | int | largeInt | float | text | noText => exact nofun
  | list seen new room count parts ih =>
    intro object member
    rw [Value.objects, Value.itemObjects_eq] at member
    obtain ⟨value, member, inside⟩ := List.mem_flatMap.mp member
    obtain ⟨i, bound, rfl⟩ := List.mem_iff_getElem.mp member
    exact ih i _ _ (List.getElem?_eq_getElem (count ▸ bound)) (List.getElem?_eq_getElem bound) object
      inside
  | dict seen new room count keys values keysAlive valuesAlive =>
    intro object member
    rw [Value.objects, Value.pairObjects_eq] at member
    obtain ⟨pair, member, inside⟩ := List.mem_flatMap.mp member
    obtain ⟨i, bound, rfl⟩ := List.mem_iff_getElem.mp member
    have entry := List.getElem?_eq_getElem (count ▸ bound)
    have found := List.getElem?_eq_getElem bound
    rcases List.mem_append.mp inside with inside | inside
    · exact keysAlive i _ _ entry found object inside
    · exact valuesAlive i _ _ entry found object inside
  | @other path handle seen =>
    intro object member
    rw [List.mem_singleton.mp member]
    exact has_of_sees (by rw [seen]; nofun)
  | @again path handle seen old =>
    intro object member
    rw [List.mem_singleton.mp member]
    exact has_of_sees fun null => by rw [null] at seen; cases seen
  | @deep path handle seen full =>
    intro object member
    rw [List.mem_singleton.mp member]
    exact has_of_sees fun null => by rw [null] at seen; cases seen

end Session

/-! Places. -/

/-- A step from a container to one of its parts. -/
inductive Turn where
  | item (index : ℕ)
  | key (index : ℕ)
  | value (index : ℕ)

namespace Value

/-- A part of a value. -/
def part? : Value → Turn → Option Value
  | list items, .item i => items[i]?
  | map pairs, .key i => pairs[i]?.map (·.1)
  | map pairs, .value i => pairs[i]?.map (·.2)
  | _, _ => none

/-- What stands at a place in a value. -/
def at? : Value → List Turn → Option Value
  | value, [] => some value
  | value, turn :: rest => (value.part? turn).bind (·.at? rest)

end Value

namespace Session

/-- A part of an object. -/
def part? (session : Session) (heap : Heap) (handle : Handle) (turn : Turn) : Option Handle :=
  match session.sees heap handle, turn with
  | .list items, .item i => items[i]?
  | .dict entries, .key i => entries[i]?.map (·.key)
  | .dict entries, .value i => entries[i]?.map (·.value)
  | _, _ => .none

/-- Where a path through the graph leads, and the containers that it comes through, the last one
first. -/
def follow (session : Session) (heap : Heap) (path : List Handle) (handle : Handle) :
    List Turn → Option (List Handle × Handle)
  | [] => some (path, handle)
  | turn :: rest =>
    (session.part? heap handle turn).bind fun next => follow session heap (handle :: path) next rest

variable {session : Session} {heap : Heap} {path : List Handle} {handle : Handle} {value : Value}

/-- A path comes to one value. -/
theorem Unfolds.unique {other : Value} (bound : path.length ≤ 512)
    (first : session.Unfolds heap path handle value)
    (second : session.Unfolds heap path handle other) : value = other := by
  have rest : path.length + (512 - path.length) = 512 := by omega
  rw [← Value.readWithin_eq_ok_iff rest] at first second
  exact Except.ok.inj (first.symm.trans second)

private theorem getElem?_of_forall₂ {α β : Type} {related : α → β → Prop} {left : List α}
    {right : List β} (all : List.Forall₂ related left right) (i : ℕ) :
    left[i]? = .none ∧ right[i]? = .none ∨
      ∃ a b, left[i]? = some a ∧ right[i]? = some b ∧ related a b := by
  obtain ⟨count, each⟩ := forall₂_iff_getElem?.mp all
  by_cases bound : i < left.length
  · have there : i < right.length := count ▸ bound
    exact .inr ⟨_, _, List.getElem?_eq_getElem bound, List.getElem?_eq_getElem there,
      each i _ _ (List.getElem?_eq_getElem bound) (List.getElem?_eq_getElem there)⟩
  · exact .inl ⟨List.getElem?_eq_none (by omega), List.getElem?_eq_none (by omega)⟩

/-- A part of a value that is read is what its own path comes to; what is cut off has no parts. -/
theorem Unfolds.turn (unfolds : session.Unfolds heap path handle value) (turn : Turn) :
    value.part? turn = .none ∧
        (session.part? heap handle turn = .none ∨ handle ∈ path ∨ path.length = 512) ∨
      handle ∉ path ∧ path.length < 512 ∧ ∃ part next, value.part? turn = some part ∧
        session.part? heap handle turn = some next ∧
        session.Unfolds heap (handle :: path) next part := by
  rw [unfolds_iff] at unfolds
  cases seen : session.sees heap handle with
  | null | bool b | float x | other =>
    rw [seen] at unfolds
    subst unfolds
    exact .inl ⟨rfl, .inl (by simp only [part?, seen])⟩
  | int n =>
    rw [seen] at unfolds
    refine .inl ⟨?_, .inl (by simp only [part?, seen])⟩
    obtain ⟨_, rfl⟩ | ⟨_, _, rfl⟩ := unfolds
    · rfl
    · rfl
  | text codes =>
    rw [seen] at unfolds
    refine .inl ⟨?_, .inl (by simp only [part?, seen])⟩
    rw [unfolds, Value.ofCodePoints]
    split <;> rfl
  | list items =>
    rw [seen] at unfolds
    obtain ⟨cut, rfl⟩ | ⟨new, room, values, rfl, parts⟩ := unfolds
    · exact .inl ⟨rfl, .inr cut⟩
    cases turn with
    | item i =>
      obtain ⟨left, right⟩ | ⟨item, value, left, right, deeper⟩ := getElem?_of_forall₂ parts i
      · exact .inl ⟨right, .inl (by simp only [part?, seen, left])⟩
      · exact .inr ⟨new, room, value, item, right, by simp only [part?, seen, left], deeper⟩
    | key i | value i => exact .inl ⟨rfl, .inl (by simp only [part?, seen])⟩
  | dict entries =>
    rw [seen] at unfolds
    obtain ⟨cut, rfl⟩ | ⟨new, room, pairs, rfl, parts⟩ := unfolds
    · exact .inl ⟨rfl, .inr cut⟩
    cases turn with
    | item i => exact .inl ⟨rfl, .inl (by simp only [part?, seen])⟩
    | key i =>
      obtain ⟨left, right⟩ | ⟨entry, pair, left, right, deeper, _⟩ := getElem?_of_forall₂ parts i
      · exact .inl ⟨by simp only [Value.part?, right, Option.map_none],
          .inl (by simp only [part?, seen, left, Option.map_none])⟩
      · exact .inr ⟨new, room, pair.1, entry.key,
          by simp only [Value.part?, right, Option.map_some],
          by simp only [part?, seen, left, Option.map_some], deeper⟩
    | value i =>
      obtain ⟨left, right⟩ | ⟨entry, pair, left, right, _, deeper⟩ := getElem?_of_forall₂ parts i
      · exact .inl ⟨by simp only [Value.part?, right, Option.map_none],
          .inl (by simp only [part?, seen, left, Option.map_none])⟩
      · exact .inr ⟨new, room, pair.2, entry.value,
          by simp only [Value.part?, right, Option.map_some],
          by simp only [part?, seen, left, Option.map_some], deeper⟩

end Session

namespace Value

private theorem mapM_total {α β ε : Type} {f : α → Except ε β} {error : ε} {parts : List α}
    (each : ∀ part ∈ parts, (∃ result, f part = .ok result) ∨ f part = .error error) :
    (∃ results, parts.mapM f = .ok results) ∨ parts.mapM f = .error error := by
  induction parts with
  | nil => exact .inl ⟨[], rfl⟩
  | cons part rest ih =>
    obtain ⟨first, others⟩ := List.forall_mem_cons.mp each
    rw [List.mapM_cons]
    obtain ⟨result, same⟩ | same := first
    · obtain ⟨results, more⟩ | more := ih others
      · exact .inl ⟨result :: results, by rw [same, more]; rfl⟩
      · exact .inr (by rw [same, more]; rfl)
    · exact .inr (by rw [same]; rfl)

private theorem readEntry_total {key value : Except BridgeError Value} {error : BridgeError}
    (first : (∃ image, key = .ok image) ∨ key = .error error)
    (second : (∃ image, value = .ok image) ∨ value = .error error) :
    (∃ pair, (do
      let key ← key
      let value ← value
      return (key, value)) = Except.ok pair) ∨ (do
      let key ← key
      let value ← value
      return (key, value)) = Except.error error := by
  obtain ⟨image, rfl⟩ | rfl := first
  · obtain ⟨other, rfl⟩ | rfl := second
    · exact .inl ⟨(image, other), rfl⟩
    · exact .inr rfl
  · exact .inr rfl

/-- Reading ends with a value, or with the failure for an integer that no double comes near. -/
theorem readWithin_total (session : Session) (heap : Heap) (room : ℕ) (path : List Handle)
    (handle : Handle) : (∃ value, readWithin session heap room path handle = .ok value) ∨
      readWithin session heap room path handle = .error tooLarge := by
  induction room generalizing path handle with
  | zero =>
    rw [readWithin_eq]
    cases session.sees heap handle with
    | null | bool b | float x | text codes | other => exact .inl ⟨_, rfl⟩
    | int n => exact ofInt_total n
    | list items | dict entries => exact .inl ⟨object handle, ite_self _⟩
  | succ room ih =>
    rw [readWithin_eq]
    cases session.sees heap handle with
    | null | bool b | float x | text codes | other => exact .inl ⟨_, rfl⟩
    | int n => exact ofInt_total n
    | list items =>
      simp only
      split
      · exact .inl ⟨_, rfl⟩
      · obtain ⟨values, same⟩ | same := mapM_total fun item _ => ih (handle :: path) item
        · exact .inl ⟨list values, by rw [same]; rfl⟩
        · exact .inr (by rw [same]; rfl)
    | dict entries =>
      simp only
      split
      · exact .inl ⟨_, rfl⟩
      · obtain ⟨pairs, same⟩ | same := mapM_total fun entry (_ : entry ∈ entries) =>
          readEntry_total (ih (handle :: path) entry.key) (ih (handle :: path) entry.value)
        · exact .inl ⟨map pairs, by rw [same]; rfl⟩
        · exact .inr (by rw [same]; rfl)

end Value

namespace Bridge

end Bridge

end ForeignBridge
