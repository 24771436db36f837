import ForeignBridge.Proofs.Bridge.Act
import ForeignBridge.Proofs.Value.Objects

/-! # Reading holds what it hands out

An object is read with references taken and given back on the way. What comes of it is a matter of the
heap alone; the host ends up with one reference more to each object in the value, once for each place at
which it stands, and with the references it had if an integer is too large.
-/

namespace ForeignBridge

open Foreign (Heap Body Entry)

namespace Value

/-- The value of an object as it is read off a heap, given how many containers may still be entered and
those that have been entered, the innermost first. -/
def readWithin (session : Session) (heap : Heap) (room : Nat) (path : List Handle)
    (handle : Handle) : Except BridgeError Value :=
  match heap.get? handle with
  | none => .ok .null
  | some cell =>
    match session.kind? handle cell.type, cell.body with
    | some .list, .list items =>
      if path.contains handle then .ok (.object handle)
      else
        match room with
        | 0 => .ok (.object handle)
        | room + 1 => do
          let values ← items.mapM (readWithin session heap room (handle :: path))
          return .list values
    | some .dict, .dict content =>
      if path.contains handle then .ok (.object handle)
      else
        match room with
        | 0 => .ok (.object handle)
        | room + 1 => do
          let pairs ← content.entries.mapM fun entry => do
            let key ← readWithin session heap room (handle :: path) entry.key
            let value ← readWithin session heap room (handle :: path) entry.value
            return (key, value)
          return .map pairs
    | kind, body => ofScalar handle kind body

/-- The value of an object as it is read off a heap. -/
def read (session : Session) (heap : Heap) (handle : Handle) : Except BridgeError Value :=
  readWithin session heap depthLimit [] handle

end Value

/-- The handles of objects among some handles. -/
def present (handles : List Handle) : List Handle := handles.filter (!·.isNull)

theorem present_append (handles others : List Handle) :
    present (handles ++ others) = present handles ++ present others := List.filter_append ..

theorem present_cons_of_isNull {handle : Handle} (null : handle.isNull = true)
    (rest : List Handle) : present (handle :: rest) = present rest :=
  List.filter_cons_of_neg (by simp [null])

theorem present_cons {handle : Handle} (object : handle.isNull = false) (rest : List Handle) :
    present (handle :: rest) = handle :: present rest :=
  List.filter_cons_of_pos (by simp [object])

theorem count_present {handle : Handle} (object : handle.isNull = false) (handles : List Handle) :
    (present handles).count handle = handles.count handle := List.count_filter (by simp [object])

namespace World

/-- References that are held on top are given back from the top. -/
theorem foldl_giveBack_top {handles rest top held : List Handle} {world : World}
    (holds : top.Perm (present handles ++ rest)) : ∃ left : List Handle, left.Perm rest ∧
      handles.foldl giveBack (world.withHeld (top ++ held)) = world.withHeld (left ++ held) := by
  induction handles generalizing top with
  | nil => exact ⟨top, holds, rfl⟩
  | cons handle handles ih =>
    rw [List.foldl_cons]
    cases null : handle.isNull with
    | true =>
      rw [giveBack, null, if_pos rfl]
      exact ih (by rwa [present_cons_of_isNull null] at holds)
    | false =>
      rw [present_cons null, List.cons_append] at holds
      have member : handle ∈ top := holds.symm.subset (List.mem_cons_self ..)
      have back : (world.withHeld (top ++ held)).giveBack handle =
          world.withHeld (top.erase handle ++ held) := by
        have inside : handle ∈ (world.withHeld (top ++ held)).held :=
          List.mem_append_left held member
        rw [giveBack, null, if_neg Bool.false_ne_true, if_pos inside]
        exact congrArg world.withHeld (List.erase_append_left held member)
      rw [back]
      refine ih ?_
      have less := holds.erase handle
      rwa [List.erase_cons_head] at less

/-- What is held on top can all be given back. -/
theorem foldl_giveBack_all {handles top held : List Handle} {world : World}
    (holds : top.Perm (present handles)) :
    handles.foldl giveBack (world.withHeld (top ++ held)) = world.withHeld held := by
  obtain ⟨left, none, same⟩ := @foldl_giveBack_top handles [] top held world
    (by rwa [List.append_nil])
  rw [same, none.eq_nil, List.nil_append]

end World

namespace Bridge

/-- That an act changes nothing but what is held: it hands out a result with a reference to each object in
it, or fails and leaves everything as it was. -/
def HandsOut {α : Type} (act : Bridge α) (world : World) (references : α → List Handle) :
    Except BridgeError α → Prop
  | .ok value => ∃ top : List Handle, top.Perm (present (references value)) ∧
      act.on world = (.ok value, world.withHeld (top ++ world.held))
  | .error error => act.on world = (.error error, world)

variable {α β γ : Type} {world : World} {references : α → List Handle} {more : β → List Handle}

theorem ownAll_on (handles : List Handle) (world : World) : ∃ top : List Handle,
    top.Perm (present handles) ∧
    Act.on (ownAll handles) world = ((), world.withHeld (top ++ world.held)) := by
  induction handles generalizing world with
  | nil => exact ⟨[], .refl _, rfl⟩
  | cons handle rest ih =>
    obtain ⟨top, same, step⟩ := ih (Act.on (own handle) world).2
    have whole : Act.on (ownAll (handle :: rest)) world =
        Act.on (ownAll rest) (Act.on (own handle) world).2 := rfl
    rw [whole, step, own_on]
    cases null : handle.isNull with
    | true =>
      rw [present_cons_of_isNull null]
      exact ⟨top, same, rfl⟩
    | false =>
      rw [present_cons null]
      refine ⟨top ++ [handle], ?_, ?_⟩
      · exact (List.perm_append_singleton handle top).trans (same.cons handle)
      · rw [List.append_assoc]
        rfl

namespace HandsOut

theorem pure {value : α} (bare : present (references value) = []) :
    HandsOut (pure value) world references (.ok value) := ⟨[], by rw [bare], rfl⟩

/-- What is made of a result has the references of the result. -/
theorem map {act : Bridge α} {result : Except BridgeError α} {change : α → β}
    (hands : HandsOut act world references result)
    (same : ∀ value, more (change value) = references value) :
    HandsOut (do return change (← act)) world more (do return change (← result)) := by
  cases result with
  | error error =>
    change Bridge.on (act >>= _) world = _
    rw [on_bind_eq, show act.on world = _ from hands]
  | ok value =>
    obtain ⟨top, holds, step⟩ := hands
    exact ⟨top, by rwa [same], on_bind _ step⟩

/-- Something that is done beside a result that is given back if it fails. -/
theorem both {first : Bridge α} {next : α → Bridge β} {combine : α → β → γ}
    {result : Except BridgeError α} {last : α → Except BridgeError β} {all : γ → List Handle}
    (head : HandsOut first world references result)
    (tail : ∀ value held, HandsOut (next value) (world.withHeld held) more (last value))
    (whole : ∀ value other, all (combine value other) = references value ++ more other) :
    HandsOut (do
      let value ← first
      let other ← elseRelease (references value) (next value)
      return combine value other) world all (do
      let value ← result
      let other ← last value
      return combine value other) := by
  cases result with
  | error error =>
    change Bridge.on (first >>= _) world = _
    rw [on_bind_eq, show first.on world = _ from head]
  | ok value =>
    obtain ⟨top, holds, step⟩ := head
    have tail := tail value (top ++ world.held)
    change HandsOut _ world all (last value >>= fun other => return combine value other)
    cases final : last value with
    | ok other =>
      rw [final] at tail
      obtain ⟨above, rest, more⟩ := tail
      refine ⟨above ++ top, ?_, ?_⟩
      · rw [whole, present_append]
        exact List.perm_append_comm.trans (holds.append rest)
      · rw [on_bind _ step, on_bind _ (elseRelease_on_ok more), List.append_assoc]
        rfl
    | error error =>
      rw [final] at tail
      have failed := elseRelease_on (references value) (next value) (world.withHeld (top ++ world.held))
      rw [show (next value).on _ = _ from tail] at failed
      change Bridge.on (first >>= _) world = _
      rw [on_bind _ step, on_bind_eq, failed]
      exact congrArg (Prod.mk _) (World.foldl_giveBack_all holds)

/-- References that are taken meanwhile make no difference. -/
theorem holding {act : Bridge α} {result : Except BridgeError α} (handles : List Handle)
    (hands : ∀ held, HandsOut act (world.withHeld held) references result) :
    HandsOut (holding handles act) world references result := by
  obtain ⟨top, holds, taken⟩ := ownAll_on handles world
  have hands := hands (top ++ world.held)
  have start : Bridge.on (Bridge.holding handles act) world =
      Bridge.on (thenRelease handles act) (world.withHeld (top ++ world.held)) := by
    rw [Bridge.holding, on_bind_eq, on_lift, taken]
  cases result with
  | error error =>
    change Bridge.on (Bridge.holding handles act) world = _
    rw [start, thenRelease_on, show act.on _ = _ from hands]
    exact congrArg (Prod.mk _) (World.foldl_giveBack_all holds)
  | ok value =>
    obtain ⟨above, rest, step⟩ := hands
    obtain ⟨left, same, back⟩ := @World.foldl_giveBack_top handles (present (references value))
      (above ++ top) world.held world (List.perm_append_comm.trans (holds.append rest))
    refine ⟨left, same, ?_⟩
    rw [start, thenRelease_on, step, ← back, List.append_assoc]
    rfl

end HandsOut

/-- Parts that are read one after the other. -/
theorem readEach_handsOut {read : α → Bridge β} {result : α → Except BridgeError β} {parts : List α}
    (each : ∀ part held, HandsOut (read part) (world.withHeld held) more (result part)) :
    HandsOut (readEach more read parts) world (·.flatMap more) (parts.mapM result) := by
  induction parts generalizing world with
  | nil => exact .pure rfl
  | cons part rest ih =>
    rw [List.mapM_cons]
    refine HandsOut.both (each part world.held) (fun value held => ?_) fun value others => rfl
    exact ih fun part held => each part held

theorem leave_handsOut (handle : Handle) :
    HandsOut (leave handle) world Value.objects (.ok (.object handle)) := by
  obtain ⟨top, holds, step⟩ := ownAll_on [handle] world
  refine ⟨top, holds, ?_⟩
  rw [leave, on_bind_eq, on_lift]
  exact congrArg (fun outcome : Unit × World => (Except.ok (Value.object handle), outcome.2)) step

theorem readScalar_handsOut (handle : Handle) (kind : Option Kind) (body : Body) :
    HandsOut (readScalar handle kind body) world Value.objects (Value.ofScalar handle kind body) := by
  unfold readScalar
  cases Value.ofScalar handle kind body with
  | error error => rfl
  | ok value =>
    obtain ⟨top, holds, step⟩ := ownAll_on value.objects world
    refine ⟨top, holds, ?_⟩
    refine (on_bind _ (on_pure value world)).trans ?_
    rw [on_bind_eq, on_lift, step]
    rfl

/-- What is known of the world at the start may be used. -/
theorem HandsOut.get_bind {next : World → Bridge α} {result : Except BridgeError α}
    (hands : HandsOut (next world) world references result) :
    HandsOut (get >>= next) world references result := by
  cases result with
  | ok value => exact hands
  | error error => exact hands

/-- What is read of an entry comes with the references of its key and its value. -/
theorem readEntry_handsOut {read : Handle → Bridge Value} {result : Handle → Except BridgeError Value}
    (each : ∀ part held, HandsOut (read part) (world.withHeld held) Value.objects (result part))
    (entry : Entry) : HandsOut (readEntry read entry) world
      (fun pair => pair.1.objects ++ pair.2.objects) (do
        let key ← result entry.key
        let value ← result entry.value
        return (key, value)) :=
  HandsOut.both (each entry.key world.held) (fun _ held => each entry.value held) fun _ _ => rfl

/-- That what is read is a matter of the heap, and comes with its references. -/
def ReadsHeap (session : Session) (room : Nat) : Prop :=
  ∀ path handle world, HandsOut (readWithin session room path handle) world Value.objects
    (Value.readWithin session world.machine.heap room path handle)

/-- What holds with room for fewer containers holds of what is in a container. -/
private theorem readsHeap_of_parts {session : Session} {room : Nat}
    (parts : ∀ less, room = less + 1 → ReadsHeap session less) : ReadsHeap session room := by
  intro path handle world
  rw [readWithin.eq_def, Value.readWithin.eq_def]
  refine .get_bind ?_
  cases world.machine.heap.get? handle with
  | none => exact HandsOut.pure rfl
  | some cell =>
    simp only
    generalize session.kind? handle cell.type = kind
    generalize cell.body = body
    obtain _ | kind := kind
    · exact readScalar_handsOut handle _ _
    cases kind with
    | list =>
      cases body with
      | list items =>
        simp only
        split
        · exact leave_handsOut handle
        · cases room with
          | zero => exact leave_handsOut handle
          | succ less =>
            refine HandsOut.map (readEach_handsOut fun item held => ?_) fun _ =>
              Value.itemObjects_eq _
            exact .holding [item] fun held => parts less rfl (handle :: path) item _
      | _ => exact readScalar_handsOut handle _ _
    | dict =>
      cases body with
      | dict content =>
        simp only
        split
        · exact leave_handsOut handle
        · cases room with
          | zero => exact leave_handsOut handle
          | succ less =>
            refine HandsOut.map (.holding _ fun held => readEach_handsOut fun entry held => ?_)
              fun _ => Value.pairObjects_eq _
            exact readEntry_handsOut (fun part held => parts less rfl (handle :: path) part _) entry
      | _ => exact readScalar_handsOut handle _ _
    | _ => exact readScalar_handsOut handle _ _

theorem readsHeap (session : Session) (room : Nat) : ReadsHeap session room := by
  induction room with
  | zero => exact readsHeap_of_parts fun less none => (Nat.succ_ne_zero less none.symm).elim
  | succ room ih => exact readsHeap_of_parts fun less same => Nat.succ.inj same ▸ ih

variable {session : Session} {handle : Handle}

/-- What is read goes by the heap alone. -/
theorem readWith_on_fst (session : Session) (handle : Handle) (world : World) :
    (Bridge.on (readWith session handle) world).1 = Value.read session world.machine.heap handle := by
  have hands := readsHeap session Value.depthLimit [] handle world
  rw [readWith, Value.read]
  cases read : Value.readWithin session world.machine.heap Value.depthLimit [] handle with
  | error error =>
    rw [read] at hands
    exact congrArg Prod.fst hands
  | ok value =>
    rw [read] at hands
    obtain ⟨top, _, step⟩ := hands
    exact congrArg Prod.fst step

/-- A value that is read is handed out with a reference to each object in it. -/
theorem readWith_on_ok {value : Value}
    (read : Value.read session world.machine.heap handle = .ok value) : ∃ top : List Handle,
      top.Perm (present value.objects) ∧
      Bridge.on (readWith session handle) world = (.ok value, world.withHeld (top ++ world.held)) := by
  have hands := readsHeap session Value.depthLimit [] handle world
  rwa [show Value.readWithin session _ _ _ handle = _ from read] at hands

/-- What cannot be read leaves everything as it was. -/
theorem readWith_on_error {error : BridgeError}
    (read : Value.read session world.machine.heap handle = .error error) :
    Bridge.on (readWith session handle) world = (.error error, world) := by
  have hands := readsHeap session Value.depthLimit [] handle world
  rwa [show Value.readWithin session _ _ _ handle = _ from read] at hands

end Bridge

end ForeignBridge
