import ForeignBridge.Proofs.Foreign.Grafts
import ForeignBridge.Proofs.Foreign.Slots

/-! # Keys without a hash

A list or a dictionary cannot be put into a dictionary as a key. The fault is a new exception, and all
that comes of it is new: its text, the tuple that has the text, and itself. It refers to the exception
that was being handled, if one was.
-/

namespace ForeignBridge.Foreign

/-- How memory changes when nothing but what refers to an object may change, and not the object. -/
structure Heap.Detaches (object : Handle) (before after : Heap) : Prop where
  grows : before.Grows after
  size : after.cells.size = before.cells.size
  kept : ∀ handle, (handle = object ∨ ∀ cell, before.get? handle = some cell →
    object ∉ cell.references) → after.get? handle = before.get? handle

theorem Heap.Detaches.refl (object : Handle) (heap : Heap) : heap.Detaches object heap :=
  ⟨.refl heap, rfl, fun _ _ => rfl⟩

/-- A new object with other content by now might have been made with it, if nothing else has changed but
what refers to it. -/
theorem Heap.Closed.get?_eq_add {heap after : Heap} {first content : Cell} (closed : heap.Closed)
    (size : after.cells.size = (heap.add first).2.cells.size)
    (there : after.get? heap.next = some content)
    (kept : ∀ handle ≠ heap.next, (∀ cell, (heap.add first).2.get? handle = some cell →
      heap.next ∉ cell.references) → after.get? handle = (heap.add first).2.get? handle)
    (handle : Handle) : after.get? handle = (heap.add content).2.get? handle := by
  by_cases self : handle = heap.next
  · rw [self, there]
    exact (get?_add_self heap content).symm
  · by_cases old : handle.address ≤ heap.cells.size
    · have before := get?_of_lt old first
      rw [get?_of_lt old, ← before]
      refine kept handle self fun cell found member => ?_
      -- the address of the new object had not been given out
      rw [before] at found
      exact absurd (closed handle cell found heap.next member) (Nat.not_succ_le_self _)
    · have beyond : heap.cells.size + 1 < handle.address := by
        have : handle.address ≠ heap.cells.size + 1 := fun same =>
          self (by cases handle; exact congrArg Handle.mk same)
        omega
      rw [get?_of_size_lt (by rwa [size, size_add]), get?_of_size_lt (by rwa [size_add])]

namespace Run

variable {machine : Machine} {exception link : Handle}

/-- To cut a chain of contexts changes no object but those that refer to the exception. -/
theorem on_cutContext (fuel : ℕ) (apart : link ≠ exception) : ∃ heap,
    (cutContext exception fuel link).on machine = (.ok (), { machine with heap }) ∧
    machine.heap.Detaches exception heap := by
  induction fuel generalizing link with
  | zero => exact ⟨machine.heap, rfl, .refl _ _⟩
  | succ fuel ih =>
    have idle (part : (part? link "__context__").on machine = (.ok none, machine)) : ∃ heap,
        (cutContext exception (fuel + 1) link).on machine = (.ok (), { machine with heap }) ∧
        machine.heap.Detaches exception heap :=
      ⟨machine.heap, by rw [cutContext, on_bind _ part]; rfl, .refl _ _⟩
    cases found : machine.heap.get? link with
    | none => exact idle (by rw [part?, on_bind _ (on_body_absent found)]; rfl)
    | some cell =>
      by_cases shape : ∃ info, cell.body = .exception info
      · obtain ⟨info, shape⟩ := shape
        have part : (part? link "__context__").on machine =
            (.ok (info.parts.lookup "__context__"), machine) := by
          rw [part?, on_bind _ (on_body found), shape]
          rfl
        cases context : info.parts.lookup "__context__" with
        | none => exact idle (context ▸ part)
        | some next =>
          rw [context] at part
          by_cases same : next = exception
          · let cleared : Cell := { cell with
              body := .exception { info with parts := info.parts.filter (·.1 != "__context__") } }
            have dropped : (dropPart link "__context__").on machine =
                (.ok (), { machine with heap := machine.heap.revise link cleared }) := by
              rw [dropPart, on_bind _ (on_body found), shape]
              exact on_setBody found _
            have referred : exception ∈ cell.references := by
              obtain ⟨left, right, split, _⟩ := List.lookup_eq_some_iff.mp context
              simp [Cell.references, shape, Body.references, split, same]
            refine ⟨machine.heap.revise link cleared, ?_, Heap.grows_revise _ _ _,
              Heap.size_revise _ _ _, fun handle spared => Heap.get?_revise_of_ne ?_⟩
            · rw [cutContext, on_bind _ part]
              simp only [same, ↓reduceIte]
              exact dropped
            · rintro rfl
              exact spared.elim apart fun none => none cell found referred
          · obtain ⟨heap, step, detaches⟩ := ih same
            refine ⟨heap, ?_, detaches⟩
            rw [cutContext, on_bind _ part]
            simp only [same, ↓reduceIte]
            exact step
      · refine idle ?_
        rw [part?, on_bind _ (on_body found)]
        split
        · rename_i info same
          exact (shape ⟨info, same⟩).elim
        · rfl

/-- A new exception is raised with the exception that was being handled as its context. -/
theorem on_raise_new {α : Type} {core : Core} {arguments : Handle}
    (found : machine.heap.get? exception = some (.ofCore core (.exception ⟨arguments, []⟩)))
    (free : (Cell.ofCore core (.exception ⟨arguments, []⟩)).isFixed = false) :
    ∃ parts heap, (raise exception : Run α).on machine =
        (.error ⟨exception, [], false⟩, { machine with heap }) ∧
      machine.heap.Grows heap ∧ heap.cells.size = machine.heap.cells.size ∧
      heap.get? exception = some (.ofCore core (.exception ⟨arguments, parts⟩)) ∧
      (∀ part ∈ parts.map (·.2), machine.handling = some part) ∧
      ∀ handle ≠ exception, (∀ cell, machine.heap.get? handle = some cell →
        exception ∉ cell.references) → heap.get? handle = machine.heap.get? handle := by
  -- once the context is set the exception has passed through no calls yet
  have raised {parts : List (String × Handle)} {heap : Heap}
      (context : (setContext exception).on machine = (.ok (), { machine with heap }))
      (there : heap.get? exception = some (.ofCore core (.exception ⟨arguments, parts⟩)))
      (fresh : parts.lookup "__traceback__" = none) : (raise exception : Run α).on machine =
        (.error ⟨exception, [], false⟩, { machine with heap }) := by
    have traceback : (tracebackOf exception).on { machine with heap } =
        (.ok [], { machine with heap }) := by
      rw [tracebackOf, on_bind _ (on_body there)]
      simp only [Cell.ofCore, Cell.of, fresh]
      rfl
    rw [raise, on_bind _ context, on_bind _ traceback]
    rfl
  have alone (context : (setContext exception).on machine = (.ok (), machine)) :
      (raise exception : Run α).on machine = (.error ⟨exception, [], false⟩, machine) :=
    raised context found rfl
  cases handling : machine.handling with
  | none =>
    refine ⟨[], machine.heap, alone ?_, .refl _, rfl, found, by simp, fun _ _ _ => rfl⟩
    rw [setContext, on_bind _ on_machine, handling]
    rfl
  | some handled =>
    by_cases same : handled = exception
    · refine ⟨[], machine.heap, alone ?_, .refl _, rfl, found, by simp, fun _ _ _ => rfl⟩
      rw [setContext, on_bind _ on_machine, handling]
      simp only [same, ↓reduceIte]
      rfl
    · obtain ⟨cut, step, detaches⟩ := @on_cutContext machine exception handled 1000 same
      have still : cut.get? exception = some (.ofCore core (.exception ⟨arguments, []⟩)) :=
        (detaches.kept exception (.inl rfl)).trans found
      let content : Cell := .ofCore core (.exception ⟨arguments, [("__context__", handled)]⟩)
      have noted : (setPart exception "__context__" handled).on { machine with heap := cut } =
          (.ok (), { machine with heap := cut.revise exception content }) := by
        rw [setPart, on_bind _ (on_body still)]
        exact @on_setBody { machine with heap := cut } exception _ still _
      have context : (setContext exception).on machine =
          (.ok (), { machine with heap := cut.revise exception content }) := by
        rw [setContext, on_bind _ on_machine, handling]
        simp only [same, ↓reduceIte]
        exact (on_bind _ step).trans noted
      have there := @Heap.get?_revise_self cut exception content _ still free
      refine ⟨[("__context__", handled)], cut.revise exception content, raised context there rfl,
        detaches.grows.trans (Heap.grows_revise _ _ _),
        (Heap.size_revise _ _ _).trans detaches.size, there, ?_, fun handle apart other => ?_⟩
      · intro part member
        obtain rfl := List.mem_singleton.mp member
        rfl
      · rw [Heap.get?_revise_of_ne apart, detaches.kept handle (.inr other)]

/-- An object for a text is there for good, or it is one more. -/
theorem on_newText_grafts (sound : machine.heap.Sound) {low : ℕ} (fixed : Fixed.cells.size ≤ low)
    (text : CodePoints) : ∃ handle after, (newText text).on machine = (.ok handle, after) ∧
      machine.Grafts low (fun _ => False) after ∧
      after.heap.get? handle = some (.ofCore .str (.text text)) ∧
      Heap.Near low machine.heap after.heap handle := by
  unfold newText
  split
  · rename_i handle short
    have there := Fixed.get?_text short
    refine ⟨handle, machine, rfl, .refl _ _ _,
      sound.fixed there (by simp [Cell.isFixed, Cell.ofCore, Cell.of]), .inl ?_⟩
    exact (Fixed.address_le there).trans fixed
  · refine ⟨_, _, rfl, (Machine.Grafts.refl low _ machine).push ?_ ?_, Heap.get?_add_self _ _,
      .inr ⟨?_, ?_⟩⟩
    · exact Cell.isUnguarded_ofCore _ (by decide)
    · rw [Cell.references_ofCore]
      exact fun part member => (List.not_mem_nil member).elim
    · exact Nat.lt_succ_self _
    · exact (Heap.size_add ..).ge

/-- What an exception that has just been raised is: it has a text, and nothing that was there before has
changed, if everything refers to what has been given out. -/
structure Raised (low : ℕ) (message : String) (before : Machine) (exception : Handle) (after : Machine) :
    Prop where
  registers : after.toRegisters = before.toRegisters
  interned : after.interned = before.interned
  grows : before.heap.Grows after.heap
  told : ∃ text arguments parts,
    after.heap.get? exception = some (.ofCore .typeError (.exception ⟨arguments, parts⟩)) ∧
    after.heap.get? arguments = some (.ofCore .tuple (.tuple [text])) ∧
    after.heap.get? text = some (.ofCore .str (.text (.ofString message)))
  grafts : before.Grounded low → before.Grafts low (fun _ => False) after

theorem on_typeError {α : Type} (sound : machine.heap.Sound) {low : ℕ} (fixed : Fixed.cells.size ≤ low)
    (message : String) : ∃ exception after,
      (fail .typeError message : Run α).on machine = (.error ⟨exception, [], false⟩, after) ∧
      Raised low message machine exception after := by
  obtain ⟨text, first, textStep, early, worded, near⟩ :=
    on_newText_grafts sound fixed (.ofString message)
  let packed : Cell := .ofCore .tuple (.tuple [text])
  let tuple := (first.heap.add packed).1
  let second : Machine := { first with heap := (first.heap.add packed).2 }
  let bare : Cell := .ofCore .typeError (.exception ⟨tuple, []⟩)
  let exception := (second.heap.add bare).1
  let third : Machine := { second with heap := (second.heap.add bare).2 }
  have made : (newException .typeError [text]).on first = (.ok exception, third) := rfl
  obtain ⟨parts, heap, raised, grows, size, there, context, kept⟩ := @on_raise_new third exception α
    .typeError tuple (Heap.get?_add_self _ _) (by simp [Cell.isFixed, Cell.ofCore, Cell.of])
  have middle : machine.Grafts low (fun _ => False) second := early.push
    (Cell.isUnguarded_ofCore _ (by decide)) fun part member => by
      rw [Cell.references_ofCore] at member
      exact List.mem_singleton.mp member ▸ near
  have grown : first.heap.Grows heap :=
    ((Heap.grows_add _ packed).trans (Heap.grows_add _ bare)).trans grows
  refine ⟨exception, { third with heap }, ?_, early.registers, early.interned,
    early.heap.grows.trans grown, ⟨text, tuple, parts, there, ?_, ?_⟩, fun grounded => ?_⟩
  · rw [fail, failText, on_bind _ textStep, on_bind _ made]
    exact raised
  · refine (grows.trans (.refl _)).fixed ?_ (by simp [Cell.isFixed, Cell.ofCore, Cell.of])
    exact Heap.get?_add_of_get? (Heap.get?_add_self first.heap packed)
  · exact grown.fixed worded (by simp [Cell.isFixed, Cell.ofCore, Cell.of])
  · -- nothing refers to the exception yet, so its context changes no other object
    let final : Cell := .ofCore .typeError (.exception ⟨tuple, parts⟩)
    have same := (grounded.grafts middle).closed.get?_eq_add size there kept
    have whole : machine.heap.Grafts low (fun _ => False) (second.heap.add final).2 := by
      refine middle.heap.push (Cell.isUnguarded_ofCore _ (by decide)) fun part member => ?_
      rw [Cell.references_ofCore] at member
      obtain rfl | member := List.mem_cons.mp member
      · refine .inr ⟨?_, (Heap.size_add first.heap packed).ge⟩
        exact Nat.lt_succ_of_le early.heap.size
      · refine .inl (grounded.handling part ?_)
        have handled := context part member
        rwa [show third.handling = machine.handling from
          congrArg Registers.handling early.registers] at handled
    refine ⟨middle.registers, middle.interned, whole.congr grows.base ?_ same⟩
    exact size.trans ((Heap.size_add second.heap bare).trans (Heap.size_add second.heap final).symm)

/-- A list or a dictionary has no hash, so nothing can be put under it. -/
theorem on_dictSet_unhashable (invoke : Invoke) (sound : machine.heap.Sound) {low : ℕ}
    (fixed : Fixed.cells.size ≤ low) {dict key value : Handle} {core : Core} {body : Body}
    (either : core = .list ∨ core = .dict)
    (found : machine.heap.get? key = some (.ofCore core body)) : ∃ exception after,
      (dictSet invoke dict key value).on machine = (.error ⟨exception, [], false⟩, after) ∧
      Raised low ("unhashable type: '" ++ core.name ++ "'") machine exception after := by
  have noScalar : Scalar.ofCell? (.ofCore core body) = none := by
    rw [Scalar.ofCell?, show (Cell.ofCore core body).type = core.handle from rfl,
      Core.ofHandle?_handle]
    rcases either with rfl | rfl <;> rfl
  have rule : core.lineage.findSome? (·.attribute? "__hash__") = some Fixed.none := by
    have own : core.attribute? "__hash__" = some Fixed.none := by
      rw [Core.attribute?, if_pos]
      rcases either with rfl | rfl <;> decide
    have first : core.lineage = [core, .object] := by
      rcases either with rfl | rfl <;> rfl
    rw [first, List.findSome?_cons, own]
  have named : (typeName key).on machine = (.ok core.name, machine) := by
    rw [typeName, on_bind _ (on_cell found)]
    change (className core.handle).on machine = _
    rw [className, on_bind _ (on_body (get?_class sound core))]
    rfl
  obtain ⟨exception, after, failed, raised⟩ := @on_typeError machine ℤ sound low fixed
    ("unhashable type: '" ++ core.name ++ "'")
  have hashed : (hashOf invoke key).on machine = (.error ⟨exception, [], false⟩, after) := by
    rw [hashOf, hashDepth, hashWithin, on_bind _ (on_cell found), noScalar]
    simp only
    rw [on_bind _ (on_typeAttribute sound found rfl "__hash__"), rule]
    simp only [↓reduceIte]
    rw [unhashable, on_bind _ named]
    exact failed
  refine ⟨exception, after, ?_, raised⟩
  rw [dictSet, on_bind_eq, hashed]

end Run

end ForeignBridge.Foreign
