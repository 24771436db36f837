import ForeignBridge.Foreign.Call

/-! # Runs on a machine

What each step of a run comes to, on a machine that is given.
-/

namespace ForeignBridge.Foreign.Run

variable {α β : Type} {machine after : Machine}

@[simp] theorem on_pure (value : α) : (pure value : Run α).on machine = (.ok value, machine) := rfl

@[simp] theorem on_throw (thrown : Thrown) :
    (throw thrown : Run α).on machine = (.error thrown, machine) := rfl

@[simp] theorem on_machine : Run.machine.on machine = (.ok machine, machine) := rfl

@[simp] theorem on_new (content : Cell) : (new content).on machine =
    (.ok (machine.heap.add content).1, { machine with heap := (machine.heap.add content).2 }) := rfl

@[simp] theorem on_revise (handle : Handle) (content : Cell) : (revise handle content).on machine =
    (.ok (), { machine with heap := machine.heap.revise handle content }) := rfl

/-- A step that succeeds hands its result to what follows. -/
theorem on_bind {first : Run α} {value : α} (next : α → Run β)
    (step : first.on machine = (.ok value, after)) :
    (first >>= next).on machine = (next value).on after := by
  have rest : (first >>= next).on machine =
      Course.run (ExceptT.bindCont next (first.on machine).1) (first.on machine).2 := rfl
  rw [rest, step]
  rfl

theorem on_bind_eq (first : Run α) (next : α → Run β) (machine : Machine) :
    (first >>= next).on machine = match first.on machine with
      | (.ok value, after) => (next value).on after
      | (.error thrown, after) => (.error thrown, after) := by
  have rest : (first >>= next).on machine =
      Course.run (ExceptT.bindCont next (first.on machine).1) (first.on machine).2 := rfl
  rw [rest]
  obtain ⟨result, after⟩ := first.on machine
  cases result with
  | ok value => rfl
  | error thrown => rfl

/-- What succeeds has succeeded step by step. -/
theorem ok_of_on_bind {first : Run α} {next : α → Run β} {value : β}
    (done : (first >>= next).on machine = (.ok value, after)) : ∃ part middle,
      first.on machine = (.ok part, middle) ∧ (next part).on middle = (.ok value, after) := by
  rw [on_bind_eq] at done
  cases step : first.on machine with
  | mk result middle =>
    rw [step] at done
    cases result with
    | error thrown => cases done
    | ok part => exact ⟨part, middle, rfl, done⟩

/-- A run that raises an exception on every machine. -/
def Fails (run : Run α) : Prop :=
  ∀ machine : Machine, ∃ thrown after, run.on machine = (.error thrown, after)

theorem Fails.bind {first : Run α} {next : α → Run β} (fails : ∀ value, Fails (next value)) :
    Fails (first >>= next) := by
  intro machine
  rw [on_bind_eq]
  obtain ⟨result, middle⟩ := first.on machine
  cases result with
  | ok value => exact fails value middle
  | error thrown => exact ⟨thrown, middle, rfl⟩

theorem raise_fails (exception : Handle) : Fails (raise exception : Run α) :=
  .bind fun _ => .bind fun _ machine => ⟨_, machine, rfl⟩

theorem fail_fails (core : Core) (message : String) : Fails (fail core message : Run α) :=
  .bind fun _ => .bind fun exception => raise_fails exception

/-- A text that has no form of its own outside the interpreter is a fault. -/
theorem unencodable_fails (codes : CodePoints) : Fails (unencodable codes : Run α) := by
  unfold unencodable
  split
  · exact fail_fails .valueError "surrogates not allowed"
  · refine .bind fun _ => .bind fun _ => .bind fun _ => .bind fun _ => .bind fun _ => ?_
    exact .bind fun exception => raise_fails exception

/-- The content of an object that is there. -/
theorem on_cell {handle : Handle} {content : Cell}
    (found : machine.heap.get? handle = some content) :
    (cell handle).on machine = (.ok content, machine) := by
  rw [cell, on_bind _ on_machine, found]
  rfl

/-- What is not there is taken for an object with nothing in it. -/
theorem on_cell_absent {handle : Handle} (absent : machine.heap.get? handle = none) :
    (cell handle).on machine = (.ok (.ofCore .object .plain), machine) := by
  rw [cell, on_bind _ on_machine, absent]
  rfl

theorem on_body_absent {handle : Handle} (absent : machine.heap.get? handle = none) :
    (body handle).on machine = (.ok .plain, machine) := by
  rw [body, on_bind _ (on_cell_absent absent)]
  rfl

theorem on_body {handle : Handle} {content : Cell}
    (found : machine.heap.get? handle = some content) :
    (body handle).on machine = (.ok content.body, machine) := by
  rw [body, on_bind _ (on_cell found)]
  rfl

theorem on_setBody {handle : Handle} {content : Cell}
    (found : machine.heap.get? handle = some content) (next : Body) :
    (setBody handle next).on machine =
      (.ok (), { machine with heap := machine.heap.revise handle { content with body := next } }) := by
  rw [setBody, update, on_bind _ (on_cell found)]
  rfl

/-- The entries of a dictionary that is there. -/
theorem on_dictionary {handle : Handle} {content : Cell} {entries : Dictionary}
    (found : machine.heap.get? handle = some content) (shape : content.body = .dict entries) :
    (dictionary handle).on machine = (.ok entries, machine) := by
  rw [dictionary, on_bind _ (on_body found), shape]
  rfl

end ForeignBridge.Foreign.Run
