import ForeignBridge.Proofs.Bridge.Documents

/-! # Building without a session

What is built for a value does not depend on the session. So a document has an object in every world whose
objects are as they should be, whichever classes the session knows.
-/

namespace ForeignBridge

open Foreign (Run)

/-- The world with another session. -/
def World.withSession (world : World) (session : Option Session) : World := { world with session }

theorem World.foldl_giveBack_withSession (handles : List Handle) (world : World)
    (session : Option Session) : handles.foldl giveBack (world.withSession session) =
      (handles.foldl giveBack world).withSession session := by
  have one (world : World) (handle : Handle) :
      (world.withSession session).giveBack handle = (world.giveBack handle).withSession session := by
    unfold giveBack
    split
    · rfl
    · change (if handle ∈ world.held then _ else _) = _
      split <;> rfl
  induction handles generalizing world with
  | nil => rfl
  | cons handle rest ih => rw [List.foldl_cons, List.foldl_cons, one, ih]

namespace Bridge

variable {α β : Type}

/-- That an act which succeeds does the same with any session, and leaves it alone. -/
def Blind (act : Bridge α) : Prop :=
  ∀ world value after session, act.on world = (.ok value, after) →
    act.on (world.withSession session) = (.ok value, after.withSession session)

namespace Blind

theorem pure (value : α) : Blind (pure value) := by
  rintro world _ _ session ⟨⟩
  rfl

theorem throw (error : BridgeError) : Blind (throw error : Bridge α) := by
  rintro world _ _ session ⟨⟩

theorem own (handle : Handle) : Blind (liftM (own handle) : Bridge Unit) := by
  intro world value after session step
  rw [on_lift, own_on] at step ⊢
  cases step
  rfl

theorem bind {first : Bridge α} {next : α → Bridge β} (head : Blind first)
    (tail : ∀ value, Blind (next value)) : Blind (first >>= next) := by
  intro world value after session step
  obtain ⟨part, middle, done, step⟩ := ok_of_on_bind step
  rw [on_bind _ (head world part middle session done)]
  exact tail part middle value after session step

theorem elseRelease {act : Bridge α} (handles : List Handle) (blind : Blind act) :
    Blind (elseRelease handles act) := by
  intro world value after session step
  rw [elseRelease_on] at step
  cases done : act.on world with
  | mk result middle =>
    rw [done] at step
    cases result with
    | error error => cases step
    | ok part =>
      cases step
      exact elseRelease_on_ok (blind world value after session done)

theorem thenRelease {act : Bridge α} (handles : List Handle) (blind : Blind act) :
    Blind (thenRelease handles act) := by
  intro world value after session step
  rw [thenRelease_on] at step
  obtain ⟨done, left⟩ := Prod.mk.inj step
  have same := blind world value (act.on world).2 session (Prod.ext done rfl)
  rw [thenRelease_on, same, World.foldl_giveBack_withSession, left]

/-- What is tried comes to something or to nothing, and to the same with any session. -/
theorem orThrow {act : Act (Option α)} {fallback : BridgeError}
    (blind : ∀ world value after session, act.on world = (some value, after) →
      act.on (world.withSession session) = (some value, after.withSession session)) :
    Blind (orThrow act fallback) := by
  intro world value after session step
  rw [Bridge.orThrow, on_bind_eq, on_lift] at step ⊢
  cases found : act.on world with
  | mk result middle =>
    rw [found] at step
    cases result with
    | none =>
      simp only [on_bind_eq, on_lift] at step
      cases step
    | some part =>
      rw [blind world part middle session found]
      cases step
      rfl

theorem attempt_some {run : Run α} {world after : World} {value : α} (session : Option Session)
    (step : Act.on (attempt run) world = (some value, after)) :
    Act.on (attempt run) (world.withSession session) = (some value, after.withSession session) := by
  cases done : run.on world.machine with
  | mk result machine =>
    cases result with
    | error thrown =>
      rw [attempt_on_error done] at step
      cases step
    | ok part =>
      rw [attempt_on_ok done] at step
      cases step
      exact attempt_on_ok done

theorem perform (run : Run α) : Blind (perform run) :=
  orThrow fun _ _ _ session step => attempt_some session step

theorem made (run : Run Handle) : Blind (made run) := by
  refine orThrow fun world value after session step => ?_
  rw [attemptOwned, Act.on_bind] at step ⊢
  cases found : Act.on (attempt run) world with
  | mk result middle =>
    rw [found] at step
    cases result with
    | none => cases step
    | some handle =>
      rw [attempt_some session found]
      change Act.on (if middle.has handle then _ else _) middle = _ at step
      change Act.on (if middle.has handle then _ else _) (middle.withSession session) = _
      split at step
      · rename_i present
        rw [if_pos present]
        rw [Act.on_bind, own_on] at step ⊢
        cases step
        rfl
      · cases step

end Blind

theorem buildItems_blind {items : List Value} (each : ∀ item ∈ items, Blind (build item))
    (list : Handle) (place : ℕ) : Blind (buildItems list place items) := by
  induction items generalizing place with
  | nil => exact .pure ()
  | cons item rest ih =>
    obtain ⟨first, others⟩ := List.forall_mem_cons.mp each
    rw [buildItems]
    exact first.bind fun handle => (Blind.thenRelease [handle] (.perform _)).bind fun _ =>
      ih others (place + 1)

theorem buildPairs_blind {pairs : List (Value × Value)}
    (each : ∀ pair ∈ pairs, Blind (build pair.1) ∧ Blind (build pair.2)) (dict : Handle) :
    Blind (buildPairs dict pairs) := by
  induction pairs with
  | nil => exact .pure ()
  | cons pair rest ih =>
    obtain ⟨⟨key, value⟩, others⟩ := List.forall_mem_cons.mp each
    rw [buildPairs]
    exact key.bind fun name => (value.elseRelease [name]).bind fun handle =>
      (Blind.thenRelease [name, handle] (.perform _)).bind fun _ => ih others

/-- What is built for a value does not depend on the session. -/
theorem build_blind (value : Value) : Blind (build value) := by
  have fill {content : Handle → Bridge Unit} (run : Run Handle) (blind : ∀ handle, Blind (content handle)) :
      Blind (do
        let container ← made run
        elseRelease [container] (content container)
        return container) :=
    (Blind.made run).bind fun container =>
      ((blind container).elseRelease [container]).bind fun _ => .pure container
  induction value using Value.induction with
  | null => exact (Blind.own _).bind fun _ => .pure _
  | bool b => exact .made _
  | int n => exact .made _
  | float x => exact .made _
  | text s => exact .made _
  | list items each =>
    rw [build]
    exact fill _ fun list => buildItems_blind each list 0
  | map pairs each =>
    rw [build]
    exact fill _ fun dict => buildPairs_blind each dict
  | record fields each =>
    rw [build]
    refine fill _ fun dict => ?_
    rw [buildFields_eq]
    refine buildPairs_blind (List.forall_mem_map.mpr fun field member => ⟨?_, each field member⟩) dict
    rw [build]
    exact .made _
  | object handle => exact (Blind.own handle).bind fun _ => .pure handle
  | function identity => exact .throw _

/-- An object can be built for every document. -/
theorem build_document {world : World} {document : Json} (sound : world.machine.heap.Sound)
    (wellFormed : document.WellFormed) :
    ∃ handle built, Bridge.on (build (.ofJson document)) world = (.ok handle, built) := by
  have ready : (world.withSession (some .ofFixed)).Ready .ofFixed := ⟨rfl, sound⟩
  obtain ⟨handle, built, step, -⟩ := roundTrips (.ofJson document) Session.standard_ofFixed _ ready
    (Value.convertible_ofJson wellFormed)
  exact ⟨handle, _, build_blind _ (world.withSession (some .ofFixed)) handle built world.session step⟩

end Bridge

end ForeignBridge
