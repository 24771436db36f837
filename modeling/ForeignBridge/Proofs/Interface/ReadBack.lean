import ForeignBridge.Proofs.Bridge.Blind
import ForeignBridge.Proofs.Interface.Documents
import ForeignBridge.Proofs.Json.Completeness

/-! # Texts that are handed out are taken in again

What is handed out as the document of an object is the text of a document. It can be handed in again, and
gets an integer of its own, if no more containers stand in one another in it than a reader of documents
allows. Deeper documents are handed out, too, but they are not taken in again.
-/

namespace ForeignBridge

open Foreign (Machine)

/-- A world that takes texts in: there is a session, and the registry has an integer left. -/
structure World.TakesTexts (world : World) (table : Registry) : Prop where
  running : world.session ≠ none
  sound : world.machine.heap.Sound
  opened : world.registry = some table
  valid : table.Valid
  room : table.isFull = false

namespace CAbi

variable {world : World} {table : Registry} {document : Json} {text : String}

/-- The text of a document is taken in if it is not too deep. -/
theorem fromJson_write (takes : world.TakesTexts table) (wellFormed : document.WellFormed)
    (shallow : document.depth ≤ Json.depthLimit) : ∃ handle after,
      Act.on (perform (.fromJson (some (Value.bytes document.write)))) world = (.number table.next, after) ∧
      after.registry = some (table.insert handle) ∧ after.lastError = none := by
  obtain ⟨session, running⟩ := Option.ne_none_iff_exists'.mp takes.running
  obtain ⟨again, read⟩ := Json.read_write wellFormed shallow
  have within := Json.within_of_read read
  obtain ⟨handle, built, step⟩ := @Bridge.build_document world.cleared again takes.sound within.wellFormed
  obtain ⟨answered, -, lastError⟩ := perform_fromJson_of_build running takes.opened takes.room
    (Json.nulFree_write document) read step
  exact ⟨handle, _, answered, rfl, lastError⟩

/-- That a document is the one that is made of the object of an integer. -/
def HandsOut (world : World) (id : ℤ) (document : Json) : Prop :=
  (Bridge.on (withObject id Bridge.toJson) world.cleared).1 = .ok document

/-- What is made of an object is a document that there is. -/
theorem HandsOut.wellFormed {id : ℤ} (out : HandsOut world id document) : document.WellFormed := by
  obtain ⟨handle, held, -, looked⟩ := Bridge.ok_of_on_bind (Prod.ext out rfl)
  rw [Bridge.thenRelease_on] at looked
  replace looked := (Prod.mk.inj looked).1
  obtain ⟨value, middle, -, made⟩ := Bridge.ok_of_on_bind (Prod.ext looked rfl)
  rw [Bridge.thenRelease_on, Bridge.on_bind _ (Bridge.on_get middle)] at made
  replace made := (Prod.mk.inj made).1
  cases same : value.toJson middle.typeName with
  | error error =>
    rw [same] at made
    cases made
  | ok found =>
    rw [same] at made
    cases made
    exact Value.wellFormed_of_toJson same

/-- An object has a document just when there is no failure. -/
theorem lastError_toJson_eq_none_iff (world : World) (id : ℤ) :
    (Act.on (perform (.toJson id)) world).2.lastError = none ↔ ∃ document, HandsOut world id document := by
  have quiet := (@withObject_quiet World.Steady _ _ _ id Bridge.toJson_quiet).1 world.cleared
  change world.cleared.Steady (Bridge.on _ world.cleared).2 ∧ _ at quiet
  unfold HandsOut
  rw [perform, answer_on]
  cases found : Bridge.on (withObject id Bridge.toJson) world.cleared with
  | mk result after =>
    rw [found] at quiet
    cases result with
    | error error =>
      constructor
      · intro left
        cases left
      · rintro ⟨document, out⟩
        cases out
    | ok document => exact ⟨fun _ => ⟨document, rfl⟩, fun _ => quiet.1.lastError⟩

/-- The whole text of the document is handed out. -/
theorem HandsOut.answer {id : ℤ} (out : HandsOut world id document) :
    (Act.on (perform (.toJson id)) world).1 = .text document.write := by
  rw [HandsOut] at out
  rw [perform, answer_on]
  cases found : Bridge.on (withObject id Bridge.toJson) world.cleared with
  | mk result after =>
    rw [found] at out
    subst out
    exact congrArg Answer.text (cutAtNul_of_nulFree (Json.nulFree_write document))

/-- An object has a document just when no failure is left behind, and then its text is handed out. If no
more containers stand in one another in the document than can be read, the text is taken in by every world
that takes texts in: it gets the next integer, which nothing has yet. In every workspace that steps lead to
the objects and the registry are as they should be, so texts are taken in there if there is a session and
an integer is left. -/
theorem takenIn_of_handedOut :
    (∀ workspace table, Workspace.Reachable workspace → workspace.world.session ≠ none →
      workspace.world.registry = some table → table.isFull = false →
      workspace.world.TakesTexts table) ∧
    (∀ world id, (Act.on (perform (.toJson id)) world).2.lastError = none ↔
      ∃ document, HandsOut world id document) ∧
    ∀ (world : World) (id : ℤ) (document : Json), HandsOut world id document →
      (Act.on (perform (.toJson id)) world).1 = .text document.write ∧
      (document.depth ≤ Json.depthLimit → ∀ (later : World) (table : Registry), later.TakesTexts table →
        1 ≤ table.next ∧ table.get? table.next = none ∧ ∃ handle after,
          Act.on (perform (.fromJson (some (Value.bytes document.write)))) later =
            (.number table.next, after) ∧
          after.registry = some (table.insert handle) ∧ after.lastError = none) := by
  refine ⟨fun workspace table reachable running opened room => ?_, lastError_toJson_eq_none_iff,
    fun world id document out => ⟨out.answer, fun shallow later table takes =>
      ⟨takes.valid.positive, ?_, fromJson_write takes out.wellFormed shallow⟩⟩⟩
  · have calm := (Workspace.calm_of_reachable reachable).world
    exact ⟨running, calm.sound, opened, calm.registry table opened, room⟩
  · refine List.lookup_eq_none_iff.mpr fun entry member => ?_
    have below := (takes.valid.issued entry.1 (List.mem_map_of_mem member)).2
    exact bne_iff_ne.mpr below.ne'

/-- There is a world with an object for a document, in which texts are taken in. -/
theorem handsOut_normal (wellFormed : document.WellFormed) (shallow : document.depth ≤ 512) :
    ∃ world handle, World.TakesTexts world (Registry.empty.insert handle) ∧
      HandsOut world 1 document.normal := by
  have running : ((World.ofMachine Machine.bare ⟨none, none⟩).withSession (some .ofFixed)).session =
      some Session.ofFixed := rfl
  obtain ⟨handle, built, step, reads⟩ := Bridge.toJson_build running Session.standard_ofFixed
    Machine.sound_bare wellFormed shallow
  obtain ⟨same, after, again, builds, -⟩ := Bridge.roundTrips (.ofJson document) Session.standard_ofFixed _
    ⟨running, Machine.sound_bare⟩ (Value.convertible_ofJson wellFormed)
  obtain ⟨-, rfl⟩ := Prod.mk.inj (step.symm.trans again)
  have ready := builds.ready ⟨running, Machine.sound_bare⟩
  obtain ⟨world, isWorld⟩ : ∃ world : World,
      world = { built with registry := some (Registry.empty.insert handle) } := ⟨_, rfl⟩
  have opened : world.registry = some (Registry.empty.insert handle) := by rw [isWorld]
  have session : world.session = some .ofFixed := by rw [isWorld]; exact ready.session
  have machine : world.machine = built.machine := by rw [isWorld]
  refine ⟨world, handle, ⟨?_, ?_, opened, Registry.valid_empty.insert handle, rfl⟩, ?_⟩
  · rw [session]
    exact Option.some_ne_none _
  · rw [machine]
    exact ready.sound
  · obtain ⟨held, owned⟩ := world.cleared.owning_one handle
    have made := reads (world.cleared.withHeld held) session (machine ▸ .refl _ _)
    have looked := @withObject_on world.cleared _ _ 1 handle Bridge.toJson opened rfl
    rw [HandsOut, looked, owned, made]

/-- The largest double and a null character, handed out and taken in. -/
theorem takenIn_of_handedOut_largest :
    let text := "[1.7976931348623157e+308,\x7b\"a\":\"\\u0000\"\x7d]"
    ∃ world after, (Act.on (perform (.toJson 1)) world).1 = .text text ∧
      (Act.on (perform (.toJson 1)) world).2.lastError = none ∧
      Act.on (perform (.fromJson (some (Value.bytes text)))) world = (.number 2, after) := by
  intro text
  obtain ⟨document, isDocument⟩ : ∃ document : Json, document =
      .array [.float ⟨0x7FEFFFFFFFFFFFFF⟩, .object [("a", .string "\x00")]] := ⟨_, rfl⟩
  have wellFormed : document.WellFormed := by
    rw [isDocument]
    exact ⟨rfl, ⟨List.pairwise_singleton .., trivial, trivial⟩, trivial⟩
  have shallow : document.normal.depth = 2 := by
    rw [isDocument]
    decide +kernel
  have written : document.normal.write = text := by
    rw [isDocument]
    decide +kernel
  obtain ⟨world, handle, takes, out⟩ := handsOut_normal wellFormed (by rw [isDocument]; decide)
  obtain ⟨-, failed, handedOut⟩ := takenIn_of_handedOut
  obtain ⟨answered, takenIn⟩ := handedOut world 1 document.normal out
  obtain ⟨-, -, again, after, taken, -⟩ := takenIn (by rw [shallow]; decide) world _ takes
  rw [written] at answered taken
  exact ⟨world, after, answered, (failed world 1).mpr ⟨_, out⟩, taken⟩

/-! Deep documents. -/

/-- An array in an array and so on, so many times. -/
def nested : ℕ → Json
  | 0 => .array []
  | n + 1 => .array [nested n]

theorem wellFormed_nested (n : ℕ) : (nested n).WellFormed := by
  induction n with
  | zero => trivial
  | succ n ih => exact ⟨ih, trivial⟩

theorem depth_nested (n : ℕ) : (nested n).depth = n + 1 := by
  induction n with
  | zero => rfl
  | succ n ih => rw [nested, Json.depth, Json.itemsDepth, Json.itemsDepth, ih, Nat.max_zero]

theorem normal_nested (n : ℕ) : (nested n).normal = nested n := by
  induction n with
  | zero => rfl
  | succ n ih => rw [nested, Json.normal, Json.normalItems, Json.normalItems, ih]

/-- A list with 128 lists one in another is handed out as a document, but is not taken in again. -/
theorem not_takenIn_of_deep :
    ∃ world table, World.TakesTexts world table ∧
      (Act.on (perform (.toJson 1)) world).1 = .text (nested 127).write ∧
      (Act.on (perform (.toJson 1)) world).2.lastError = none ∧
      Act.on (perform (.fromJson (some (Value.bytes (nested 127).write)))) world =
        (.number 0, { world with lastError :=
          (some "Invalid argument: JSON: recursion limit exceeded at line 1 column 128") }) := by
  have refused : (Json.read (nested 127).write).map (fun _ => ()) = .error ⟨.tooDeep, 1, 128⟩ := by
    decide +kernel
  have failed : Json.read (nested 127).write = .error ⟨.tooDeep, 1, 128⟩ := by
    cases read : Json.read (nested 127).write with
    | ok document =>
      rw [read] at refused
      cases refused
    | error fault =>
      rw [read] at refused
      exact congrArg Except.error (Except.error.inj refused)
  obtain ⟨world, handle, takes, out⟩ := handsOut_normal (wellFormed_nested 127) (by rw [depth_nested]; decide)
  rw [normal_nested] at out
  exact ⟨world, _, takes, out.answer, (lastError_toJson_eq_none_iff world 1).mpr ⟨_, out⟩,
    perform_fromJson_of_error (Json.nulFree_write _) failed world⟩

end CAbi

end ForeignBridge
