import ForeignBridge.Proofs.Bridge.Documents
import ForeignBridge.Proofs.Interface.Answers
import ForeignBridge.Proofs.Json.Writer
import ForeignBridge.Proofs.Text.Utf8

/-! # Documents through the C interface

A text that is handed in as a document gets an integer for the object that is built for it. As long as
that object does not change, its document can be handed out, and it is the normal form of what has been
handed in; its text is not cut. A text that is no document changes nothing.
-/

namespace ForeignBridge

open Foreign (Core Machine)

theorem World.owning_one (world : World) (handle : Handle) :
    ∃ held, world.owning [handle] = world.withHeld held :=
  ⟨_, congrArg Prod.snd (Bridge.own_on handle world)⟩

namespace CAbi

variable {world : World} {session : Session} {table : Registry} {text : String}

/-- The text at a pointer to the bytes of a text. -/
theorem readText_bytes (clean : NulFree text) : readText (some (Value.bytes text)) = .ok text := by
  have whole : (Value.bytes text).takeWhile (· != 0) = Value.bytes text := by
    refine List.takeWhile_eq_self_iff.mpr fun byte member => bne_iff_ne.mpr ?_
    rintro rfl
    exact Utf8.zero_notMem_bytes clean member
  unfold readText
  simp only [whole, Utf8.decode_bytes]

theorem argumentText_on (clean : NulFree text) (world : World) :
    Bridge.on (argumentText (some (Value.bytes text))) world = (.ok text, world) := by
  rw [argumentText, readText_bytes clean]
  rfl

/-- What is done with a text that is no document. -/
theorem fromJson_on_error {fault : Json.Fault} (clean : NulFree text)
    (failed : Json.read text = .error fault) (world : World) :
    Bridge.on (fromJson (some (Value.bytes text))) world =
      (.error (.invalidArgument ("JSON: " ++ fault.message)), world) := by
  rw [fromJson, Bridge.on_bind _ (argumentText_on clean world), failed]
  rfl

/-- What is done with a text that is a document. -/
theorem fromJson_on_ok {document : Json} (clean : NulFree text)
    (done : Json.read text = .ok document) (running : world.session = some session) :
    Bridge.on (fromJson (some (Value.bytes text))) world =
      Bridge.on (registered (Bridge.build (.ofJson document))) world := by
  rw [fromJson, Bridge.on_bind _ (argumentText_on clean world), done]
  exact Bridge.on_bind _ (Bridge.session_on running)

/-- An object is looked at while it is held. -/
theorem withObject_on {α : Type} {id : ℤ} {handle : Handle} (look : Handle → Bridge α)
    (opened : world.registry = some table) (found : table.get? id = some handle) :
    Bridge.on (withObject id look) world =
      ((Bridge.on (look handle) (world.owning [handle])).1,
        (Bridge.on (look handle) (world.owning [handle])).2.giveBack handle) := by
  have resolved : Bridge.on (Bridge.resolve id) world = (.ok handle, world.owning [handle]) := by
    rw [Bridge.resolve_on, opened]
    simp only [found]
    rfl
  rw [withObject, Bridge.on_bind _ resolved, Bridge.thenRelease_on]
  rfl

/-- What is built leaves the session, the registry and the last error alone. -/
theorem build_steady {value : Value} {handle : Handle} {built : World}
    (step : Bridge.on (Bridge.build value) world = (.ok handle, built)) : world.Steady built := by
  have quiet := (@Bridge.build_quiet World.Steady _ value).1 world
  change world.Steady (Bridge.on _ world).2 ∧ _ at quiet
  rw [step] at quiet
  exact quiet.1

/-- The error for a text that is no document. -/
theorem perform_fromJson_of_error {fault : Json.Fault} (clean : NulFree text)
    (failed : Json.read text = .error fault) (world : World) :
    Act.on (perform (.fromJson (some (Value.bytes text)))) world =
      (.number 0, { world with
        lastError := some ("Invalid argument: JSON: " ++ fault.message) }) := by
  have display : (BridgeError.invalidArgument ("JSON: " ++ fault.message)).display =
      "Invalid argument: JSON: " ++ fault.message := by
    change "Invalid argument: " ++ ("JSON: " ++ fault.message) = _
    rw [← String.append_assoc]
    rfl
  have kept : spellNuls ("Invalid argument: JSON: " ++ fault.message) =
      "Invalid argument: JSON: " ++ fault.message :=
    spellNuls_of_nulFree (.append (by decide) fault.nulFree_message)
  rw [perform, answerNumber, answer_on, fromJson_on_error clean failed]
  simp only [display, kept]
  rfl

/-- The integer of the object that is built for a document is the next one. -/
theorem perform_fromJson_of_build {document : Json} {handle : Handle} {built : World}
    (running : world.session = some session) (opened : world.registry = some table)
    (room : table.isFull = false) (clean : NulFree text) (done : Json.read text = .ok document)
    (step : Bridge.on (Bridge.build (.ofJson document)) world.cleared = (.ok handle, built)) :
    Act.on (perform (.fromJson (some (Value.bytes text)))) world =
      (.number table.next, { built with registry := some (table.insert handle) }) ∧
      built.session = some session ∧ built.lastError = none := by
  have steady := build_steady step
  have kept : built.registry = some table := steady.registry.trans opened
  have made : Bridge.on (fromJson (some (Value.bytes text))) world.cleared =
      (.ok table.next, { built with registry := some (table.insert handle) }) := by
    rw [@fromJson_on_ok world.cleared session text document clean done running, registered,
      Bridge.on_bind _ step, Bridge.register_on, kept]
    simp only [room, Bool.false_eq_true, ↓reduceIte]
  refine ⟨?_, steady.session.trans running, steady.lastError⟩
  rw [perform, answerNumber, answer_on, made]

end CAbi

end ForeignBridge
