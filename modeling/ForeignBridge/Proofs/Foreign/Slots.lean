import ForeignBridge.Proofs.Foreign.Attributes
import ForeignBridge.Proofs.Text.Without

/-! # Slots of built-in classes

What stands in a built-in class for an operation without arguments is called on an instance by way of the
catalogue. So an exception of a class without a rule of its own has the text that it was given, and a
built-in class has its name between angle brackets.
-/

namespace ForeignBridge.Foreign

/-- The classes in which exceptions of some class are looked up, and that their text is made by the rule
for all exceptions. -/
structure Core.IsPlainError (core : Core) : Prop where
  inherits : core.lineage.findSome? (·.attribute? "__str__") = Core.baseException.attribute? "__str__"
  below : Core.baseException ∈ core.lineage

theorem Core.typeError_isPlainError : Core.typeError.IsPlainError := by
  have ownError : Core.typeError.attribute? "__str__" = none :=
    attribute?_eq_none (by decide) (by decide)
  have ownException : Core.exception.attribute? "__str__" = none :=
    attribute?_eq_none (by decide) (by decide)
  obtain ⟨entry, found, _⟩ := @attribute?_of_line .baseException "__str__" .slot .none (by decide)
    (by decide) (by decide)
  -- Nothing is computed here, since the table of all routines is large.
  have third {find : Core → Option Handle} (first : find .typeError = none)
      (second : find .exception = none) (third : find .baseException = some entry) :
      Core.typeError.lineage.findSome? find = some entry := by
    change List.findSome? find [.typeError, .exception, .baseException, .object] = some entry
    rw [List.findSome?_cons, first, List.findSome?_cons, second, List.findSome?_cons, third]
  have whole := @third (fun core => core.attribute? "__str__") ownError ownException found
  exact ⟨whole.trans found.symm, by decide⟩

namespace Run

variable {machine : Machine} {self entry text : Handle} {content : Cell} {core owner : Core}
  {name : String}

theorem on_isA (sound : machine.heap.Sound) (found : machine.heap.get? self = some content)
    (type : content.type = core.handle) (below : owner ∈ core.lineage) :
    (isA self owner).on machine = (.ok true, machine) := by
  have within : (core.lineage.map Core.handle).contains owner.handle = true :=
    List.contains_iff_mem.mpr (List.mem_map_of_mem below)
  rw [isA, on_bind _ (on_cell found), type, isSubclass, on_bind _ (on_lineage sound core), within]
  rfl

/-- A slot without arguments is called on an instance. -/
theorem on_callEntry_slot (sound : machine.heap.Sound) (levels : ℕ)
    (rule : machine.heap.get? entry =
      some (.ofCore (Fixed.routineClass .slot) (.routine ⟨.core owner, name, .slot, .none⟩)))
    (found : machine.heap.get? self = some content) (type : content.type = core.handle)
    (below : owner ∈ core.lineage) (plain : owner ≠ .attributeDescriptor ∧ owner ≠ .memberDescriptor) :
    (callEntry (invokeWithin (levels + 1)) entry self []).on machine =
      (callCoreRoutine (invokeWithin levels) owner name self (.of [])).on machine := by
  have checked : (checkObject ⟨.core owner, name, .slot, .none⟩ owner self).on machine =
      (.ok (), machine) := by
    rw [checkObject]
    exact on_bind _ (on_isA sound found type below)
  have performed : performRoutine (invokeWithin levels) owner name self (.of []) =
      callCoreRoutine (invokeWithin levels) owner name self (.of []) := by
    unfold performRoutine
    split
    · exact (plain.1 rfl).elim
    · exact (plain.2 rfl).elim
    · rfl
  rw [callEntry, on_bind _ (on_body rule)]
  change (callObject (invokeWithin levels) entry (.of [self])).on machine = _
  rw [callObject, on_bind _ (on_body rule)]
  change (callRoutine (invokeWithin levels) entry ⟨.core owner, name, .slot, .none⟩ (.of [self])).on
    machine = _
  rw [callRoutine]
  refine (on_bind _ checked).trans ?_
  rw [← performed]
  rfl

/-- The text of an exception that was given a text alone is that text. -/
theorem on_strOf_exception (sound : machine.heap.Sound) {exception arguments : Handle}
    {parts : List (String × Handle)} {codes : CodePoints} (plain : core.IsPlainError)
    (found : machine.heap.get? exception = some (.ofCore core (.exception ⟨arguments, parts⟩)))
    (given : machine.heap.get? arguments = some (.ofCore .tuple (.tuple [text])))
    (worded : machine.heap.get? text = some (.ofCore .str (.text codes))) :
    (strOf call exception).on machine = (.ok text, machine) := by
  obtain ⟨entry, there, rule⟩ := @Core.attribute?_of_line .baseException "__str__" .slot .none
    (by decide) (by decide) (by decide)
  have other : core ≠ .str := by
    rintro rfl
    exact absurd plain.below (by decide)
  have inner (invoke : Invoke) : (strOf invoke text).on machine = (.ok text, machine) := by
    rw [strOf, on_bind _ (on_core? worded rfl)]
    rfl
  have composed (invoke : Invoke) :
      (callCoreRoutine invoke .baseException "__str__" exception (.of [])).on machine =
        (.ok text, machine) := by
    change (exceptionText invoke exception).on machine = _
    have first : (argumentsOf exception).on machine = (.ok arguments, machine) := by
      rw [argumentsOf, on_bind _ (on_body found)]
      rfl
    have only : (itemsOf arguments).on machine = (.ok [text], machine) := by
      rw [itemsOf, on_bind _ (on_body given)]
      rfl
    rw [exceptionText, on_bind _ first, on_bind _ only]
    exact inner invoke
  have answered : (textAnswer "__str__" text).on machine = (.ok text, machine) := by
    rw [textAnswer, on_bind _ (on_body worded)]
    rfl
  have called : (callEntry call entry exception []).on machine = (.ok text, machine) :=
    (on_callEntry_slot sound 999 (sound.fixed rule (isFixed_routine _ _)) found rfl plain.below
      (by decide)).trans (composed _)
  rw [strOf, on_bind _ (on_core? found rfl), if_neg fun same => other (Option.some.inj same),
    on_bind _ (on_typeAttribute sound found rfl _), plain.inherits, there]
  exact (on_bind _ called).trans answered

/-- The text of a built-in class of the module of built-in names has its name in it. -/
theorem on_strOf_class (sound : machine.heap.Sound) (plain : '.' ∉ core.name.toList)
    (long : Fixed.text? (.ofString ("<class '" ++ core.name ++ "'>")) = none) :
    (strOf call core.handle).on machine =
      (newOf .str (.text (.ofString ("<class '" ++ core.name ++ "'>")))).on machine := by
  let content : Cell := .ofCore .str (.text (.ofString ("<class '" ++ core.name ++ "'>")))
  have home : core.home = "builtins" := by
    rw [Core.home, Text.splitOn_dot plain]
  have cls := get?_class sound core
  obtain ⟨entry, there, rule⟩ := @Core.attribute?_of_line .object "__str__" .slot .none
    (by decide) (by decide) (by decide)
  obtain ⟨shown, thereToo, showing⟩ := @Core.attribute?_of_line .type "__repr__" .slot .none
    (by decide) (by decide) (by decide)
  have noText : Core.type.attribute? "__str__" = none :=
    Core.attribute?_eq_none (by decide) (by decide)
  have two {find : Core → Option Handle} : Core.type.lineage.findSome? find =
      (find .type).or (find .object) := by
    change List.findSome? find [.type, .object] = _
    rw [List.findSome?_cons, List.findSome?_cons]
    cases find .type with
    | none => cases find .object <;> rfl
    | some _ => rfl
  have inText : Core.type.lineage.findSome? (fun core => core.attribute? "__str__") = some entry := by
    rw [two, noText, there, Option.none_or]
  have inShown : Core.type.lineage.findSome? (fun core => core.attribute? "__repr__") = some shown := by
    rw [two, thereToo, Option.some_or]
  have answered (what : String) : (textAnswer what (machine.heap.add content).1).on
      { machine with heap := (machine.heap.add content).2 } =
        (.ok (machine.heap.add content).1, { machine with heap := (machine.heap.add content).2 }) := by
    rw [textAnswer, on_bind _ (on_body (Heap.get?_add_self machine.heap content))]
    rfl
  have made (invoke : Invoke) :
      (callCoreRoutine invoke .type "__repr__" core.handle (.of [])).on machine =
        (newOf .str (.text (.ofString ("<class '" ++ core.name ++ "'>")))).on machine := by
    change (typeRoutine invoke "__repr__" core.handle (.of [])).on machine = _
    have atHome : (homeName? core.handle).on machine = (.ok (some "builtins"), machine) := by
      rw [homeName?, on_bind _ (on_body cls), ← home]
      rfl
    have named : (fullName core.handle).on machine = (.ok core.name, machine) := by
      rw [fullName, on_bind _ atHome]
      change (className core.handle).on machine = _
      rw [className, on_bind _ (on_body cls)]
      rfl
    change (fullName core.handle >>= fun name => newString ("<class '" ++ name ++ "'>")).on machine = _
    rw [on_bind _ named, newString, newText, long]
  have repr (levels : ℕ) : (reprOf (invokeWithin (levels + 1)) core.handle).on machine =
      (new content).on machine := by
    have called := (on_callEntry_slot sound levels (sound.fixed showing (isFixed_routine _ _)) cls rfl
      (by decide) (by decide)).trans (made (invokeWithin levels))
    rw [reprOf, on_bind _ (on_typeAttribute sound cls rfl _), inShown]
    exact (on_bind _ called).trans (answered "__repr__")
  have called := (on_callEntry_slot sound 999 (sound.fixed rule (isFixed_routine _ _)) cls rfl
    (by decide) (by decide)).trans (repr 998)
  rw [strOf, on_bind _ (on_core? cls rfl), if_neg (by decide),
    on_bind _ (on_typeAttribute sound cls rfl _), inText]
  exact (on_bind _ called).trans (answered "__str__")

end Run

end ForeignBridge.Foreign
