import ForeignBridge.Proofs.Foreign.Names
import ForeignBridge.Proofs.Foreign.Routines

/-! # Attributes

What stands in the classes of an object is found in the catalogue, so whether a name is an attribute of
a module is decided by the names in the dictionary of the module, unless the catalogue has it.
-/

namespace ForeignBridge.Foreign.Run

variable {machine : Machine} {handle : Handle} {content : Cell} {core : Core} {name : String}

theorem on_core? (found : machine.heap.get? handle = some content)
    (type : content.type = core.handle) : (core? handle).on machine = (.ok (some core), machine) := by
  rw [core?, on_bind _ (on_cell found), type, Core.ofHandle?_handle]
  rfl

theorem on_typeOf (found : machine.heap.get? handle = some content) :
    (typeOf handle).on machine = (.ok content.type, machine) := by
  rw [typeOf, on_bind _ (on_cell found)]
  rfl

/-- A built-in class is what it is. -/
theorem get?_class (sound : machine.heap.Sound) (core : Core) :
    machine.heap.get? core.handle = some (.ofCore .type (.core core)) :=
  sound.fixed (Fixed.get?_class core) (by simp [Cell.isFixed, Cell.ofCore, Cell.of])

theorem on_lineage (sound : machine.heap.Sound) (core : Core) :
    (lineage core.handle).on machine = (.ok (core.lineage.map Core.handle), machine) := by
  rw [lineage, on_bind _ (on_body (get?_class sound core))]
  rfl

theorem on_lookup (sound : machine.heap.Sound) (name : String) (cores : List Core) :
    (lookup name (cores.map Core.handle)).on machine =
      (.ok (cores.findSome? (·.attribute? name)), machine) := by
  induction cores with
  | nil => rfl
  | cons core rest ih =>
    have first : (inClass? core.handle name).on machine = (.ok (core.attribute? name), machine) := by
      rw [inClass?, on_bind _ (on_body (get?_class sound core))]
      rfl
    rw [List.map_cons, lookup, on_bind _ first, List.findSome?_cons]
    cases core.attribute? name with
    | none => exact ih
    | some found => rfl

/-- What stands in the built-in classes of an object is in the catalogue. -/
theorem on_typeAttribute (sound : machine.heap.Sound)
    (found : machine.heap.get? handle = some content) (type : content.type = core.handle)
    (name : String) : (typeAttribute handle name).on machine =
      (.ok (core.lineage.findSome? (·.attribute? name)), machine) := by
  rw [typeAttribute, on_bind _ (on_typeOf found), type, classEntry?, on_bind _ (on_lineage sound core),
    on_lookup sound]

/-! Modules. -/

section Modules

variable {module dict value : Handle} {names : NameList}

theorem on_own?_module (found : machine.heap.get? module = some (Fixed.moduleCell dict))
    (named : machine.heap.Names dict names) (name : String) :
    (own? module name).on machine = (.ok (names.lookup (.ofString name)), machine) := by
  rw [own?, on_bind _ (on_cell found)]
  exact on_getName? named name

/-- A name that no class of modules has is looked up among the names of a module. -/
theorem on_plainAttribute?_module (invoke : Invoke) (sound : machine.heap.Sound)
    (found : machine.heap.get? module = some (Fixed.moduleCell dict))
    (named : machine.heap.Names dict names)
    (plain : Core.module.lineage.findSome? (·.attribute? name) = none) :
    (plainAttribute? invoke module name).on machine =
      (.ok (names.lookup (.ofString name)), machine) := by
  rw [plainAttribute?, on_bind _ (on_typeAttribute sound found rfl name), plain]
  refine (on_bind _ (on_own?_module found named name)).trans ?_
  cases names.lookup (.ofString name) <;> rfl

theorem on_getAttribute_module (invoke : Invoke) (sound : machine.heap.Sound)
    (found : machine.heap.get? module = some (Fixed.moduleCell dict))
    (named : machine.heap.Names dict names)
    (plain : Core.module.lineage.findSome? (·.attribute? name) = none)
    (there : names.lookup (.ofString name) = some value) :
    (getAttribute invoke module name).on machine = (.ok value, machine) := by
  have ruled (other : Handle → String → Run Handle) :
      (ruledAttribute invoke other module name).on machine = (.ok value, machine) := by
    rw [ruledAttribute, on_bind _ (on_body found)]
    refine (on_bind _ (on_plainAttribute?_module invoke sound found named plain)).trans ?_
    rw [there]
    rfl
  rw [getAttribute, attributeWithin, on_bind _ (on_core? found rfl)]
  exact ruled _

/-- An exception that has passed through no calls is raised as it is while none is being handled. -/
theorem on_raise {α : Type} {exception : Handle} {core : Core} {info : ExceptionInfo}
    (found : machine.heap.get? exception = some (.ofCore core (.exception info)))
    (fresh : info.parts.lookup "__traceback__" = none) (unhandled : machine.handling = none) :
    (raise exception : Run α).on machine = (.error ⟨exception, [], false⟩, machine) := by
  have context : (setContext exception).on machine = (.ok (), machine) := by
    rw [setContext, on_bind _ on_machine, unhandled]
    rfl
  have traceback : (tracebackOf exception).on machine = (.ok [], machine) := by
    rw [tracebackOf, on_bind _ (on_body found)]
    simp only [Cell.ofCore, Cell.of, fresh]
    rfl
  rw [raise, on_bind _ context, on_bind _ traceback]
  rfl

/-- A new exception is two objects more, it and the tuple of its arguments. -/
theorem on_newExceptionWith (core : Core) (argument : Handle) (parts : List (String × Handle)) :
    ∃ exception arguments after,
      (newExceptionWith core [argument] parts).on machine = (.ok exception, after) ∧
      machine.Extends (fun _ => False) after ∧
      after.heap.get? exception = some (.ofCore core (.exception ⟨arguments, parts⟩)) :=
  ⟨_, _, _, rfl, (Machine.Extends.new machine _).trans (.new _ _), Heap.get?_add_self _ _⟩

/-- Raising that an attribute is not there makes objects only. -/
theorem on_failAttribute {α : Type} (sound : machine.heap.Sound)
    (unhandled : machine.handling = none) (handle : Handle) (name message : String) :
    ∃ thrown after, (failAttribute handle name message : Run α).on machine = (.error thrown, after) ∧
      machine.Extends (fun _ => False) after := by
  obtain ⟨text, first, textStep, early, _⟩ := on_newText sound (.ofString message)
  obtain ⟨key, second, keyStep, late, _⟩ :=
    on_internText (early.sound sound) (.ofString name)
  obtain ⟨exception, arguments, after, step, last, there⟩ :=
    @on_newExceptionWith second .attributeError text [("name", key), ("obj", handle)]
  have all := (early.trans late).trans last
  have free := (congrArg Registers.handling all.registers).trans unhandled
  refine ⟨⟨exception, [], false⟩, after, ?_, all⟩
  rw [failAttribute, newString, on_bind _ textStep, internString, on_bind _ keyStep, on_bind _ step,
    on_raise there rfl free]

theorem on_ownText?_module (found : machine.heap.get? module = some (Fixed.moduleCell dict))
    (named : machine.heap.Names dict names) (name : String) :
    ∃ text, (ownText? module name).on machine = (.ok text, machine) := by
  have own := on_own?_module found named name
  cases there : names.lookup (.ofString name) with
  | none =>
    rw [there] at own
    exact ⟨none, by rw [ownText?, on_bind _ own]; rfl⟩
  | some value =>
    rw [there] at own
    obtain ⟨cell, present⟩ := Option.isSome_iff_exists.mp (named.has there)
    have text : ∃ text, (text? value).on machine = (.ok text, machine) := by
      rw [text?, on_bind _ (on_body present)]
      split <;> exact ⟨_, rfl⟩
    obtain ⟨text, step⟩ := text
    exact ⟨text.map CodePoints.lossy, by rw [ownText?, on_bind _ own, on_bind _ step]; rfl⟩

/-- A module whose names do not include a name does not have it, unless it has a rule for that. -/
theorem on_getAttribute_module_missing (invoke : Invoke) (sound : machine.heap.Sound)
    (unhandled : machine.handling = none)
    (found : machine.heap.get? module = some (Fixed.moduleCell dict))
    (named : machine.heap.Names dict names)
    (plain : Core.module.lineage.findSome? (·.attribute? name) = none)
    (absent : names.lookup (.ofString name) = none)
    (noRule : names.lookup (.ofString "__getattr__") = none) :
    ∃ thrown after, (getAttribute invoke module name).on machine = (.error thrown, after) ∧
      machine.Extends (fun _ => False) after := by
  have told : ∃ message, (noModuleAttribute module name : Run Handle).on machine =
      (failAttribute module name message : Run Handle).on machine := by
    obtain ⟨title, step⟩ := on_ownText?_module found named "__name__"
    cases title with
    | some title => exact ⟨_, by rw [noModuleAttribute, on_bind _ step]⟩
    | none => exact ⟨_, by rw [noModuleAttribute, on_bind _ step]⟩
  obtain ⟨message, told⟩ := told
  obtain ⟨thrown, after, failed, kept⟩ := on_failAttribute sound unhandled module name message
  have ruled (other : Handle → String → Run Handle) :
      (ruledAttribute invoke other module name).on machine = (.error thrown, after) := by
    rw [ruledAttribute, on_bind _ (on_body found)]
    refine (on_bind _ (on_plainAttribute?_module invoke sound found named plain)).trans ?_
    rw [absent]
    refine (on_bind _ (on_own?_module found named "__getattr__")).trans ?_
    rw [noRule]
    exact told.trans failed
  refine ⟨thrown, after, ?_, kept⟩
  rw [getAttribute, attributeWithin, on_bind _ (on_core? found rfl)]
  exact ruled _

end Modules

/-! Lists. -/

/-- A method of lists is bound to the list that it is read of. -/
theorem on_getAttribute_list (invoke : Invoke) (sound : machine.heap.Sound) {list : Handle}
    {items : List Handle} {arity : Arity}
    (found : machine.heap.get? list = some (.ofCore .list (.list items))) (plain : name ≠ "__hash__")
    (member : (name, .method, arity) ∈ Catalog.ofCore .list)
    (only : ∀ line ∈ Catalog.ofCore .list, line.1 = name → line.2 = (.method, arity)) :
    ∃ method after, (getAttribute invoke list name).on machine = (.ok method, after) ∧
      machine.Extends (fun _ => False) after ∧ after.heap.get? method =
        some (.ofCore .builtinFunction (.boundRoutine ⟨.core .list, name, .method, arity⟩ list)) := by
  obtain ⟨entry, inList, fixed⟩ := Core.attribute?_of_line plain member only
  have there := sound.fixed fixed (isFixed_routine _ _)
  have inClass : Core.list.lineage.findSome? (·.attribute? name) = some entry := by
    rw [show Core.list.lineage = [.list, .object] from rfl, List.findSome?_cons, inList]
  have noData : (isData entry).on machine = (.ok false, machine) := by
    rw [isData, on_bind _ (on_body there)]
    rfl
  have own : (own? list name).on machine = (.ok none, machine) := by
    rw [own?, on_bind _ (on_cell found)]
    rfl
  let content : Cell := .ofCore .builtinFunction (.boundRoutine ⟨.core .list, name, .method, arity⟩ list)
  have bound : (bindTo invoke entry list name).on machine = (new content).on machine := by
    rw [bindTo, on_bind _ (on_body there)]
    refine (on_bind _ (on_typeOf found)).trans ?_
    rw [bind, on_bind _ (on_body there)]
    simp only [Cell.ofCore, Cell.of, Heap.not_isNull_of_get? found, Bool.false_eq_true, ↓reduceIte]
    rfl
  have plainly : (plainAttribute? invoke list name).on machine =
      (.ok (some (machine.heap.add content).1),
        { machine with heap := (machine.heap.add content).2 }) := by
    rw [plainAttribute?, on_bind _ (on_typeAttribute sound found rfl name), inClass]
    refine (on_bind _ noData).trans ?_
    refine (on_bind _ own).trans ?_
    exact on_bind _ (bound.trans (on_new content))
  refine ⟨_, _, ?_, .new machine content, Heap.get?_add_self _ _⟩
  rw [getAttribute, attributeWithin, on_bind _ (on_core? found rfl)]
  change (ruledAttribute invoke _ list name).on machine = _
  rw [ruledAttribute, on_bind _ (on_body found)]
  exact on_bind _ plainly

end ForeignBridge.Foreign.Run
