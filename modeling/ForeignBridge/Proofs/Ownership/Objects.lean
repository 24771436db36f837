import ForeignBridge.Bridge.Objects
import ForeignBridge.Proofs.Bridge.Unfolding
import ForeignBridge.Proofs.Ownership.Raised
import ForeignBridge.Proofs.Value.Objects

/-! # Objects in balance

To build an object, to read one and to ask something of it leaves the host with a reference to the
result and with no other, whatever fails on the way. Half of a list that is built goes with the list.
-/

namespace ForeignBridge

open World (Change)

namespace Bridge

variable {change : World → World → Prop} [Change change] {lent : List Handle}

/-! Building. -/

theorem own_balances {handle : Handle} (part : handle ∈ lent) :
    Act.Balances change lent [] (own handle) fun _ => [handle] := by
  intro world owed calm alive
  have steady := World.steady_own handle world
  refine ⟨Change.of_steady steady, ⟨calm.toHolds.own handle, ?_⟩,
    (alive.mono (List.cons_subset.mpr ⟨part, List.nil_subset _⟩)).grows steady.grows⟩
  rw [own_on]
  exact calm.pending

theorem putPlace_balances (container : Handle) (place : ℕ) (item : Handle) :
    Bridge.Balances change lent [item] (putPlace container place item) fun _ => [] :=
  .thenRelease [item] (perform_balances _)

theorem putItem_balances (dict key value : Handle) :
    Bridge.Balances change lent [key, value] (putItem dict key value) fun _ => [] :=
  .thenRelease [key, value] (perform_balances _)

/-- That an object for a value is built with one reference to it. -/
def Builds (change : World → World → Prop) (lent : List Handle) (value : Value) : Prop :=
  Bridge.Balances change lent [] (build value) fun handle => [handle]

theorem buildItems_balances {items : List Value} (container : Handle) (place : ℕ)
    (each : ∀ item ∈ items, Builds change lent item) :
    Bridge.Balances change lent [] (buildItems container place items) fun _ => [] := by
  induction items generalizing place with
  | nil => exact .pure (.refl _) (List.nil_subset _)
  | cons item rest ih =>
    obtain ⟨first, each⟩ := List.forall_mem_cons.mp each
    refine first.bind fun handle => (putPlace_balances container place handle).bind fun _ => ?_
    exact (ih (place + 1) each).lend (List.subset_append_right _ _)

theorem buildPairs_balances {pairs : List (Value × Value)} (dict : Handle)
    (each : ∀ pair ∈ pairs, Builds change lent pair.1 ∧ Builds change lent pair.2) :
    Bridge.Balances change lent [] (buildPairs dict pairs) fun _ => [] := by
  induction pairs with
  | nil => exact .pure (.refl _) (List.nil_subset _)
  | cons pair rest ih =>
    obtain ⟨⟨first, second⟩, each⟩ := List.forall_mem_cons.mp each
    refine first.bind fun key => ?_
    refine (Balances.elseRelease (List.subset_append_left [key] lent)
      (second.lend (List.subset_append_right _ _))).bind fun value => ?_
    exact (putItem_balances dict key value).bind fun _ => (ih each).lend fun _ member => by
      simp [member]

/-- A container that is made and then filled goes if it cannot be filled. -/
theorem fill_balances {run : Foreign.Run Handle} {fill : Handle → Bridge Unit}
    (filled : ∀ container, Bridge.Balances change lent [] (fill container) fun _ => []) :
    Bridge.Balances change lent [] (do
      let container ← made run
      elseRelease [container] (fill container)
      return container) fun container => [container] := by
  refine (made_balances run).bind fun container => ?_
  refine (Balances.elseRelease (List.subset_append_left [container] lent)
    ((filled container).lend (List.subset_append_right _ _))).bind fun _ => ?_
  exact .pure (.refl _) (by simp)

/-- What is fixed is there in every world, so a reference to it may be taken. -/
theorem own_fixed_balances {handle : Handle} {cell : Foreign.Cell}
    (there : Foreign.Fixed.heap.get? handle = some cell) (isFixed : cell.isFixed = true) :
    Act.Balances change lent [] (own handle) fun _ => [handle] := by
  intro world owed calm _
  have present : world.has handle = true :=
    Option.isSome_iff_exists.mpr ⟨_, calm.sound.fixed there isFixed⟩
  exact own_balances (List.mem_singleton_self handle) world owed calm (World.alive_singleton present)

/-- To build an object for a value whose objects are there hands out one reference and takes no
other. -/
theorem build_balances {value : Value} (part : value.objects ⊆ lent) :
    Builds change lent value := by
  induction value using Value.induction with
  | null =>
    have owned := @own_fixed_balances change _ lent _ _ Foreign.Fixed.get?_none
      (by simp [Foreign.Cell.isFixed, Foreign.Cell.ofCore, Foreign.Cell.of])
    exact (Balances.lift owned).bind fun _ => .pure (.refl _) (List.subset_append_left _ _)
  | bool b => exact made_balances _
  | int n => exact made_balances _
  | float x => exact made_balances _
  | text s => exact made_balances _
  | list items each =>
    rw [Value.objects, Value.itemObjects_subset] at part
    exact fill_balances fun list => buildItems_balances list 0 fun item member =>
      each item member (part item member)
  | map pairs each =>
    rw [Value.objects, Value.pairObjects_subset] at part
    exact fill_balances fun dict => buildPairs_balances dict fun pair member =>
      ⟨(each pair member).1 (part pair member).1, (each pair member).2 (part pair member).2⟩
  | record fields each =>
    rw [Value.objects, Value.fieldObjects_subset] at part
    refine fill_balances fun dict => ?_
    rw [buildFields_eq]
    exact buildPairs_balances dict <| List.forall_mem_map.mpr fun field member =>
      ⟨made_balances _, each field member (part field member)⟩
  | object handle =>
    have member : handle ∈ lent := part (List.mem_singleton_self handle)
    exact (Balances.lift (own_balances member)).bind fun _ =>
      .pure (.refl _) (List.subset_append_left _ _)
  | function identity => exact .throw _

end Bridge

/-- The references that come with what is found in an object. -/
def Member.references : Member → List Handle
  | .attribute value => [value]
  | _ => []

namespace Bridge

variable {change : World → World → Prop} [Change change] {lent : List Handle}

theorem ownAll_balances {handles : List Handle} (part : handles ⊆ lent) :
    Act.Balances change lent [] (ownAll handles) fun _ => handles := by
  induction handles with
  | nil => exact .pure (.refl _) (List.nil_subset _)
  | cons handle rest ih =>
    obtain ⟨first, others⟩ := List.cons_subset.mp part
    exact (own_balances first).bind fun _ => Act.Balances.beside (List.subset_append_left _ _)
      ((ih others).lend (List.subset_append_right _ _))

theorem releaseAll_balances (handles : List Handle) :
    Act.Balances change lent handles (releaseAll handles) fun _ => [] := by
  intro world owed calm _
  rw [releaseAll_on]
  exact ⟨Change.of_steady (World.steady_giveBackAll handles world), calm.giveBackAll, nofun⟩

/-- Other references stay while some are given back. -/
theorem releaseAll_beside {given : List Handle} (handles : List Handle) (part : given ⊆ lent) :
    Act.Balances change lent (handles ++ given) (releaseAll handles) fun _ => given := by
  intro world owed calm alive
  rw [List.append_assoc] at calm
  have steady := World.steady_giveBackAll handles world
  rw [releaseAll_on]
  exact ⟨Change.of_steady steady, calm.giveBackAll, (alive.mono part).grows steady.grows⟩

/-- A value that is read is handed out with a reference to each object in it. -/
theorem readWith_balances (session : Session) (handle : Handle) :
    Bridge.Balances change lent [] (readWith session handle) Value.objects := by
  intro world owed calm alive
  cases read : Value.read session world.machine.heap handle with
  | error error =>
    rw [readWith_on_error read]
    exact ⟨Change.of_steady (.refl world), calm, nofun⟩
  | ok value =>
    have unfolds := (Value.readWithin_eq_ok_iff rfl).mp read
    obtain ⟨top, holds, step⟩ := readWith_on_ok read
    rw [step]
    refine ⟨Change.of_steady ⟨.refl _, rfl, rfl, rfl, rfl⟩, ⟨⟨calm.sound, calm.registry, calm.kept,
      fun object there => ?_, calm.overdrawn⟩, calm.pending⟩,
      fun object member _ => unfolds.alive object member⟩
    have before := calm.held object there
    change (top ++ world.held).count object = (value.objects ++ owed ++ world.kept).count object
    rw [List.nil_append] at before
    rw [List.count_append, holds.count_eq, count_present there, before, List.append_assoc,
      ← List.count_append]

theorem session_balances : Bridge.Balances change lent [] session fun _ => [] := by
  refine .get_bind fun world => ?_
  split
  · exact .pure (.refl _) (List.nil_subset _)
  · exact .throw _

theorem valueOf_balances (handle : Handle) :
    Bridge.Balances change lent [] (valueOf handle) Value.objects :=
  session_balances.bind fun session => (readWith_balances session handle)

theorem requireObject_balances (handle : Handle) :
    Bridge.Balances change lent [] (requireObject handle) fun _ => [] := by
  unfold requireObject
  split
  · exact .throw _
  · exact .pure (.refl _) (List.nil_subset _)

theorem requireNoNul_balances (text : String) :
    Bridge.Balances change lent [] (requireNoNul text) fun _ => [] := by
  unfold requireNoNul
  split
  · exact .throw _
  · exact .pure (.refl _) (List.nil_subset _)

theorem getAttribute_balances (handle : Handle) (name : String) :
    Act.Balances change lent [] (getAttribute handle name) Option.toList := by
  unfold getAttribute
  split
  · exact .pure (.refl _) (List.nil_subset _)
  · refine attemptOwned_bind (fun attr => ?_) (clear_bind (.pure (.refl _) (List.nil_subset _)))
    exact .pure (.refl _) (List.cons_subset_cons _ (List.nil_subset _))

theorem setAttribute_balances {value : Value} (handle : Handle) (name : String)
    (part : value.objects ⊆ lent) :
    Bridge.Balances change lent [] (setAttribute handle name value) fun _ => [] := by
  refine (requireObject_balances handle).bind fun _ => (requireNoNul_balances name).bind fun _ => ?_
  refine (build_balances part).bind fun value => .thenRelease [value] (.lift_bind ?_)
  exact (attempt_tries _).bind (fun done => @settled_balances change _ _ Unit (fun _ => []) done
    (List.nil_subset _)) (@settled_calms change _ Unit fun _ => [])

theorem buildAll_balances {values : List Value} (part : ∀ value ∈ values, value.objects ⊆ lent) :
    Bridge.Balances change lent [] (buildAll values) id := by
  induction values with
  | nil => exact .pure (.refl _) (List.nil_subset _)
  | cons value rest ih =>
    obtain ⟨first, others⟩ := List.forall_mem_cons.mp part
    refine (build_balances first).bind fun handle => ?_
    refine (Balances.elseRelease (List.subset_append_left [handle] lent)
      ((ih others).lend (List.subset_append_right _ _))).bind fun handles => ?_
    exact .pure (.refl _) (List.subset_append_left _ _)

theorem buildNamed_balances {keywords : List (String × Value)}
    (part : ∀ keyword ∈ keywords, keyword.2.objects ⊆ lent) :
    Bridge.Balances change lent [] (buildNamed keywords) (·.map (·.2)) := by
  induction keywords with
  | nil => exact .pure (.refl _) (List.nil_subset _)
  | cons keyword rest ih =>
    obtain ⟨first, others⟩ := List.forall_mem_cons.mp part
    refine (requireNoNul_balances keyword.1).bind fun _ => (build_balances first).bind fun handle => ?_
    refine (Balances.elseRelease (List.subset_append_left [handle] _)
      ((ih others).lend fun _ member => by simp [member])).bind fun pairs => ?_
    exact .pure (.refl _) (List.subset_append_left _ _)

theorem buildTuple_balances {items : List Value} (part : ∀ item ∈ items, item.objects ⊆ lent) :
    Bridge.Balances change lent [] (buildTuple items) fun tuple => [tuple] :=
  (buildAll_balances part).bind fun handles => .thenRelease handles (made_balances _)

theorem buildKeywords_balances {keywords : List (String × Value)}
    (part : ∀ keyword ∈ keywords, keyword.2.objects ⊆ lent) :
    Bridge.Balances change lent [] (buildKeywords keywords) Option.toList := by
  unfold buildKeywords
  split
  · exact .pure (.refl _) (List.nil_subset _)
  · refine (buildNamed_balances part).bind fun pairs => .thenRelease _ ?_
    refine (made_balances _).bind fun dict => ?_
    refine (Balances.elseRelease (List.subset_append_left [dict] _) (perform_balances _)).bind
      fun _ => ?_
    exact .pure (.refl _) (by simp)

theorem callWith_balances {arguments : List Value} {keywords : List (String × Value)}
    (handle : Handle) (positional : ∀ argument ∈ arguments, argument.objects ⊆ lent)
    (named : ∀ keyword ∈ keywords, keyword.2.objects ⊆ lent) :
    Bridge.Balances change lent [] (callWith handle arguments keywords) fun result => [result] := by
  refine (requireObject_balances handle).bind fun _ => (buildTuple_balances positional).bind fun tuple => ?_
  refine (Balances.elseRelease (List.subset_append_left [tuple] _)
    ((buildKeywords_balances named).lend (List.subset_append_right _ _))).bind fun dict => ?_
  refine .lift_bind (attemptOwned_bind (fun result => ?_) ?_)
  · refine Balances.perm List.perm_append_comm (.lift_bind (Act.Balances.bind
      (releaseAll_beside (tuple :: dict.toList) (List.cons_subset_cons result (List.nil_subset _)))
      fun _ => ?_))
    exact settledObject_balances (List.subset_append_left [result] _)
  · have missing : Act.Calms change [] (ExceptT.run (settledObject none))
        (dues fun handle => [handle]) := settled_calms
    have calms := releaseAll_bind (tuple :: dict.toList) missing
    rwa [List.append_nil] at calms

theorem callMethod_balances {arguments : List Value} {keywords : List (String × Value)}
    (handle : Handle) (name : String) (positional : ∀ argument ∈ arguments, argument.objects ⊆ lent)
    (named : ∀ keyword ∈ keywords, keyword.2.objects ⊆ lent) :
    Bridge.Balances change lent [] (callMethod handle name arguments keywords)
      fun result => [result] := by
  refine (Balances.lift (getAttribute_balances handle name)).bind fun found => ?_
  cases found with
  | none => exact .throw _
  | some method =>
    exact .thenRelease [method] ((callWith_balances method positional named).lend
      (List.subset_append_right _ _))

theorem render_balances (run : Foreign.Run Handle) :
    Bridge.Balances change lent [] (render run) fun _ => [] :=
  (made_balances run).bind fun rendered =>
    .thenRelease [rendered] (tries_orThrow (textOf_tries rendered) unknown)

theorem str_balances (handle : Handle) : Bridge.Balances change lent [] (str handle) fun _ => [] :=
  (requireObject_balances handle).bind fun _ => render_balances _

theorem repr_balances (handle : Handle) : Bridge.Balances change lent [] (repr handle) fun _ => [] :=
  (requireObject_balances handle).bind fun _ => render_balances _

/-- What is done with the outcome of something is told whether that has failed. -/
theorem outcome_bind {α β : Type} {act : Bridge α} {next : Except BridgeError α → Act β}
    {given : List Handle} {mid : α → List Handle} {due : β → List Handle}
    (head : Bridge.Balances change lent given act mid)
    (found : ∀ value, Act.Balances change (mid value ++ lent) (mid value) (next (.ok value)) due)
    (failed : ∀ error, Act.Balances change lent [] (next (.error error)) due) :
    Act.Balances change lent given (outcome act >>= next) due := by
  refine Act.Balances.bind head fun result => ?_
  cases result with
  | ok value => exact found value
  | error error => exact failed error

theorem display_balances (handle : Handle) :
    Act.Balances change lent [] (display handle) fun _ => [] :=
  outcome_bind (str_balances handle) (fun _ => .pure (.refl _) (List.nil_subset _)) fun _ =>
    .get_bind fun _ => .pure (.refl _) (List.nil_subset _)

theorem member_balances (handle : Handle) (key : Key) :
    Act.Balances change lent [] (member handle key)
      fun found => found.toList.flatMap Member.references := by
  cases key with
  | handle => exact .pure (.refl _) (List.nil_subset _)
  | typeName => exact .get_bind fun _ => .pure (.refl _) (List.nil_subset _)
  | name name =>
    refine (getAttribute_balances handle name).bind fun found => ?_
    cases found with
    | some attr => exact .pure (.refl _) (List.subset_append_left _ _)
    | none =>
      refine .pure ?_ (List.nil_subset _)
      cases Intrinsic.ofName? name <;> exact .refl _

theorem invoke_balances {arguments : List Value} (handle : Handle) (intrinsic : Intrinsic)
    (part : ∀ argument ∈ arguments, argument.objects ⊆ lent) :
    Bridge.Balances change lent [] (invoke handle intrinsic arguments) Value.objects := by
  cases intrinsic with
  | call =>
    exact (callWith_balances handle part (List.forall_mem_nil _)).bind fun result =>
      .pure (.refl _) (List.subset_append_left _ _)
  | toString => exact (str_balances handle).bind fun text => .pure (.refl _) (List.nil_subset _)
  | valueOf => exact valueOf_balances handle

theorem toJson_balances (handle : Handle) :
    Bridge.Balances change lent [] (toJson handle) fun _ => [] := by
  refine (valueOf_balances handle).bind fun value => .thenRelease value.objects ?_
  refine .get_bind fun world => ?_
  split
  · exact .pure (.refl _) (List.nil_subset _)
  · exact .throw _

end Bridge

end ForeignBridge
