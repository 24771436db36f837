import ForeignBridge.Proofs.Text.Utf8
import ForeignBridge.Proofs.Value.Document

/-! # Values without a document

A value has no document if an object, a function or a double that is no real number stands in it, or if a
map in it has a key for which there is no name. What is wrong is told of the first of these, in the order
in which a reader comes to them: parts from left to right, a key before the value under it, and the fields
of a record in the order of the bytes of their names. What stands within a key is never come to.
-/

namespace ForeignBridge.Value

/-- A step from a container to one of its parts. -/
inductive Branch where
  | item (index : ℕ)
  | key (index : ℕ)
  | value (index : ℕ)
  | field (name : String)

/-- That one step is taken before another one from the same container. -/
def Branch.Before : Branch → Branch → Prop
  | item i, item j | key i, key j | value i, key j | value i, value j => i < j
  | key i, value j => i ≤ j
  | field a, field b => bytes a < bytes b
  | _, _ => False

theorem Branch.Before.asymm {a b : Branch} (before : a.Before b) : ¬ b.Before a := by
  cases a <;> cases b <;> simp only [Branch.Before] at before ⊢ <;>
    first | omega | exact List.lt_asymm before

/-- That one place comes before another: where the two part, its step is taken before the other one. -/
abbrev Earlier : List Branch → List Branch → Prop := List.Lex Branch.Before

/-- Why there is no name for a key. -/
inductive Nameless (typeName : Handle → String) : Value → BridgeError → Prop
  | float {x} (unreal : x.isFinite = false) :
    Nameless typeName (float x) (noJson (diagnosticLayout.write x))
  | other {key} (other : key.isKey = false) : Nameless typeName key
    (.unsupportedConversion ((key.outline typeName).line ++ " cannot be a JSON object key"))

/-- What stands in the way of a document for a value, with the place where it stands. -/
inductive Offends (typeName : Handle → String) : Value → List Branch → BridgeError → Prop
  | object (handle) : Offends typeName (object handle) [] (noJson (typeName handle ++ " object"))
  | function (identity) : Offends typeName (function identity) [] (noJson "host function")
  | float {x} (unreal : x.isFinite = false) :
    Offends typeName (float x) [] (noJson (diagnosticLayout.write x))
  | item {items : List Value} {i : ℕ} {item place error} (found : items[i]? = some item)
    (inner : Offends typeName item place error) :
    Offends typeName (list items) (.item i :: place) error
  | key {pairs : List (Value × Value)} {i : ℕ} {pair error} (found : pairs[i]? = some pair)
    (nameless : Nameless typeName (Prod.fst pair) error) : Offends typeName (map pairs) [.key i] error
  | value {pairs : List (Value × Value)} {i : ℕ} {pair place error} (found : pairs[i]? = some pair)
    (inner : Offends typeName (Prod.snd pair) place error) :
    Offends typeName (map pairs) (.value i :: place) error
  | field {fields : List (String × Value)} {i : ℕ} {field place error} (found : fields[i]? = some field)
    (inner : Offends typeName (Prod.snd field) place error) :
    Offends typeName (record fields) (.field (Prod.fst field) :: place) error

/-- The fault of what has failed. -/
def fault? {α : Type} : Except BridgeError α → Option BridgeError
  | .ok _ => none
  | .error error => some error

/-- That a fault is the one at the earliest place of all, and that there is no place if there is no
fault. -/
def Leads (stands : List Branch → BridgeError → Prop) : Option BridgeError → Prop
  | none => ∀ place error, ¬ stands place error
  | some error => ∃ place, stands place error ∧ ∀ other fault, stands other fault →
      other = place ∧ fault = error ∨ Earlier place other

section Faults

variable {α β : Type} {error : BridgeError}

theorem fault?_eq_some_iff {result : Except BridgeError α} :
    fault? result = some error ↔ result = .error error := by
  cases result with
  | ok value => exact iff_of_false (fun none => nomatch none) (fun failed => nomatch failed)
  | error other => rw [fault?, Option.some.injEq, Except.error.injEq]

theorem fault?_bind (first : Except BridgeError α) (next : α → Except BridgeError β)
    {late : Option BridgeError} (same : ∀ value, fault? (next value) = late) :
    fault? (first >>= next) = (fault? first).or late := by
  cases first with
  | ok value => exact same value
  | error error => rfl

theorem fault?_map (first : Except BridgeError α) (change : α → β) :
    fault? (first.map change) = fault? first := by
  cases first <;> rfl

variable (typeName : Handle → String)

/-- Of some items the first fault counts. -/
theorem fault?_itemsToJson (items : List Value) : fault? (itemsToJson typeName items) =
    items.findSome? fun item => fault? (item.toJson typeName) := by
  induction items with
  | nil => rfl
  | cons item rest ih =>
    have tail (document : Json) : fault? (do
        let rest ← itemsToJson typeName rest
        pure (document :: rest)) = fault? (itemsToJson typeName rest) :=
      (fault?_bind (itemsToJson typeName rest) (fun rest => pure (document :: rest)) fun _ => rfl).trans
        Option.or_none
    rw [itemsToJson, List.findSome?_cons, ← ih]
    refine (fault?_bind _ _ tail).trans ?_
    cases fault? (item.toJson typeName) <;> rfl

/-- Of some pairs the first fault counts, and of a pair that of its key before that of its value. -/
theorem fault?_pairsToJson (members : List (String × Json)) (pairs : List (Value × Value)) :
    fault? (pairsToJson typeName members pairs) = pairs.findSome? fun pair =>
      (fault? (pair.1.jsonKey typeName)).or (fault? (pair.2.toJson typeName)) := by
  induction pairs generalizing members with
  | nil => rfl
  | cons pair rest ih =>
    rw [pairsToJson, List.findSome?_cons]
    refine (fault?_bind _ _ fun name => fault?_bind _ _ fun document => ih _).trans ?_
    rw [← Option.or_assoc]
    cases (fault? (pair.1.jsonKey typeName)).or (fault? (pair.2.toJson typeName)) <;> rfl

/-- Of some fields the first fault counts. -/
theorem fault?_fieldsToJson (members : List (String × Json)) (fields : List (String × Value)) :
    fault? (fieldsToJson typeName members fields) =
      fields.findSome? fun field => fault? (field.2.toJson typeName) := by
  induction fields generalizing members with
  | nil => rfl
  | cons field rest ih =>
    rw [fieldsToJson, List.findSome?_cons]
    refine (fault?_bind _ _ fun document => ih _).trans ?_
    cases fault? (field.2.toJson typeName) <;> rfl

end Faults

/-! What leads among the parts leads in the whole. -/

namespace Leads

variable {stands others : List Branch → BridgeError → Prop} {fault late : Option BridgeError}

theorem congr (leads : Leads stands fault) (same : ∀ place error, others place error ↔ stands place error) :
    Leads others fault := by
  have equal : others = stands := funext fun place => funext fun error => propext (same place error)
  exact equal ▸ leads

/-- One step further. -/
theorem under (branch : Branch) (leads : Leads stands fault) :
    Leads (fun place error => ∃ rest, place = branch :: rest ∧ stands rest error) fault := by
  cases fault with
  | none =>
    rintro _ error ⟨rest, rfl, stand⟩
    exact leads rest error stand
  | some error =>
    obtain ⟨place, stand, least⟩ := leads
    refine ⟨branch :: place, ⟨place, rfl, stand⟩, ?_⟩
    rintro _ fault ⟨rest, rfl, there⟩
    obtain ⟨rfl, same⟩ | later := least rest fault there
    · exact .inl ⟨rfl, same⟩
    · exact .inr (.cons later)

/-- What stands earlier counts, if there is anything. -/
theorem or (first : Leads stands fault) (next : Leads others late)
    (order : ∀ {place error other fault}, stands place error → others other fault → Earlier place other) :
    Leads (fun place error => stands place error ∨ others place error) (fault.or late) := by
  cases fault with
  | none =>
    rw [Option.none_or]
    exact next.congr fun place error => or_iff_right (first place error)
  | some error =>
    rw [Option.some_or]
    obtain ⟨place, stand, least⟩ := first
    refine ⟨place, .inl stand, ?_⟩
    rintro other fault (there | there)
    · exact least other fault there
    · exact .inr (order stand there)

/-- Of some parts in order the first one at fault counts. -/
theorem findSome? {α : Type} {parts : List α} {fault? : α → Option BridgeError}
    {within : ℕ → α → List Branch → BridgeError → Prop}
    (each : ∀ {i part}, parts[i]? = some part → Leads (within i part) (fault? part))
    (order : ∀ {i j part next place error other fault}, i < j → parts[i]? = some part →
      parts[j]? = some next → within i part place error → within j next other fault →
      Earlier place other) :
    Leads (fun place error => ∃ i part, parts[i]? = some part ∧ within i part place error)
      (parts.findSome? fault?) := by
  cases found : parts.findSome? fault? with
  | none =>
    rintro place error ⟨i, part, there, stand⟩
    have leads := each there
    rw [List.findSome?_eq_none_iff.mp found part (List.mem_of_getElem? there)] at leads
    exact leads place error stand
  | some error =>
    obtain ⟨before, part, after, rfl, faulty, clean⟩ := List.findSome?_eq_some_iff.mp found
    have here : (before ++ part :: after)[before.length]? = some part :=
      by rw [List.getElem?_append_right (Nat.le_refl _), Nat.sub_self, List.getElem?_cons_zero]
    have leads := each here
    rw [faulty] at leads
    obtain ⟨place, stand, least⟩ := leads
    refine ⟨place, ⟨_, part, here, stand⟩, ?_⟩
    rintro other fault ⟨j, next, there, standing⟩
    obtain less | rfl | greater := Nat.lt_trichotomy j before.length
    · -- nothing is wrong with what comes before
      have leads := each there
      rw [List.getElem?_append_left less] at there
      rw [clean next (List.mem_of_getElem? there)] at leads
      exact (leads other fault standing).elim
    · obtain rfl : part = next := Option.some.inj (here.symm.trans there)
      exact least other fault standing
    · exact .inr (order greater here there stand standing)

end Leads

variable {typeName : Handle → String}

theorem leads_doubleJson (x : Double) : Leads (Offends typeName (float x)) (fault? (doubleJson x)) := by
  cases real : x.isFinite with
  | true =>
    rw [doubleJson, if_pos real]
    intro place error offends
    cases offends with
    | float unreal => exact Bool.false_ne_true (unreal.symm.trans real)
  | false =>
    rw [doubleJson, if_neg (Bool.eq_false_iff.mp real)]
    refine ⟨[], .float real, fun other fault offends => ?_⟩
    cases offends with
    | float => exact .inl ⟨rfl, rfl⟩

/-- Whether there is a name for a key. -/
theorem leads_jsonKey (key : Value) (branch : Branch) :
    Leads (fun place error => place = [branch] ∧ Nameless typeName key error)
      (fault? (key.jsonKey typeName)) := by
  have named (good : key.isKey = true) (real : ∀ x, key = float x → x.isFinite = true) :
      Leads (fun place error => place = [branch] ∧ Nameless typeName key error) none := by
    rintro place error ⟨_, @⟨x, unreal⟩ | other⟩
    · exact Bool.false_ne_true (unreal.symm.trans (real x rfl))
    · exact Bool.false_ne_true (other.symm.trans good)
  have unnamed {error : BridgeError} (nameless : Nameless typeName key error)
      (one : ∀ {fault}, Nameless typeName key fault → fault = error) :
      Leads (fun place error => place = [branch] ∧ Nameless typeName key error) (some error) :=
    ⟨[branch], ⟨rfl, nameless⟩, fun _ _ there => .inl ⟨there.1, one there.2⟩⟩
  cases key with
  | null | bool _ | int _ | text _ => exact named rfl nofun
  | float x =>
    rw [jsonKey, fault?_map, doubleJson]
    cases real : x.isFinite with
    | true => exact named rfl fun y same => float.inj same ▸ real
    | false =>
      refine unnamed (.float real) fun nameless => ?_
      cases nameless with
      | float => rfl
      | other other => cases other
  | list _ | map _ | record _ | object _ | function _ =>
    refine unnamed (.other rfl) fun nameless => ?_
    cases nameless
    rfl

/-- What fails fails for what stands at the earliest place. -/
theorem leads_toJson {value : Value} (ordered : value.Ordered) :
    Leads (Offends typeName value) (fault? (value.toJson typeName)) := by
  induction value using induction with
  | null | bool _ | int _ | text _ => exact fun place error => nofun
  | float x => exact leads_doubleJson x
  | object handle | function identity =>
    refine ⟨[], by constructor, fun other fault offends => ?_⟩
    cases offends
    exact .inl ⟨rfl, rfl⟩
  | list items each =>
    rw [Ordered, itemsOrdered_iff] at ordered
    have parts : Leads (fun place error => ∃ i item, items[i]? = some item ∧
        ∃ rest, place = .item i :: rest ∧ Offends typeName item rest error)
        (items.findSome? fun item => fault? (item.toJson typeName)) := by
      refine .findSome? (fun {i item} found => ?_) ?_
      · have member := List.mem_of_getElem? found
        exact (each item member (ordered item member)).under (.item i)
      · rintro i j _ _ _ _ _ _ less _ _ ⟨_, rfl, _⟩ ⟨_, rfl, _⟩
        exact .rel less
    rw [toJson, fault?_map, fault?_itemsToJson]
    refine parts.congr fun place error => ⟨fun offends => ?_, ?_⟩
    · cases offends with
      | item found inner => exact ⟨_, _, found, _, rfl, inner⟩
    · rintro ⟨i, item, found, rest, rfl, inner⟩
      exact .item found inner
  | map pairs each =>
    rw [Ordered, pairsOrdered_iff] at ordered
    have parts : Leads (fun place error => ∃ i pair, pairs[i]? = some pair ∧
        (place = [.key i] ∧ Nameless typeName pair.1 error ∨
          ∃ rest, place = .value i :: rest ∧ Offends typeName pair.2 rest error))
        (pairs.findSome? fun pair =>
          (fault? (pair.1.jsonKey typeName)).or (fault? (pair.2.toJson typeName))) := by
      refine .findSome? (fun {i pair} found => ?_) ?_
      · have member := List.mem_of_getElem? found
        have inner := (each pair member).2 (ordered pair member).2
        refine (leads_jsonKey pair.1 (.key i)).or (inner.under (.value i)) ?_
        rintro _ _ _ _ ⟨rfl, _⟩ ⟨_, rfl, _⟩
        exact .rel (Nat.le_refl i)
      · rintro i j _ _ _ _ _ _ less _ _ (⟨rfl, _⟩ | ⟨_, rfl, _⟩) (⟨rfl, _⟩ | ⟨_, rfl, _⟩)
        · exact .rel less
        · exact .rel less.le
        · exact .rel less
        · exact .rel less
    rw [toJson, fault?_map, fault?_pairsToJson]
    refine parts.congr fun place error => ⟨fun offends => ?_, ?_⟩
    · cases offends with
      | key found nameless => exact ⟨_, _, found, .inl ⟨rfl, nameless⟩⟩
      | value found inner => exact ⟨_, _, found, .inr ⟨_, rfl, inner⟩⟩
    · rintro ⟨i, pair, found, ⟨rfl, nameless⟩ | ⟨rest, rfl, inner⟩⟩
      · exact .key found nameless
      · exact .value found inner
  | record fields each =>
    rw [Ordered, fieldsOrdered_iff] at ordered
    obtain ⟨ascending, ordered⟩ := ordered
    have parts : Leads (fun place error => ∃ (i : ℕ) (field : String × Value),
        fields[i]? = some field ∧ ∃ rest, place = .field field.1 :: rest ∧ Offends typeName field.2 rest error)
        (fields.findSome? fun field => fault? (field.2.toJson typeName)) := by
      refine .findSome? (fun {i field} found => ?_) ?_
      · have member := List.mem_of_getElem? found
        exact (each field member (ordered field member)).under (.field field.1)
      · rintro i j field next _ _ _ _ less here there ⟨_, rfl, _⟩ ⟨_, rfl, _⟩
        refine .rel (bytes_lt ?_)
        obtain ⟨inside, rfl⟩ := List.getElem?_eq_some_iff.mp here
        obtain ⟨within, rfl⟩ := List.getElem?_eq_some_iff.mp there
        exact List.pairwise_iff_getElem.mp ascending i j inside within less
    rw [toJson, fault?_map, fault?_fieldsToJson]
    refine parts.congr fun place error => ⟨fun offends => ?_, ?_⟩
    · cases offends with
      | field found inner => exact ⟨_, _, found, _, rfl, inner⟩
    · rintro ⟨i, field, found, rest, rfl, inner⟩
      exact .field found inner

/-- A value and what stands in it, what stands within keys apart. -/
inductive Reaches : Value → Value → Prop
  | self {value} : Reaches value value
  | item {part item items} (member : item ∈ items) (inner : Reaches part item) :
    Reaches part (list items)
  | value {part pair pairs} (member : pair ∈ pairs) (inner : Reaches part (Prod.snd pair)) :
    Reaches part (map pairs)
  | field {part field fields} (member : field ∈ fields) (inner : Reaches part (Prod.snd field)) :
    Reaches part (record fields)

/-- A value for which there is no number in a document. -/
def Unreal (value : Value) : Prop := ∃ x, value = float x ∧ x.isFinite = false

/-- What has no document, whatever stands in it: an object, a function, a double that is no real number, and
a map with such a double for a key or with a key that is neither a text nor a scalar. -/
def Unwritable (value : Value) : Prop :=
  (∃ handle, value = object handle) ∨ (∃ identity, value = function identity) ∨ value.Unreal ∨
    ∃ pairs, value = map pairs ∧ ∃ pair ∈ pairs, pair.1.Unreal ∨ pair.1.isKey = false

theorem nameless_iff {key : Value} :
    (∃ error, Nameless typeName key error) ↔ key.Unreal ∨ key.isKey = false := by
  constructor
  · rintro ⟨error, @⟨x, unreal⟩ | other⟩
    · exact .inl ⟨x, rfl, unreal⟩
    · exact .inr other
  · rintro (⟨x, rfl, unreal⟩ | other)
    · exact ⟨_, .float unreal⟩
    · exact ⟨_, .other other⟩

/-- There is a place where something offends just if something without a document is reached. -/
theorem offends_iff_reaches {value : Value} : (∃ place error, Offends typeName value place error) ↔
    ∃ part, Reaches part value ∧ part.Unwritable := by
  constructor
  · rintro ⟨place, error, offends⟩
    induction offends with
    | object handle => exact ⟨_, .self, .inl ⟨handle, rfl⟩⟩
    | function identity => exact ⟨_, .self, .inr (.inl ⟨identity, rfl⟩)⟩
    | float unreal => exact ⟨_, .self, .inr (.inr (.inl ⟨_, rfl, unreal⟩))⟩
    | item found _ ih =>
      obtain ⟨part, inner, unwritable⟩ := ih
      exact ⟨part, .item (List.mem_of_getElem? found) inner, unwritable⟩
    | key found nameless =>
      have bad := nameless_iff.mp ⟨_, nameless⟩
      exact ⟨_, .self, .inr (.inr (.inr ⟨_, rfl, _, List.mem_of_getElem? found, bad⟩))⟩
    | value found _ ih =>
      obtain ⟨part, inner, unwritable⟩ := ih
      exact ⟨part, .value (List.mem_of_getElem? found) inner, unwritable⟩
    | field found _ ih =>
      obtain ⟨part, inner, unwritable⟩ := ih
      exact ⟨part, .field (List.mem_of_getElem? found) inner, unwritable⟩
  · rintro ⟨part, reaches, unwritable⟩
    induction reaches with
    | self =>
      obtain ⟨handle, rfl⟩ | ⟨identity, rfl⟩ | ⟨x, rfl, unreal⟩ | ⟨pairs, rfl, pair, member, bad⟩ :=
        unwritable
      · exact ⟨_, _, .object handle⟩
      · exact ⟨_, _, .function identity⟩
      · exact ⟨_, _, .float unreal⟩
      · obtain ⟨i, found⟩ := List.mem_iff_getElem?.mp member
        obtain ⟨error, nameless⟩ := nameless_iff.mpr bad
        exact ⟨_, _, .key found nameless⟩
    | item member _ ih =>
      obtain ⟨place, error, offends⟩ := ih
      obtain ⟨i, found⟩ := List.mem_iff_getElem?.mp member
      exact ⟨_, _, .item found offends⟩
    | value member _ ih =>
      obtain ⟨place, error, offends⟩ := ih
      obtain ⟨i, found⟩ := List.mem_iff_getElem?.mp member
      exact ⟨_, _, .value found offends⟩
    | field member _ ih =>
      obtain ⟨place, error, offends⟩ := ih
      obtain ⟨i, found⟩ := List.mem_iff_getElem?.mp member
      exact ⟨_, _, .field found offends⟩

/-- A value has no document just if something without one is reached in it through items of lists, values of
maps and fields of records. The failure is that of what stands at the earliest place: no other is at that
place, and nothing offends before it. -/
theorem toJson_error_iff (typeName : Handle → String) {value : Value} (ordered : value.Ordered) :
    ((∃ error, value.toJson typeName = .error error) ↔
      ∃ part, Reaches part value ∧ part.Unwritable) ∧
    ∀ error, (value.toJson typeName = .error error ↔
        ∃ place, Offends typeName value place error ∧
          ∀ other fault, Offends typeName value other fault → ¬ Earlier other place) ∧
      (value.toJson typeName = .error error → ∃ what, error = .unsupportedConversion what) := by
  have leads : Leads (Offends typeName value) (fault? (value.toJson typeName)) := leads_toJson ordered
  have failed {error : BridgeError} (failed : value.toJson typeName = .error error) :
      ∃ place, Offends typeName value place error ∧ ∀ other fault, Offends typeName value other fault →
        other = place ∧ fault = error ∨ Earlier place other := by
    rwa [fault?_eq_some_iff.mpr failed] at leads
  have fails {place : List Branch} {error : BridgeError} (offends : Offends typeName value place error) :
      ∃ error, value.toJson typeName = .error error := by
    cases result : value.toJson typeName with
    | ok document =>
      rw [result] at leads
      exact (leads place error offends).elim
    | error other => exact ⟨other, rfl⟩
  have earliest {a b : List Branch} (earlier : Earlier a b) : ¬ Earlier b a :=
    List.lex_asymm (fun before => before.asymm) earlier
  refine ⟨?_, fun error => ⟨⟨fun failure => ?_, ?_⟩, error_of_toJson⟩⟩
  · rw [← @offends_iff_reaches typeName value]
    constructor
    · rintro ⟨error, failure⟩
      obtain ⟨place, offends, _⟩ := failed failure
      exact ⟨place, error, offends⟩
    · rintro ⟨place, error, offends⟩
      exact fails offends
  · obtain ⟨place, offends, least⟩ := failed failure
    refine ⟨place, offends, fun other fault there earlier => ?_⟩
    obtain ⟨rfl, _⟩ | later := least other fault there
    · exact earliest earlier earlier
    · exact earliest later earlier
  · rintro ⟨place, offends, least⟩
    obtain ⟨other, failure⟩ := fails offends
    obtain ⟨first, there, all⟩ := failed failure
    obtain ⟨rfl, rfl⟩ | later := all place error offends
    · exact failure
    · exact (least first other there later).elim

/-- A map with a list for a key: that comes before the function under it, and the object in the list is
never come to. -/
theorem toJson_error_iff_listKey :
    (∃ error, (map [(text "a", null), (list [object ⟨7⟩], function 1)]).toJson (fun _ => "module") =
      .error error) ∧
    ∃ place, Offends (fun _ => "module") (map [(text "a", null), (list [object ⟨7⟩], function 1)]) place
        (.unsupportedConversion (((list [object ⟨7⟩]).outline fun _ => "module").line ++
          " cannot be a JSON object key")) ∧
      ∀ other fault, Offends (fun _ => "module") (map [(text "a", null), (list [object ⟨7⟩], function 1)])
        other fault → ¬ Earlier other place := by
  have ordered : (map [(text "a", null), (list [object ⟨7⟩], function 1)]).Ordered :=
    ⟨trivial, trivial, ⟨trivial, trivial⟩, trivial, trivial⟩
  obtain ⟨fails, each⟩ := toJson_error_iff (fun _ => "module") ordered
  have keyed : Unwritable (map [(text "a", null), (list [object ⟨7⟩], function 1)]) :=
    .inr (.inr (.inr ⟨_, rfl, _, List.mem_cons_of_mem _ (List.mem_cons_self ..), .inr rfl⟩))
  exact ⟨fails.mpr ⟨_, .self, keyed⟩, (each _).1.mp rfl⟩

end ForeignBridge.Value
