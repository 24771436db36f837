import ForeignBridge.Proofs.Json.Normal
import ForeignBridge.Proofs.Number.Arithmetic
import ForeignBridge.Proofs.Value.Normal
import ForeignBridge.Value.Document

/-! # Values and documents

A document that becomes a value becomes, from there, its own normal form. A value that becomes a
document comes back with records for its maps and with integers for those of its doubles that are
integers of 64 bits.
-/

namespace ForeignBridge.Value

mutual

/-- The values of documents: there is no map, object or function in them, and every double is
finite. -/
def Plain : Value → Prop
  | float x => x.isFinite = true
  | list items => ItemsPlain items
  | record fields => FieldsPlain fields
  | map _ | object _ | function _ => False
  | null | bool _ | int _ | text _ => True

def ItemsPlain : List Value → Prop
  | [] => True
  | item :: rest => item.Plain ∧ ItemsPlain rest

def FieldsPlain : List (String × Value) → Prop
  | [] => True
  | (_, value) :: rest => value.Plain ∧ FieldsPlain rest

end

mutual

/-- The fields of every record are in the order of their names, each name once. -/
def Ordered : Value → Prop
  | list items => ItemsOrdered items
  | map pairs => PairsOrdered pairs
  | record fields => Fields.Ascending fields ∧ FieldsOrdered fields
  | null | bool _ | int _ | float _ | text _ | object _ | function _ => True

def ItemsOrdered : List Value → Prop
  | [] => True
  | item :: rest => item.Ordered ∧ ItemsOrdered rest

def PairsOrdered : List (Value × Value) → Prop
  | [] => True
  | (key, value) :: rest => key.Ordered ∧ value.Ordered ∧ PairsOrdered rest

def FieldsOrdered : List (String × Value) → Prop
  | [] => True
  | (_, value) :: rest => value.Ordered ∧ FieldsOrdered rest

end

mutual

/-- No map is in a value, and no double that is an integer of 64 bits. -/
def Settled : Value → Prop
  | float x => ∀ n, x.toInt? = some n → ¬ FitsInt64 n
  | list items => ItemsSettled items
  | map _ => False
  | record fields => FieldsSettled fields
  | null | bool _ | int _ | text _ | object _ | function _ => True

def ItemsSettled : List Value → Prop
  | [] => True
  | item :: rest => item.Settled ∧ ItemsSettled rest

def FieldsSettled : List (String × Value) → Prop
  | [] => True
  | (_, value) :: rest => value.Settled ∧ FieldsSettled rest

end

/-- The text that stands for a key: a text for itself, and a scalar as it is written. -/
def keyText : Value → String
  | text s => s
  | null => "null"
  | bool b => if b then "true" else "false"
  | int n => toString n.toInt
  | float x => Json.numberLayout.write x
  | list _ | map _ | record _ | object _ | function _ => ""

mutual

/-- The value with a record for each map and an integer for each double that is one of 64 bits. Of two
pairs of a map whose keys have one text the later counts. -/
def recorded : Value → Value
  | float x =>
    match x.toInt? with
    | some n => if FitsInt64 n then int (Int64.ofInt n) else float x
    | none => float x
  | list items => list (recordedItems items)
  | map pairs => ofFields (recordedPairs pairs)
  | record fields => record (recordedFields fields)
  | value => value

def recordedItems : List Value → List Value
  | [] => []
  | item :: rest => item.recorded :: recordedItems rest

def recordedPairs : List (Value × Value) → List (String × Value)
  | [] => []
  | (key, value) :: rest => (key.keyText, value.recorded) :: recordedPairs rest

def recordedFields : List (String × Value) → List (String × Value)
  | [] => []
  | (name, value) :: rest => (name, value.recorded) :: recordedFields rest

end

/-! Containers part by part. -/

theorem itemsPlain_iff {items : List Value} : ItemsPlain items ↔ ∀ item ∈ items, item.Plain := by
  induction items with
  | nil => simp [ItemsPlain]
  | cons item rest ih => simp [ItemsPlain, ih]

theorem fieldsPlain_iff {fields : List (String × Value)} :
    FieldsPlain fields ↔ ∀ field ∈ fields, field.2.Plain := by
  induction fields with
  | nil => simp [FieldsPlain]
  | cons field rest ih => simp [FieldsPlain, ih]

theorem itemsOrdered_iff {items : List Value} :
    ItemsOrdered items ↔ ∀ item ∈ items, item.Ordered := by
  induction items with
  | nil => simp [ItemsOrdered]
  | cons item rest ih => simp [ItemsOrdered, ih]

theorem pairsOrdered_iff {pairs : List (Value × Value)} :
    PairsOrdered pairs ↔ ∀ pair ∈ pairs, pair.1.Ordered ∧ pair.2.Ordered := by
  induction pairs with
  | nil => simp [PairsOrdered]
  | cons pair rest ih => simp [PairsOrdered, ih, and_assoc]

theorem fieldsOrdered_iff {fields : List (String × Value)} :
    FieldsOrdered fields ↔ ∀ field ∈ fields, field.2.Ordered := by
  induction fields with
  | nil => simp [FieldsOrdered]
  | cons field rest ih => simp [FieldsOrdered, ih]

theorem itemsSettled_iff {items : List Value} :
    ItemsSettled items ↔ ∀ item ∈ items, item.Settled := by
  induction items with
  | nil => simp [ItemsSettled]
  | cons item rest ih => simp [ItemsSettled, ih]

theorem fieldsSettled_iff {fields : List (String × Value)} :
    FieldsSettled fields ↔ ∀ field ∈ fields, field.2.Settled := by
  induction fields with
  | nil => simp [FieldsSettled]
  | cons field rest ih => simp [FieldsSettled, ih]

theorem recordedItems_eq (items : List Value) : recordedItems items = items.map recorded := by
  induction items with
  | nil => rfl
  | cons item rest ih => rw [recordedItems, ih, List.map_cons]

theorem recordedFields_eq (fields : List (String × Value)) :
    recordedFields fields = fields.map fun field => (field.1, field.2.recorded) := by
  induction fields with
  | nil => rfl
  | cons field rest ih => rw [recordedFields, ih, List.map_cons]

theorem ofItems_eq (items : List Json) : ofItems items = items.map ofJson := by
  induction items with
  | nil => rfl
  | cons item rest ih => rw [ofItems, ih, List.map_cons]

theorem ofMembers_eq (members : List (String × Json)) :
    ofMembers members = members.map fun member => (member.1, ofJson member.2) := by
  induction members with
  | nil => rfl
  | cons member rest ih => rw [ofMembers, ih, List.map_cons]

/-! Numbers. -/

theorem ofNumber_of_whole {x : Double} {n : ℤ} (whole : x.toInt? = some n) (fits : FitsInt64 n) :
    ofNumber x = int (Int64.ofInt n) := by
  obtain ⟨finite, same⟩ := Double.toInt?_eq_some_iff.mp whole
  have cut := Double.truncate_of_toInt? whole
  have passes : x.isInt64 = true := Double.isInt64_iff.mpr ⟨finite, by rw [cut, same], cut ▸ fits⟩
  rw [ofNumber, if_pos passes, Double.toInt64_of_isInt64 passes, cut]

theorem ofNumber_of_not_whole {x : Double} (other : ∀ n, x.toInt? = some n → ¬ FitsInt64 n) :
    ofNumber x = float x := by
  refine if_neg fun passes => ?_
  obtain ⟨finite, same, fits⟩ := Double.isInt64_iff.mp passes
  exact other _ (Double.toInt?_eq_some_iff.mpr ⟨finite, same⟩) fits

theorem recorded_float (x : Double) : (float x).recorded = ofNumber x := by
  by_cases whole : ∃ n, x.toInt? = some n ∧ FitsInt64 n
  · obtain ⟨n, same, fits⟩ := whole
    simp only [recorded, same, if_pos fits, ofNumber_of_whole same fits]
  · have other : ∀ n, x.toInt? = some n → ¬ FitsInt64 n := fun n same fits => whole ⟨n, same, fits⟩
    rw [ofNumber_of_not_whole other, recorded]
    split
    · rename_i n same
      exact if_neg (other n same)
    · rfl

theorem toInt_ofInt {n : ℤ} (fits : FitsInt64 n) : (Int64.ofInt n).toInt = n :=
  Int64.toInt_ofInt_of_le fits.1 fits.2

theorem fitsInt64_toInt (n : Int64) : FitsInt64 n.toInt := ⟨n.le_toInt, n.toInt_lt⟩

/-! From a document to a value and back. -/

variable (typeName : Handle → String)

theorem plain_ofNumber {x : Double} (finite : x.isFinite = true) : (ofNumber x).Plain := by
  unfold ofNumber
  split
  · trivial
  · exact finite

/-- The number of a finite double has the document of the double. -/
theorem toJson_ofNumber {x : Double} (finite : x.isFinite = true) :
    (ofNumber x).toJson typeName = .ok (Json.float x).normal := by
  by_cases whole : ∃ n, x.toInt? = some n ∧ FitsInt64 n
  · obtain ⟨n, same, fits⟩ := whole
    rw [ofNumber_of_whole same fits, toJson, toInt_ofInt fits,
      Json.normal_float_of_whole same fits]
  · have other : ∀ n, x.toInt? = some n → ¬ FitsInt64 n := fun n same fits => whole ⟨n, same, fits⟩
    rw [ofNumber_of_not_whole other, toJson, doubleJson, if_pos finite,
      Json.normal_float_of_not_whole other]

theorem itemsToJson_map {α : Type} {items : List α} {value : α → Value} {document : α → Json}
    (each : ∀ item ∈ items, (value item).toJson typeName = .ok (document item)) :
    itemsToJson typeName (items.map value) = .ok (items.map document) := by
  induction items with
  | nil => rfl
  | cons item rest ih =>
    obtain ⟨first, others⟩ := List.forall_mem_cons.mp each
    rw [List.map_cons, itemsToJson, first, ih others]
    rfl

theorem fieldsToJson_map {α : Type} {fields : List (String × α)} {value : α → Value}
    {document : α → Json} (members : List (String × Json))
    (each : ∀ field ∈ fields, (value field.2).toJson typeName = .ok (document field.2)) :
    fieldsToJson typeName members (fields.map fun field => (field.1, value field.2)) =
      .ok ((fields.map fun field => (field.1, document field.2)).foldl
        (fun members member => Fields.insert member.1 member.2 members) members) := by
  induction fields generalizing members with
  | nil => rfl
  | cons field rest ih =>
    obtain ⟨first, others⟩ := List.forall_mem_cons.mp each
    rw [List.map_cons, fieldsToJson, first]
    exact ih _ others

/-- The value of a document is plain. -/
theorem plain_ofJson {document : Json} (wellFormed : document.WellFormed) :
    (ofJson document).Plain := by
  induction document using Json.induction with
  | null | bool b | string text => trivial
  | integer n =>
    rw [ofJson_integer]
    split
    · trivial
    · exact plain_ofNumber (Double.nearest_ofInt_of_wide wellFormed).finite
  | float x => exact plain_ofNumber wellFormed
  | array items each =>
    rw [Json.WellFormed, Json.itemsWellFormed_iff] at wellFormed
    rw [ofJson, Plain, itemsPlain_iff, ofItems_eq]
    rintro _ member
    obtain ⟨item, among, rfl⟩ := List.mem_map.mp member
    exact each item among (wellFormed item among)
  | object members each =>
    rw [Json.WellFormed, Json.membersWellFormed_iff] at wellFormed
    rw [ofJson, Plain, fieldsPlain_iff, ofMembers_eq]
    rintro _ field
    obtain ⟨member, among, rfl⟩ := List.mem_map.mp field
    exact each member among (wellFormed.2 member among)

/-- The document of the value of a document is its normal form. -/
theorem toJson_ofJson {document : Json} (wellFormed : document.WellFormed) :
    (ofJson document).toJson typeName = .ok document.normal := by
  induction document using Json.induction with
  | null | bool b | string text => rfl
  | integer n =>
    rw [ofJson_integer, Json.normal]
    split
    · rename_i fits
      rw [toJson, toInt_ofInt fits]
    · rename_i large
      rw [toJson_ofNumber typeName (Double.nearest_ofInt_of_wide wellFormed).finite,
        Json.normal_float_of_not_whole (Json.ofInt_not_whole wellFormed large)]
  | float x => exact toJson_ofNumber typeName wellFormed
  | array items each =>
    rw [Json.WellFormed, Json.itemsWellFormed_iff] at wellFormed
    rw [ofJson, toJson, Json.normal, Json.normalItems_eq, ofItems_eq,
      itemsToJson_map typeName fun item member => each item member (wellFormed item member)]
    rfl
  | object members each =>
    rw [Json.WellFormed, Json.membersWellFormed_iff] at wellFormed
    obtain ⟨ascending, wellFormed⟩ := wellFormed
    have parts := @fieldsToJson_map typeName Json members ofJson Json.normal []
      fun member among => each member among (wellFormed member among)
    have order : Fields.Ascending (members.map fun member => (member.1, member.2.normal)) :=
      List.pairwise_map.mpr ascending
    have whole := Fields.ofList_of_ascending order
    rw [Fields.ofList] at whole
    rw [whole] at parts
    rw [ofJson, toJson, Json.normal, Json.normalMembers_eq, ofMembers_eq, parts]
    rfl

/-! From a value to a document and back. -/

variable {typeName}

/-- A key that has a name has its text for a name. -/
theorem keyText_of_jsonKey {key : Value} {name : String} (named : key.jsonKey typeName = .ok name) :
    name = key.keyText := by
  cases key with
  | null | int n | text s => exact (Except.ok.inj named).symm
  | bool b =>
    cases b <;> exact (Except.ok.inj named).symm
  | float x =>
    rw [jsonKey, doubleJson] at named
    split at named
    · exact (Except.ok.inj named).symm
    · cases named
  | list _ | map _ | record _ | object _ | function _ => cases named

/-- What follows something comes to its result only if that has come to something. -/
theorem ok_of_bind {α β : Type} {first : Except BridgeError α}
    {next : α → Except BridgeError β} {result : β} (made : first.bind next = .ok result) :
    ∃ part, first = .ok part ∧ next part = .ok result := by
  cases first with
  | error error => cases made
  | ok part => exact ⟨part, rfl, made⟩

private theorem ok_of_map {α β : Type} {first : Except BridgeError α} {change : α → β} {result : β}
    (made : first.map change = .ok result) : ∃ part, first = .ok part ∧ change part = result := by
  cases first with
  | error error => cases made
  | ok part => exact ⟨part, rfl, Except.ok.inj made⟩

theorem ofItems_of_itemsToJson {items : List Value} {documents : List Json}
    (made : itemsToJson typeName items = .ok documents)
    (each : ∀ item ∈ items, ∀ document, item.toJson typeName = .ok document →
      ofJson document = item.recorded) :
    ofItems documents = recordedItems items := by
  induction items generalizing documents with
  | nil =>
    rw [← Except.ok.inj made]
    rfl
  | cons item rest ih =>
    obtain ⟨first, others⟩ := List.forall_mem_cons.mp each
    rw [itemsToJson] at made
    obtain ⟨document, head, made⟩ := ok_of_bind made
    obtain ⟨remaining, tail, made⟩ := ok_of_bind made
    rw [← Except.ok.inj made, ofItems, recordedItems, first document head, ih tail others]

/-- A member goes in with the value of its document. -/
private theorem ofMembers_insert (name : String) (document : Json) (members : List (String × Json)) :
    ofMembers (Fields.insert name document members) =
      Fields.insert name (ofJson document) (ofMembers members) := by
  rw [ofMembers_eq, ofMembers_eq, Fields.insert_map]

theorem ofMembers_of_pairsToJson {pairs : List (Value × Value)} {members made : List (String × Json)}
    (same : pairsToJson typeName members pairs = .ok made)
    (each : ∀ pair ∈ pairs, ∀ document, pair.2.toJson typeName = .ok document →
      ofJson document = pair.2.recorded) :
    ofMembers made = (recordedPairs pairs).foldl
      (fun fields field => Fields.insert field.1 field.2 fields) (ofMembers members) := by
  induction pairs generalizing members with
  | nil =>
    rw [← Except.ok.inj same]
    rfl
  | cons pair rest ih =>
    obtain ⟨first, others⟩ := List.forall_mem_cons.mp each
    rw [pairsToJson] at same
    obtain ⟨name, named, same⟩ := ok_of_bind same
    obtain ⟨document, head, same⟩ := ok_of_bind same
    rw [ih same others, ofMembers_insert, first document head, keyText_of_jsonKey named]
    rfl

theorem ofMembers_of_fieldsToJson {fields : List (String × Value)}
    {members made : List (String × Json)} (same : fieldsToJson typeName members fields = .ok made)
    (each : ∀ field ∈ fields, ∀ document, field.2.toJson typeName = .ok document →
      ofJson document = field.2.recorded) :
    ofMembers made = (recordedFields fields).foldl
      (fun fields field => Fields.insert field.1 field.2 fields) (ofMembers members) := by
  induction fields generalizing members with
  | nil =>
    rw [← Except.ok.inj same]
    rfl
  | cons field rest ih =>
    obtain ⟨first, others⟩ := List.forall_mem_cons.mp each
    rw [fieldsToJson] at same
    obtain ⟨document, head, same⟩ := ok_of_bind same
    rw [ih same others, ofMembers_insert, first document head]
    rfl

/-- The value of the document of a value. -/
theorem ofJson_of_toJson {value : Value} {document : Json} (ordered : value.Ordered)
    (made : value.toJson typeName = .ok document) : ofJson document = value.recorded := by
  induction value using induction generalizing document with
  | null | bool b | text s =>
    rw [← Except.ok.inj made]
    rfl
  | int n =>
    rw [← Except.ok.inj made, ofJson_integer, if_pos (fitsInt64_toInt n), Int64.ofInt_toInt]
    rfl
  | float x =>
    rw [toJson, doubleJson] at made
    split at made
    · rw [← Except.ok.inj made, ofJson_float, recorded_float]
    · cases made
  | list items each =>
    rw [Ordered, itemsOrdered_iff] at ordered
    obtain ⟨documents, parts, rfl⟩ := ok_of_map made
    rw [ofJson, recorded, ofItems_of_itemsToJson parts
      fun item member _ => each item member (ordered item member)]
  | map pairs each =>
    rw [Ordered, pairsOrdered_iff] at ordered
    obtain ⟨members, parts, rfl⟩ := ok_of_map made
    rw [ofJson, recorded, ofMembers_of_pairsToJson parts
      fun pair member _ => (each pair member).2 (ordered pair member).2]
    rfl
  | record fields each =>
    rw [Ordered, fieldsOrdered_iff] at ordered
    obtain ⟨members, parts, rfl⟩ := ok_of_map made
    have order : Fields.Ascending (recordedFields fields) := by
      rw [recordedFields_eq]
      exact List.pairwise_map.mpr ordered.1
    have whole := Fields.ofList_of_ascending order
    rw [Fields.ofList] at whole
    rw [ofJson, recorded, ofMembers_of_fieldsToJson parts
      fun field member _ => each field member (ordered.2 field member), ofMembers, whole]
  | object handle => cases made
  | function identity => cases made

theorem wellFormed_insert {name : String} {document : Json} {members : List (String × Json)}
    (ready : document.WellFormed) (wellFormed : (Json.object members).WellFormed) :
    (Json.object (Fields.insert name document members)).WellFormed := by
  rw [Json.WellFormed, Json.membersWellFormed_iff] at wellFormed ⊢
  refine ⟨Fields.ascending_insert name document wellFormed.1, fun member among => ?_⟩
  obtain rfl | among := Fields.mem_insert among
  · exact ready
  · exact wellFormed.2 member among

/-- The document of a value is one that there is. -/
theorem wellFormed_of_toJson {value : Value} {document : Json}
    (made : value.toJson typeName = .ok document) : document.WellFormed := by
  induction value using induction generalizing document with
  | null | bool b | text s =>
    rw [← Except.ok.inj made]
    trivial
  | int n =>
    have fits := fitsInt64_toInt n
    rw [← Except.ok.inj made, Json.WellFormed]
    omega
  | float x =>
    rw [toJson, doubleJson] at made
    split at made
    · rename_i finite
      rw [← Except.ok.inj made]
      exact finite
    · cases made
  | list items each =>
    obtain ⟨documents, parts, rfl⟩ := ok_of_map made
    rw [Json.WellFormed, Json.itemsWellFormed_iff]
    clear made
    induction items generalizing documents with
    | nil =>
      rw [← Except.ok.inj parts]
      exact fun _ member => (List.not_mem_nil member).elim
    | cons item rest ih =>
      obtain ⟨first, others⟩ := List.forall_mem_cons.mp each
      rw [itemsToJson] at parts
      obtain ⟨document, head, parts⟩ := ok_of_bind parts
      obtain ⟨remaining, tail, parts⟩ := ok_of_bind parts
      rw [← Except.ok.inj parts]
      exact List.forall_mem_cons.mpr ⟨first head, ih others remaining tail⟩
  | map pairs each =>
    obtain ⟨members, parts, rfl⟩ := ok_of_map made
    have start : (Json.object []).WellFormed := ⟨.nil, trivial⟩
    clear made
    generalize [] = done at parts start
    induction pairs generalizing done with
    | nil => exact Except.ok.inj parts ▸ start
    | cons pair rest ih =>
      obtain ⟨first, others⟩ := List.forall_mem_cons.mp each
      rw [pairsToJson] at parts
      obtain ⟨name, named, parts⟩ := ok_of_bind parts
      obtain ⟨document, head, parts⟩ := ok_of_bind parts
      exact ih others _ parts (wellFormed_insert (first.2 head) start)
  | record fields each =>
    obtain ⟨members, parts, rfl⟩ := ok_of_map made
    have start : (Json.object []).WellFormed := ⟨.nil, trivial⟩
    clear made
    generalize [] = done at parts start
    induction fields generalizing done with
    | nil => exact Except.ok.inj parts ▸ start
    | cons field rest ih =>
      obtain ⟨first, others⟩ := List.forall_mem_cons.mp each
      rw [fieldsToJson] at parts
      obtain ⟨document, head, parts⟩ := ok_of_bind parts
      exact ih others _ parts (wellFormed_insert (first head) start)
  | object handle => cases made
  | function identity => cases made

/-- What is changed are the maps and the doubles that are integers. -/
theorem recorded_eq_self_iff {value : Value} : value.recorded = value ↔ value.Settled := by
  induction value using induction with
  | null | bool b | int n | text s | object handle | function identity =>
    exact iff_of_true rfl trivial
  | float x =>
    rw [recorded_float, Settled]
    constructor
    · intro same n whole fits
      rw [ofNumber_of_whole whole fits] at same
      cases same
    · exact ofNumber_of_not_whole
  | list items each =>
    rw [recorded, list.injEq, recordedItems_eq, Settled, itemsSettled_iff]
    nth_rewrite 2 [← List.map_id items]
    rw [List.map_inj_left]
    exact forall₂_congr each
  | map pairs each => exact iff_of_false (fun same => nomatch same) id
  | record fields each =>
    rw [recorded, record.injEq, recordedFields_eq, Settled, fieldsSettled_iff]
    nth_rewrite 2 [← List.map_id fields]
    rw [List.map_inj_left]
    refine forall₂_congr fun field member => ?_
    rw [← each field member]
    exact Prod.ext_iff.trans (and_iff_right rfl)

/-! Values without a document. -/

private theorem error_of_bind {α β : Type} {first : Except BridgeError α}
    {next : α → Except BridgeError β} {error : BridgeError} (failed : first.bind next = .error error) :
    first = .error error ∨ ∃ part, next part = .error error := by
  cases first with
  | error early => exact .inl (congrArg Except.error (Except.error.inj failed))
  | ok part => exact .inr ⟨part, failed⟩

private theorem error_of_map {α β : Type} {first : Except BridgeError α} {change : α → β}
    {error : BridgeError} (failed : first.map change = .error error) : first = .error error := by
  cases first with
  | error early => exact congrArg Except.error (Except.error.inj failed)
  | ok part => cases failed

theorem error_of_jsonKey {key : Value} {error : BridgeError}
    (failed : key.jsonKey typeName = .error error) : ∃ what, error = .unsupportedConversion what := by
  cases key with
  | null | bool _ | int _ | text _ => cases failed
  | float x =>
    have failed : doubleJson x = .error error := error_of_map failed
    unfold doubleJson at failed
    split at failed
    · cases failed
    · exact ⟨_, (Except.error.inj failed).symm⟩
  | list _ | map _ | record _ | object _ | function _ => exact ⟨_, (Except.error.inj failed).symm⟩

/-- A value that has no document has no conversion. -/
theorem error_of_toJson {value : Value} {error : BridgeError}
    (failed : value.toJson typeName = .error error) :
    ∃ what, error = .unsupportedConversion what := by
  induction value using induction with
  | null | bool _ | int _ | text _ => cases failed
  | float x =>
    rw [toJson, doubleJson] at failed
    split at failed
    · cases failed
    · exact ⟨_, (Except.error.inj failed).symm⟩
  | list items each =>
    replace failed : itemsToJson typeName items = .error error := error_of_map failed
    induction items with
    | nil => cases failed
    | cons item rest ih =>
      obtain ⟨first, others⟩ := List.forall_mem_cons.mp each
      rw [itemsToJson] at failed
      obtain early | ⟨document, late⟩ := error_of_bind failed
      · exact first early
      · obtain later | ⟨_, done⟩ := error_of_bind late
        · exact ih others later
        · cases done
  | map pairs each =>
    replace failed : pairsToJson typeName [] pairs = .error error := error_of_map failed
    generalize ([] : List (String × Json)) = members at failed
    induction pairs generalizing members with
    | nil => cases failed
    | cons pair rest ih =>
      obtain ⟨first, others⟩ := List.forall_mem_cons.mp each
      rw [pairsToJson] at failed
      obtain early | ⟨name, late⟩ := error_of_bind failed
      · exact error_of_jsonKey early
      · obtain early | ⟨document, later⟩ := error_of_bind late
        · exact first.2 early
        · exact ih others _ later
  | record fields each =>
    replace failed : fieldsToJson typeName [] fields = .error error := error_of_map failed
    generalize ([] : List (String × Json)) = members at failed
    induction fields generalizing members with
    | nil => cases failed
    | cons field rest ih =>
      obtain ⟨first, others⟩ := List.forall_mem_cons.mp each
      rw [fieldsToJson] at failed
      obtain early | ⟨document, later⟩ := error_of_bind failed
      · exact first early
      · exact ih others _ later
  | object _ | function _ => exact ⟨_, (Except.error.inj failed).symm⟩

/-- Values and documents are inverse to one another up to their normal forms. The value of a document
is plain and has a document, which is the normal form of the first and its own normal form; an
integer that changes becomes the nearest double. The value of the document of a value has records for
maps and integers for doubles that are integers of 64 bits, and is the value itself just when there
are none of these. -/
theorem ofJson_inverse_toJson (typeName : Handle → String) :
    (∀ document : Json, document.WellFormed →
      (ofJson document).Plain ∧ (ofJson document).toJson typeName = .ok document.normal ∧
        document.normal.normal = document.normal) ∧
    (∀ n : ℤ, 2 ^ 63 ≤ n → n < 2 ^ 64 →
      ∃ x : Double, (Json.integer n).normal = .float x ∧ x.Nearest n) ∧
    ∀ (value : Value) (document : Json), value.Ordered → value.toJson typeName = .ok document →
      ofJson document = value.recorded ∧ (ofJson document = value ↔ value.Settled) := by
  refine ⟨fun document wellFormed => ?_, fun n large small => ?_, fun value document ordered made => ?_⟩
  · exact ⟨plain_ofJson wellFormed, toJson_ofJson typeName wellFormed, Json.normal_normal wellFormed⟩
  · have beyond : ¬ FitsInt64 n := by omega
    exact ⟨.ofInt n, if_neg beyond, Double.nearest_ofInt_of_wide ⟨by omega, small⟩⟩
  · rw [ofJson_of_toJson ordered made]
    exact ⟨rfl, recorded_eq_self_iff⟩

/-- The largest integer without a sign, a double that is an integer, and a map with one text for two
keys. -/
theorem ofJson_inverse_toJson_boundaries :
    (ofJson (.array [.integer (2 ^ 64 - 1), .float ⟨0x3FF0000000000000⟩])).toJson (fun _ => "") =
        .ok (.array [.float ⟨0x43F0000000000000⟩, .integer 1]) ∧
      (∃ x : Double, (Json.integer (2 ^ 64 - 1)).normal = .float x ∧ x.Nearest (2 ^ 64 - 1 : ℤ)) ∧
      ofJson (.object [("1", .float ⟨0x4000000000000000⟩)]) = .record [("1", .int 2)] ∧
      ofJson (.object [("1", .float ⟨0x4000000000000000⟩)]) ≠
        .map [(.text "1", .null), (.int 1, .float ⟨0x4000000000000000⟩)] := by
  obtain ⟨there, round, back⟩ := ofJson_inverse_toJson fun _ => ""
  have wellFormed : (Json.array [.integer (2 ^ 64 - 1), .float ⟨0x3FF0000000000000⟩]).WellFormed :=
    ⟨⟨by decide, by decide⟩, rfl, trivial⟩
  have map := back (.map [(.text "1", .null), (.int 1, .float ⟨0x4000000000000000⟩)])
    (.object [("1", .float ⟨0x4000000000000000⟩)]) ⟨trivial, trivial, trivial, trivial, trivial⟩ rfl
  exact ⟨(there _ wellFormed).2.1, round _ (by decide) (by decide), map.1,
    fun same => map.2.mp same⟩

end ForeignBridge.Value
