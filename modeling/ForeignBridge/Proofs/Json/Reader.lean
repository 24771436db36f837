import ForeignBridge.Json.Reader
import ForeignBridge.Proofs.Json.Normal
import ForeignBridge.Proofs.Number.Shortest

/-! # What is read is a document

Whatever text is read, what comes of it has numbers of 64 bits, with its doubles finite, and the members
of each object in order; no more containers stand in one another in it than are allowed.
-/

namespace ForeignBridge.Json

mutual

/-- How many containers stand one in another; one without parts counts. -/
def depth : Json → ℕ
  | array items => itemsDepth items + 1
  | object members => membersDepth members + 1
  | _ => 0

/-- How many containers stand one in another in some items. -/
def itemsDepth : List Json → ℕ
  | [] => 0
  | item :: rest => max item.depth (itemsDepth rest)

/-- How many containers stand one in another in some members. -/
def membersDepth : List (String × Json) → ℕ
  | [] => 0
  | (_, value) :: rest => max value.depth (membersDepth rest)

end

theorem itemsDepth_le_iff {items : List Json} {bound : ℕ} :
    itemsDepth items ≤ bound ↔ ∀ item ∈ items, item.depth ≤ bound := by
  induction items with
  | nil => simp [itemsDepth]
  | cons item rest ih => simp [itemsDepth, ih]

theorem membersDepth_le_iff {members : List (String × Json)} {bound : ℕ} :
    membersDepth members ≤ bound ↔ ∀ member ∈ members, member.2.depth ≤ bound := by
  induction members with
  | nil => simp [membersDepth]
  | cons member rest ih => simp [membersDepth, ih]

/-- A document in which no more than so many containers stand in one another. -/
structure Within (bound : ℕ) (document : Json) : Prop where
  wellFormed : document.WellFormed
  depth : document.depth ≤ bound

/-- That whatever is read is a document with some containers in one another. -/
def Reads (bound : ℕ) (reading : Reading Json) : Prop :=
  ∀ document rest, reading = .ok (document, rest) → document.Within bound

namespace Reads

variable {bound : ℕ} {document : Json} {cursor : Cursor}

theorem ok (within : document.Within bound) : Reads bound (.ok (document, cursor)) := by
  rintro _ _ ⟨rfl⟩
  exact within

theorem error (fault : Fault) : Reads bound (.error fault) := nofun

theorem map {α : Type} {reading : Except Fault α} {become : α → Json × Cursor}
    (within : ∀ value, (become value).1.Within bound) : Reads bound (reading.map become) := by
  cases reading with
  | error fault => exact error fault
  | ok value => exact ok (within value)

end Reads

/-! Numbers. -/

section Numbers

variable {bound significand : ℕ} {negative : Bool} {cursor : Cursor} {exponent : ℤ}

theorem within_float {x : Double} (finite : x.isFinite = true) : (float x).Within bound :=
  ⟨finite, Nat.zero_le _⟩

theorem within_integer {n : ℤ} (wide : -2 ^ 63 ≤ n ∧ n < 2 ^ 64) : (integer n).Within bound :=
  ⟨wide, Nat.zero_le _⟩

theorem isFinite_significand (small : significand < significandBound) :
    (Double.ofNat significand).isFinite = true := by
  have wide : (significand : ℚ) < 2 ^ 64 := by exact_mod_cast (show significand < 2 ^ 64 from small)
  rw [Double.ofNat]
  refine Double.isFinite_ofQuotient false Nat.one_pos ?_
  rw [Nat.cast_one, div_one]
  exact wide.trans_le (pow_le_pow_right₀ one_le_two (by decide))

theorem pushDigit?_lt {c : Char} {pushed : ℕ} (fits : pushDigit? significand c = some pushed) :
    pushed < significandBound := by
  rw [pushDigit?, Option.ite_none_right_eq_some, Option.some.injEq] at fits
  exact fits.2 ▸ fits.1

theorem takeDigits_lt {digits : List Char} {count : ℕ} (small : significand < significandBound) :
    (takeDigits digits significand count cursor).1 < significandBound := by
  induction digits generalizing significand count cursor with
  | nil => exact small
  | cons c rest ih =>
    unfold takeDigits
    split
    · rename_i pushed taken
      exact ih (pushDigit?_lt (Option.ite_none_right_eq_some.mp taken).2)
    · exact small

/-- A finite double stays finite while it is multiplied or divided by powers of ten. -/
theorem isFinite_of_scaleDouble? {fuel : ℕ} {x y : Double} (finite : x.isFinite = true)
    (scaled : scaleDouble? fuel x exponent = some y) : y.isFinite = true := by
  induction fuel generalizing x exponent with
  | zero => exact Option.some.inj scaled ▸ finite
  | succ fuel ih =>
    unfold scaleDouble? at scaled
    simp only at scaled
    split at scaled
    · rename_i small
      have power := Double.isFinite_tenTo small
      split at scaled
      · split at scaled
        · cases scaled
        · rename_i bounded
          exact Option.some.inj scaled ▸ Double.isFinite_mul finite power (by simpa using bounded)
      · rename_i below
        exact Option.some.inj scaled ▸ Double.isFinite_div finite power
          (Double.two_le_tenTo (by omega) small)
    · split at scaled
      · exact Option.some.inj scaled ▸ finite
      · split at scaled
        · cases scaled
        · exact ih (Double.isFinite_div finite (Double.isFinite_tenTo le_rfl)
            (Double.two_le_tenTo (by decide) le_rfl)) scaled

theorem finishDouble_reads (small : significand < significandBound) :
    Reads bound (finishDouble negative significand exponent cursor) := by
  unfold finishDouble
  split
  · rename_i x scaled
    have finite := isFinite_of_scaleDouble? (isFinite_significand small) scaled
    refine .ok (within_float ?_)
    split
    · exact Double.isFinite_neg finite
    · exact finite
  · exact .error _

theorem readExponent_reads (small : significand < significandBound) :
    Reads bound (readExponent negative significand exponent cursor) := by
  unfold readExponent
  simp only
  split
  · exact .error _
  · split
    · exact .error _
    · split
      · exact finishDouble_reads small
      · split
        · exact .error _
        · exact .ok (within_float (by cases negative <;> rfl))

theorem readFraction_reads (small : significand < significandBound) :
    Reads bound (readFraction negative significand exponent cursor) := by
  have still := @takeDigits_lt _ cursor.skip cursor.skip.rest 0 small
  unfold readFraction
  simp only
  split
  · split
    · exact readExponent_reads still
    · exact finishDouble_reads still
  · split
    · exact .error _
    · split
      · exact readExponent_reads still
      · exact finishDouble_reads still

theorem readAfterInteger_reads {dropped : ℕ} (small : significand < significandBound) :
    Reads bound (readAfterInteger negative significand dropped cursor) := by
  have wide : significand < 2 ^ 64 := small
  unfold readAfterInteger
  split
  · exact readFraction_reads small
  · split
    · exact readExponent_reads small
    · split
      · exact finishDouble_reads small
      · split
        · exact .ok (within_integer (by omega))
        · split
          · rename_i fits
            have fits : significand ≤ 2 ^ 63 := fits.2
            exact .ok (within_integer (by omega))
          · exact .ok (within_float (Double.isFinite_neg (isFinite_significand small)))

theorem readNumber_reads : Reads bound (readNumber negative cursor) := by
  unfold readNumber
  split
  · exact .error _
  · simp only
    split
    · split
      · exact .error _
      · exact readAfterInteger_reads (by decide)
    · split
      · exact readAfterInteger_reads (takeDigits_lt (by decide))
      · exact .error _

end Numbers

/-! Containers. -/

theorem within_array {bound : ℕ} {items : List Json} (each : ∀ item ∈ items, item.Within bound) :
    (array items).Within (bound + 1) where
  wellFormed := by
    rw [WellFormed, itemsWellFormed_iff]
    exact fun item member => (each item member).wellFormed
  depth := by
    rw [Json.depth]
    exact Nat.succ_le_succ (itemsDepth_le_iff.mpr fun item member => (each item member).depth)

theorem within_object {bound : ℕ} {members : List (String × Json)}
    (ascending : Fields.Ascending members) (each : ∀ member ∈ members, member.2.Within bound) :
    (object members).Within (bound + 1) where
  wellFormed := by
    rw [WellFormed, membersWellFormed_iff]
    exact ⟨ascending, fun member among => (each member among).wellFormed⟩
  depth := by
    rw [Json.depth]
    exact Nat.succ_le_succ (membersDepth_le_iff.mpr fun member among => (each member among).depth)

/-- What is read with so many rounds: a document, the items of an array and the members of an
object. -/
structure Reader (fuel : ℕ) : Prop where
  value : ∀ bound cursor, Reads bound (readValue fuel bound cursor)
  items : ∀ bound first read cursor, (∀ item ∈ read, item.Within bound) →
    Reads (bound + 1) (readItems fuel bound first read cursor)
  members : ∀ bound first read cursor, Fields.Ascending read →
    (∀ member ∈ read, member.2.Within bound) →
    Reads (bound + 1) (readMembers fuel bound first read cursor)

theorem readValue_reads {fuel : ℕ} (reader : Reader fuel) (bound : ℕ) (cursor : Cursor) :
    Reads bound (readValue (fuel + 1) bound cursor) := by
  have plain (document : Json) (none : document.depth = 0) (wellFormed : document.WellFormed) :
      document.Within bound := ⟨wellFormed, none ▸ Nat.zero_le _⟩
  rw [readValue]
  simp only
  split
  · exact .error _
  · split_ifs
    · exact .map fun _ => plain _ rfl trivial
    · exact .map fun _ => plain _ rfl trivial
    · exact .map fun _ => plain _ rfl trivial
    · exact readNumber_reads
    · exact readNumber_reads
    · exact .map fun _ => plain _ rfl trivial
    · cases bound with
      | zero => exact .error _
      | succ bound => exact reader.items bound true [] _ nofun
    · cases bound with
      | zero => exact .error _
      | succ bound => exact reader.members bound true [] _ .nil nofun
    · exact .error _

/-- Each item that is read goes before those that are read already. -/
theorem readItems_reads {fuel : ℕ} (reader : Reader fuel) (bound : ℕ) (first : Bool)
    (read : List Json) (cursor : Cursor) (each : ∀ item ∈ read, item.Within bound) :
    Reads (bound + 1) (readItems (fuel + 1) bound first read cursor) := by
  rw [readItems]
  simp only
  split
  · exact .error _
  · split
    · exact .ok (within_array fun item member => each item (List.mem_reverse.mp member))
    · split
      · exact .error _
      · generalize (if first = true then _ else _ : Cursor) = start
        split
        · exact .error _
        · split
          · exact .error _
          · split
            · exact .error _
            · rename_i item cursor done
              have whole := List.forall_mem_cons.mpr ⟨reader.value bound start item cursor done, each⟩
              exact reader.items bound false (item :: read) cursor whole

/-- Each member that is read takes its place among those that are read already. -/
theorem readMembers_reads {fuel : ℕ} (reader : Reader fuel) (bound : ℕ) (first : Bool)
    (read : List (String × Json)) (cursor : Cursor) (ascending : Fields.Ascending read)
    (each : ∀ member ∈ read, member.2.Within bound) :
    Reads (bound + 1) (readMembers (fuel + 1) bound first read cursor) := by
  rw [readMembers]
  simp only
  split
  · exact .error _
  · split
    · exact .ok (within_object ascending each)
    · split
      · exact .error _
      · generalize (if first = true then _ else _ : Cursor) = start
        split
        · exact .error _
        · split_ifs
          · exact .error _
          · exact .error _
          · split
            · exact .error _
            · rename_i name cursor _
              split
              · exact .error _
              · split
                · exact .error _
                · split
                  · exact .error _
                  · rename_i value cursor done
                    refine reader.members bound false _ cursor
                      (Fields.ascending_insert name value ascending) fun member among => ?_
                    obtain rfl | among := Fields.mem_insert among
                    · exact reader.value bound _ value cursor done
                    · exact each member among

theorem reader (fuel : ℕ) : Reader fuel := by
  induction fuel with
  | zero => exact ⟨fun _ _ => .error _, fun _ _ _ _ _ => .error _, fun _ _ _ _ _ _ => .error _⟩
  | succ fuel ih => exact ⟨readValue_reads ih, readItems_reads ih, readMembers_reads ih⟩

/-- What a text is read as is a document in which no more containers stand in one another than are
allowed. -/
theorem within_of_read {text : String} {document : Json} (done : read text = .ok document) :
    document.Within depthLimit := by
  unfold read at done
  simp only at done
  have reads := (reader (2 * (Cursor.ofString text).rest.length + 2)).value depthLimit
    (Cursor.ofString text)
  generalize readValue _ depthLimit (Cursor.ofString text) = reading at reads done
  cases reading with
  | error fault => cases done
  | ok found =>
    obtain ⟨whole, cursor⟩ := found
    have within := reads whole cursor rfl
    change (if (skipBlanks cursor).rest.isEmpty = true then Except.ok whole
      else .error ((skipBlanks cursor).faultAhead .trailingCharacters)) = .ok document at done
    split at done
    · exact Except.ok.inj done ▸ within
    · cases done

end ForeignBridge.Json
