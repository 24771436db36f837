import ForeignBridge.Proofs.Json.Normal
import ForeignBridge.Proofs.Json.Numbers
import ForeignBridge.Proofs.Number.Shortest

/-! # How scalars are spelt

No decimal rounds to two positive doubles. The intervals of the numbers that round to them have no more
than an end in common, which belongs to one of them only: of two neighbours one has an odd significand.
So the shortest decimal of a double tells it apart from every other.

Documents without parts that are no texts are told apart by how they are written. A numeral is taken apart
again digit by digit, the numeral of a double has a point or an exponent and that of an integer has neither,
and two doubles with one numeral have one shortest decimal, so they are one.
-/

namespace ForeignBridge

/-- That a number lies in an interval. -/
def RoundingInterval.Takes (i : RoundingInterval) (number : ℚ) : Prop :=
  if i.closed then i.low * 2 ^ i.unit ≤ number ∧ number ≤ i.high * 2 ^ i.unit
  else i.low * 2 ^ i.unit < number ∧ number < i.high * 2 ^ i.unit

namespace Double

/-- A double is given by its sign and by its parts. -/
theorem ext_parts {x y : Double} (sign : x.isNegative = y.isNegative)
    (significand : x.significand = y.significand) (scale : x.scale = y.scale) : x = y := by
  have inX : x.fractionField < twoTo 52 := Nat.mod_lt _ (twoTo_pos 52)
  have inY : y.fractionField < twoTo 52 := Nat.mod_lt _ (twoTo_pos 52)
  have fields : x.exponentField = y.exponentField ∧ x.fractionField = y.fractionField := by
    unfold Double.significand at significand
    unfold Double.scale at scale
    split at significand <;> split at significand <;> simp only [*, ↓reduceIte] at scale <;> omega
  have signs : twoTo 63 ≤ x.bits.toNat ↔ twoTo 63 ≤ y.bits.toNat := decide_eq_decide.mp sign
  have boundX := x.bits.toNat_lt
  have boundY := y.bits.toNat_lt
  rw [exponentField, exponentField, fractionField, fractionField] at fields
  simp only [twoTo_eq] at fields signs
  have bits : x.bits = y.bits := UInt64.toNat_inj.mp (by omega)
  cases x
  cases y
  exact congrArg Double.mk bits

theorem scale_of_significand_eq_zero {x : Double} (none : x.significand = 0) : x.scale = -1074 := by
  unfold significand at none
  have some := twoTo_pos 52
  split at none
  · rename_i least
    exact if_pos least
  · omega

/-- A significand has its full length unless its scale is the least. -/
theorem significand_ge {x : Double} (more : -1074 < x.scale) : 2 ^ 52 ≤ x.significand := by
  unfold scale at more
  unfold significand
  rw [twoTo_eq]
  split
  · rename_i least
    rw [if_pos least] at more
    exact (lt_irrefl _ more).elim
  · exact Nat.le_add_right ..

section Intervals

variable {x y : Double} {number : ℚ}

/-- That a number rounds to the magnitude of a double. -/
def Takes (x : Double) (number : ℚ) : Prop := (RoundingInterval.ofDouble x).Takes number

/-- What rounds to a double is no more than half a step above it, and less if the significand is odd. -/
theorem Takes.le (takes : x.Takes number) : number ≤ (x.significand + 1 / 2) * 2 ^ x.scale ∧
    (x.significand % 2 = 1 → number < (x.significand + 1 / 2) * 2 ^ x.scale) := by
  have high := high_ofDouble x
  have ends : |x.value| + 2 ^ x.scale / 2 = (x.significand + 1 / 2) * 2 ^ x.scale := by
    rw [abs_value]
    ring
  rw [ends] at high
  rw [Takes, RoundingInterval.Takes, high] at takes
  split at takes
  · rename_i even
    refine ⟨takes.2, fun odd => ?_⟩
    have even : x.significand % 2 = 0 := beq_iff_eq.mp even
    omega
  · exact ⟨takes.2.le, fun _ => takes.2⟩

/-- The lower end of an interval, in steps. -/
private theorem low_ge (x : Double) {quarters : ℕ}
    (enough : quarters ≤ (RoundingInterval.ofDouble x).low) : (quarters / 4 : ℚ) * 2 ^ x.scale ≤
      (RoundingInterval.ofDouble x).low * 2 ^ (RoundingInterval.ofDouble x).unit := by
  have quarter : (2 : ℚ) ^ (RoundingInterval.ofDouble x).unit = 2 ^ x.scale / 4 := by
    rw [show (RoundingInterval.ofDouble x).unit = x.scale - 2 from rfl, zpow_sub₀ two_ne_zero]
    norm_num
  have counted : (quarters : ℚ) ≤ (RoundingInterval.ofDouble x).low := by exact_mod_cast enough
  have step : (0 : ℚ) < 2 ^ x.scale := by positivity
  rw [quarter]
  nlinarith

/-- What rounds to a double is no more than half a step below it, and not so much if the significand is
odd. -/
theorem Takes.ge (takes : x.Takes number) (some : 0 < x.significand) :
    (x.significand - 1 / 2) * 2 ^ x.scale ≤ number ∧
      (x.significand % 2 = 1 → (x.significand - 1 / 2) * 2 ^ x.scale < number) := by
  have enough : 4 * x.significand - 2 ≤ (RoundingInterval.ofDouble x).low := by
    simp only [RoundingInterval.ofDouble]
    split <;> omega
  have low := low_ge x enough
  have ends : (((4 * x.significand - 2 : ℕ) / 4 : ℚ)) * 2 ^ x.scale =
      (x.significand - 1 / 2) * 2 ^ x.scale := by
    rw [Nat.cast_sub (by omega)]
    push_cast
    ring
  rw [ends] at low
  rw [Takes, RoundingInterval.Takes] at takes
  split at takes
  · rename_i even
    refine ⟨low.trans takes.1, fun odd => ?_⟩
    have even : x.significand % 2 = 0 := beq_iff_eq.mp even
    omega
  · exact ⟨low.trans takes.1.le, fun _ => low.trans_lt takes.1⟩

/-- Below a power of two the next double is half as far away. -/
theorem Takes.ge_of_least (takes : x.Takes number) (least : x.significand = 2 ^ 52)
    (more : -1074 < x.scale) : (2 ^ 52 - 1 / 4) * 2 ^ x.scale ≤ number := by
  have enough : 2 ^ 54 - 1 ≤ (RoundingInterval.ofDouble x).low := by
    simp only [RoundingInterval.ofDouble]
    rw [if_pos ⟨least, more⟩, least]
    omega
  have low := low_ge x enough
  have ends : (((2 ^ 54 - 1 : ℕ) / 4 : ℚ)) * 2 ^ x.scale = (2 ^ 52 - 1 / 4) * 2 ^ x.scale := by
    norm_num
  rw [ends] at low
  rw [Takes, RoundingInterval.Takes] at takes
  split at takes
  · exact low.trans takes.1
  · exact low.trans takes.1.le

/-- Of two doubles of one scale the one with the lesser significand does not take what the other takes. -/
private theorem not_takes_of_lt (some : 0 < y.significand) (same : x.scale = y.scale)
    (less : x.significand < y.significand) (takes : x.Takes number) : ¬ y.Takes number := by
  intro too
  have step : (0 : ℚ) < 2 ^ y.scale := by positivity
  obtain ⟨high, under⟩ := takes.le
  obtain ⟨low, above⟩ := too.ge some
  rw [same] at high under
  have counted : (x.significand + 1 : ℚ) ≤ y.significand := by exact_mod_cast less
  rcases Nat.mod_two_eq_zero_or_one x.significand with even | odd
  · rcases Nat.mod_two_eq_zero_or_one y.significand with even' | odd
    · -- two even significands are two apart at least
      have further : (x.significand + 2 : ℚ) ≤ y.significand := by
        have : x.significand + 2 ≤ y.significand := by omega
        exact_mod_cast this
      nlinarith
    · have := above odd
      nlinarith
  · have := under odd
    nlinarith

/-- Of two doubles the one of the lesser scale does not take what the other takes. -/
private theorem not_takes_of_scale_lt (less : x.scale < y.scale) (takes : x.Takes number) :
    ¬ y.Takes number := by
  intro too
  have more := x.neg_1074_le_scale.trans_lt less
  have full := significand_ge more
  have step : (0 : ℚ) < 2 ^ y.scale := by positivity
  obtain ⟨high, under⟩ := takes.le
  have short : (x.significand + 1 : ℚ) ≤ 2 ^ 53 := by exact_mod_cast x.significand_lt
  have half : (2 : ℚ) ^ x.scale ≤ 2 ^ y.scale / 2 := by
    rw [le_div_iff₀ two_pos, ← zpow_add_one₀ two_ne_zero]
    exact zpow_le_zpow_right₀ one_le_two less
  -- the numbers that the first takes end a quarter of a step below the power of two
  have below : number < (2 ^ 52 - 1 / 4) * 2 ^ y.scale := by
    have small : (0 : ℚ) < 2 ^ x.scale := by positivity
    have bound : number < (2 ^ 53 - 1 / 2) * 2 ^ x.scale := by
      rcases Nat.mod_two_eq_zero_or_one x.significand with even | odd
      · have further : (x.significand + 2 : ℚ) ≤ 2 ^ 53 := by
          have : x.significand + 2 ≤ 2 ^ 53 := by
            have := x.significand_lt
            omega
          exact_mod_cast this
        nlinarith
      · have := under odd
        nlinarith
    calc number < (2 ^ 53 - 1 / 2) * 2 ^ x.scale := bound
      _ ≤ (2 ^ 53 - 1 / 2) * (2 ^ y.scale / 2) := by
          gcongr
      _ = (2 ^ 52 - 1 / 4) * 2 ^ y.scale := by ring
  rcases full.eq_or_lt with least | further
  · exact absurd below (not_lt.mpr (too.ge_of_least least.symm more))
  · have low := (too.ge (Nat.zero_lt_of_lt further)).1
    have counted : (2 ^ 52 + 1 : ℚ) ≤ y.significand := by exact_mod_cast further
    nlinarith

/-- No number rounds to the magnitudes of two positive doubles, unless these are the same. -/
theorem Takes.unique (takes : x.Takes number) (too : y.Takes number) (some : 0 < x.significand)
    (other : 0 < y.significand) : x.significand = y.significand ∧ x.scale = y.scale := by
  rcases lt_trichotomy x.scale y.scale with less | same | more
  · exact (not_takes_of_scale_lt less takes too).elim
  · rcases lt_trichotomy x.significand y.significand with fewer | equal | more
    · exact (not_takes_of_lt other same fewer takes too).elim
    · exact ⟨equal, same⟩
    · exact (not_takes_of_lt some same.symm more too takes).elim
  · exact (not_takes_of_scale_lt more too takes).elim

end Intervals

/-- The shortest decimal of a positive double rounds to it. -/
theorem takes_shortest {x : Double} (tie : Tie) (some : 0 < x.significand) :
    x.Takes (x.shortest tie).value := by
  obtain ⟨power, -, found, made⟩ := shortest_onGrid tie some
  obtain ⟨same, -, contained, -⟩ := of_decimalOnGrid? found
  rw [made, (Decimal.trim_spec _ _).1, Decimal.value, same]
  exact (RoundingInterval.contains_iff _ _ _).mp contained

/-- Two positive doubles that have one shortest decimal have the same parts. -/
theorem parts_of_shortest {x y : Double} {tie : Tie} (some : 0 < x.significand)
    (other : 0 < y.significand) (same : (x.shortest tie).value = (y.shortest tie).value) :
    x.significand = y.significand ∧ x.scale = y.scale :=
  (takes_shortest tie some).unique (same ▸ takes_shortest tie other) some other

end Double

end ForeignBridge

namespace ForeignBridge.Json

/-- What follows digits is told apart from them if it does not begin with one. -/
theorem digits_cancel {left right more rest : List Char} (first : ∀ c ∈ left, c.isDigit = true)
    (second : ∀ c ∈ right, c.isDigit = true) (stop : (more.headD (Char.ofNat 0)).isDigit = false)
    (halt : (rest.headD (Char.ofNat 0)).isDigit = false) (same : left ++ more = right ++ rest) :
    left = right ∧ more = rest := by
  have taken {digits tail : List Char} (each : ∀ c ∈ digits, c.isDigit = true)
      (stop : (tail.headD (Char.ofNat 0)).isDigit = false) :
      (digits ++ tail).takeWhile Char.isDigit = digits := by
    rw [List.takeWhile_append_of_pos each]
    cases tail with
    | nil => exact List.append_nil digits
    | cons c tail =>
      rw [List.headD_cons] at stop
      rw [List.takeWhile_cons_of_neg (by rw [stop]; exact Bool.false_ne_true), List.append_nil]
  have equal : left = right := by rw [← taken first stop, same, taken second halt]
  subst equal
  exact ⟨rfl, List.append_cancel_left same⟩

theorem ends_nil : Ends [] := List.mem_cons_self

theorem exponentText_inj {a b : Option ℤ} (same : Numeral.exponentText a = Numeral.exponentText b) :
    a = b := by
  cases a with
  | none =>
    cases b with
    | none => rfl
    | some power => cases same
  | some power =>
    cases b with
    | none => cases same
    | some other =>
      obtain ⟨-, sign, digits⟩ : _ ∧ _ ∧ _ := by
        simpa only [Numeral.exponentText, List.cons.injEq] using same
      have size : power.natAbs = other.natAbs := by
        rw [← Nat.ofDigitChars_ten_toDigits (n := power.natAbs), digits, Nat.ofDigitChars_ten_toDigits]
      have below : power < 0 ↔ other < 0 := by
        split at sign <;> split at sign <;> first | omega | exact absurd sign (by decide)
      exact congrArg some (by omega)

namespace Numeral

variable {n m : Numeral}

/-- A numeral that can be read is known by its characters. -/
theorem text_inj (readable : n.Readable) (too : m.Readable) (same : n.text = m.text) : n = m := by
  have stop (fraction : List Char) (exponent : Option ℤ) :
      ((fractionText fraction ++ exponentText exponent).headD (Char.ofNat 0)).isDigit = false := by
    have none := isDigit_fractionText ends_nil fraction exponent
    rwa [List.append_nil] at none
  have halt (exponent : Option ℤ) : ((exponentText exponent).headD (Char.ofNat 0)).isDigit = false := by
    have none := isDigit_exponentText ends_nil exponent
    rwa [List.append_nil] at none
  obtain ⟨whole, rest⟩ := digits_cancel readable.wholeDigits too.wholeDigits (stop _ _) (stop _ _) same
  have parts : n.fraction = m.fraction ∧ exponentText n.exponent = exponentText m.exponent := by
    cases left : n.fraction with
    | nil =>
      rw [left] at rest
      cases right : m.fraction with
      | nil =>
        rw [right] at rest
        exact ⟨rfl, rest⟩
      | cons first more =>
        -- the one goes on with an exponent or ends, the other goes on with a point
        rw [right] at rest
        cases exponent : n.exponent with
        | none =>
          rw [exponent] at rest
          cases rest
        | some power =>
          rw [exponent] at rest
          cases (List.cons.inj rest).1
    | cons first more =>
      rw [left] at rest
      cases right : m.fraction with
      | nil =>
        rw [right] at rest
        cases exponent : m.exponent with
        | none =>
          rw [exponent] at rest
          cases rest
        | some power =>
          rw [exponent] at rest
          cases (List.cons.inj rest).1
      | cons other others =>
        rw [right] at rest
        exact digits_cancel (left ▸ readable.fractionDigits) (right ▸ too.fractionDigits) (halt _) (halt _)
          (List.cons.inj rest).2
  cases n
  cases m
  obtain ⟨fraction, exponent⟩ := parts
  simp only at whole fraction exponent
  rw [whole, fraction, exponentText_inj exponent]

/-- The first character of a numeral is a digit. -/
theorem text_cons (readable : n.Readable) : ∃ first rest, n.text = first :: rest ∧ first.isDigit = true := by
  have digits := readable.wholeDigits
  obtain zero | ⟨first, rest, whole, -⟩ := readable.whole
  · exact ⟨'0', _, by rw [text, zero]; rfl, rfl⟩
  · exact ⟨first, _, by rw [text, whole]; rfl, digits first (by rw [whole]; exact List.mem_cons_self ..)⟩

/-- A sign is told apart from the numeral after it. -/
theorem signed_inj {negative other : Bool} (readable : n.Readable) (too : m.Readable)
    (same : (if negative then ['-'] else []) ++ n.text = (if other then ['-'] else []) ++ m.text) :
    negative = other ∧ n = m := by
  obtain ⟨first, rest, left, digit⟩ := text_cons readable
  obtain ⟨next, more, right, numeral⟩ := text_cons too
  cases negative <;> cases other
  · exact ⟨rfl, text_inj readable too same⟩
  · rw [left] at same
    obtain ⟨rfl, -⟩ := List.cons.inj same
    cases digit
  · rw [right] at same
    obtain ⟨rfl, -⟩ := List.cons.inj same
    cases numeral
  · exact ⟨rfl, text_inj readable too (List.cons.inj same).2⟩

end Numeral

/-- Finite doubles that are written in one way are one. Zero has a sign, too. -/
theorem write_float_inj {x y : Double} (finite : x.isFinite = true) (too : y.isFinite = true)
    (same : numberLayout.write x = numberLayout.write y) : x = y := by
  obtain ⟨n, readable, text, -, value⟩ := text_float finite
  obtain ⟨m, other, written, -, number⟩ := text_float too
  obtain ⟨sign, rfl⟩ := Numeral.signed_inj readable other (by rw [← text, ← written, same])
  have zero {z : Double} (finite : z.isFinite = true) : z.isZero = true ↔ z.significand = 0 := by
    rw [Double.isZero, finite, Bool.true_and, beq_iff_eq]
  have positive {z : Double} (some : 0 < z.significand) : 0 < (z.shortest .even).value := by
    have digits : 0 < (z.shortest .even).digits := (Double.shortest_spec .even some).1
    rw [Decimal.value]
    positivity
  rw [value] at number
  rcases Nat.eq_zero_or_pos x.significand with none | some
  · rcases Nat.eq_zero_or_pos y.significand with nothing | more
    · refine Double.ext_parts sign (none.trans nothing.symm) ?_
      rw [Double.scale_of_significand_eq_zero none, Double.scale_of_significand_eq_zero nothing]
    · rw [if_pos ((zero finite).mpr none), if_neg fun nothing => more.ne' ((zero too).mp nothing)] at number
      exact ((positive more).ne number).elim
  · rw [if_neg fun none => some.ne' ((zero finite).mp none)] at number
    rcases Nat.eq_zero_or_pos y.significand with nothing | more
    · rw [if_pos ((zero too).mpr nothing)] at number
      exact ((positive some).ne' number).elim
    · rw [if_neg fun nothing => more.ne' ((zero too).mp nothing)] at number
      obtain ⟨significand, scale⟩ := Double.parts_of_shortest some more number
      exact Double.ext_parts sign significand scale

/-- Integers that are written in one way are one. -/
theorem write_integer_inj {a b : ℤ} (wide : -2 ^ 63 ≤ a ∧ a < 2 ^ 64) (too : -2 ^ 63 ≤ b ∧ b < 2 ^ 64)
    (same : toString a = toString b) : a = b := by
  obtain ⟨n, readable, text, -, value⟩ := text_integer wide
  obtain ⟨m, other, written, -, number⟩ := text_integer too
  have signed (c : ℤ) : (if c < 0 then ['-'] else []) = if decide (c < 0) = true then ['-'] else [] := by
    simp only [decide_eq_true_eq]
  rw [signed] at text written
  obtain ⟨sign, rfl⟩ := Numeral.signed_inj readable other (by rw [← text, ← written, same])
  rw [value, Nat.cast_inj] at number
  have below := decide_eq_decide.mp sign
  omega

/-- No double is written as an integer is. -/
theorem write_float_ne_integer {x : Double} {a : ℤ} (finite : x.isFinite = true)
    (wide : -2 ^ 63 ≤ a ∧ a < 2 ^ 64) : numberLayout.write x ≠ toString a := by
  intro same
  obtain ⟨n, readable, text, float, -⟩ := text_float finite
  obtain ⟨m, other, written, plain, -⟩ := text_integer wide
  have signed : (if a < 0 then ['-'] else []) = if decide (a < 0) = true then ['-'] else [] := by
    simp only [decide_eq_true_eq]
  rw [signed] at written
  obtain ⟨-, rfl⟩ := Numeral.signed_inj readable other (by rw [← text, ← written, same])
  exact plain float

/-- A document without parts that is no text. -/
def IsScalar : Json → Prop
  | null | bool _ | integer _ | float _ => True
  | string _ | array _ | object _ => False

/-- That a text begins as a number does, with a sign or with a digit. -/
private def Begins (text : String) : Prop :=
  ∃ first rest, text.toList = first :: rest ∧ (first = '-' ∨ first.isDigit = true)

private theorem begins_of_sign {text : String} {negative : Prop} [Decidable negative] {n : Numeral}
    (readable : n.Readable) (same : text.toList = (if negative then ['-'] else []) ++ n.text) :
    Begins text := by
  split at same
  · exact ⟨'-', _, same, .inl rfl⟩
  · obtain ⟨first, rest, whole, digit⟩ := Numeral.text_cons readable
    exact ⟨first, rest, same.trans whole, .inr digit⟩

/-- A scalar that is no number. -/
private def IsWord (a : Json) : Prop := a = null ∨ ∃ b, a = bool b

/-- A scalar is a word, or it is a number. -/
private theorem word_or_number {a : Json} (scalar : a.IsScalar) :
    a.IsWord ∨ (∃ n, a = integer n) ∨ ∃ x, a = float x := by
  cases a with
  | null => exact .inl (.inl rfl)
  | bool b => exact .inl (.inr ⟨b, rfl⟩)
  | integer n => exact .inr (.inl ⟨n, rfl⟩)
  | float x => exact .inr (.inr ⟨x, rfl⟩)
  | string _ | array _ | object _ => exact scalar.elim

private theorem IsWord.write_inj {a b : Json} (word : a.IsWord) (other : b.IsWord)
    (same : a.write = b.write) : a = b := by
  obtain rfl | ⟨c, rfl⟩ := word <;> obtain rfl | ⟨d, rfl⟩ := other
  · rfl
  · cases d <;> exact absurd same (by decide)
  · cases c <;> exact absurd same (by decide)
  · cases c <;> cases d <;> first | rfl | exact absurd same (by decide)

/-- No word begins as a number does. -/
private theorem IsWord.not_begins {a : Json} (word : a.IsWord) : ¬ Begins a.write := by
  rintro ⟨first, rest, same, head⟩
  obtain rfl | ⟨b, rfl⟩ := word
  · obtain ⟨rfl, -⟩ := List.cons.inj same
    exact absurd head (by decide)
  · cases b <;> obtain ⟨rfl, -⟩ := List.cons.inj same <;> exact absurd head (by decide)

private theorem begins_integer {n : ℤ} (wellFormed : (integer n).WellFormed) : Begins (integer n).write := by
  obtain ⟨_, readable, text, -⟩ := text_integer wellFormed
  exact begins_of_sign readable text

private theorem begins_float {x : Double} (wellFormed : (float x).WellFormed) : Begins (float x).write := by
  obtain ⟨_, readable, text, -⟩ := text_float wellFormed
  exact begins_of_sign readable text

/-- Scalars are told apart by how they are written. -/
theorem write_inj {a b : Json} (scalar : a.IsScalar) (other : b.IsScalar) (wellFormed : a.WellFormed)
    (too : b.WellFormed) (same : a.write = b.write) : a = b := by
  obtain word | ⟨n, rfl⟩ | ⟨x, rfl⟩ := word_or_number scalar
  · obtain word' | ⟨m, rfl⟩ | ⟨y, rfl⟩ := word_or_number other
    · exact word.write_inj word' same
    · exact (word.not_begins (same ▸ begins_integer too)).elim
    · exact (word.not_begins (same ▸ begins_float too)).elim
  · obtain word | ⟨m, rfl⟩ | ⟨y, rfl⟩ := word_or_number other
    · exact (word.not_begins (same ▸ begins_integer wellFormed)).elim
    · exact congrArg integer (write_integer_inj wellFormed too same)
    · exact (write_float_ne_integer too wellFormed same.symm).elim
  · obtain word | ⟨m, rfl⟩ | ⟨y, rfl⟩ := word_or_number other
    · exact (word.not_begins (same ▸ begins_float wellFormed)).elim
    · exact (write_float_ne_integer wellFormed too same).elim
    · exact congrArg float (write_float_inj wellFormed too same)

end ForeignBridge.Json
