import Mathlib.Data.Nat.Cast.Order.Field
import ForeignBridge.Proofs.Number.Rounding

/-! # Arithmetic of doubles

The opposite of a double has the same bits but for its sign. Finite doubles are compared as the numbers
that they are, and equality is a partial equivalence in which only a NaN is not equal to itself. A sum is
rounded once.

The integer part of a finite double is a double, and what is left without it is rounded, but to zero
only if nothing is left: both are whole numbers of the least units there are. So a double without a
fraction is an integer, and one of 64 bits stays what it is when it is made one.
-/

namespace ForeignBridge.Double

/-! Signs. -/

section Sign

variable (x : Double)

theorem isNegative_neg : x.neg.isNegative = !x.isNegative :=
  isNegative_pack (Nat.mod_lt _ (twoTo_pos 63))

theorem exponentField_neg : x.neg.exponentField = x.exponentField := by
  rw [neg, exponentField_pack (Nat.mod_lt _ (twoTo_pos 63)), exponentField, twoTo_eq, twoTo_eq]
  omega

theorem fractionField_neg : x.neg.fractionField = x.fractionField := by
  rw [neg, fractionField_pack (Nat.mod_lt _ (twoTo_pos 63)), fractionField, twoTo_eq, twoTo_eq]
  omega

theorem significand_neg : x.neg.significand = x.significand := by
  rw [significand, significand, exponentField_neg, fractionField_neg]

theorem scale_neg : x.neg.scale = x.scale := by
  rw [scale, scale, exponentField_neg]

theorem quotient_neg : x.neg.quotient = x.quotient := by
  rw [quotient, quotient, significand_neg, scale_neg]

theorem value_neg : x.neg.value = -x.value := by
  have turn : sign (!x.isNegative) = -sign x.isNegative := by
    cases x.isNegative <;> norm_num [sign]
  rw [value_eq, value_eq, isNegative_neg, significand_neg, scale_neg, turn, neg_mul, neg_mul]

end Sign

theorem isFinite_neg {x : Double} (finite : x.isFinite = true) : x.neg.isFinite = true := by
  rw [isFinite, exponentField_neg]
  exact finite

/-! The order. -/

/-- Finite doubles are in the order of their values. -/
theorem compare?_of_isFinite {x y : Double} (left : x.isFinite = true) (right : y.isFinite = true) :
    x.compare? y = some (compare x.value y.value) := by
  obtain ⟨number, real⟩ := isFinite_eq_true_iff.mp left
  obtain ⟨otherNumber, otherReal⟩ := isFinite_eq_true_iff.mp right
  have cast : StrictMono ((↑) : ℤ → ℚ) := Int.cast_strictMono
  have units : compare (x.unitsAt (min x.scale y.scale)) (y.unitsAt (min x.scale y.scale)) =
      compare x.value y.value := by
    rw [← cmp_eq_compare, ← cmp_eq_compare, ← cast.cmp_map_eq, value_eq_unitsAt (min_le_left _ _),
      value_eq_unitsAt (min_le_right x.scale _), cmp_mul_pos_right (by positivity)]
  simp only [compare?, number, otherNumber, real, otherReal, Bool.or_self, Bool.false_eq_true,
    ↓reduceIte, units]

section Finite

variable {x y : Double} (left : x.isFinite = true) (right : y.isFinite = true)
include left right

theorem isBelow_iff : x.isBelow y = true ↔ x.value < y.value := by
  rw [isBelow, compare?_of_isFinite left right, beq_iff_eq, Option.some.injEq, compare_lt_iff_lt]

theorem equal_iff_of_isFinite : x.equal y = true ↔ x.value = y.value := by
  rw [equal, compare?_of_isFinite left right, beq_iff_eq, Option.some.injEq, compare_eq_iff_eq]

theorem isAtMost_iff : x.isAtMost y = true ↔ x.value ≤ y.value := by
  rw [isAtMost, Bool.or_eq_true, isBelow_iff left right, equal_iff_of_isFinite left right,
    le_iff_lt_or_eq]

end Finite

/-- Doubles are equal if they are one infinity, or both are finite and have one value. -/
theorem equal_iff {x y : Double} : x.equal y = true ↔
    x.isInfinite = true ∧ y.isInfinite = true ∧ x.isNegative = y.isNegative ∨
      x.isFinite = true ∧ y.isFinite = true ∧ x.value = y.value := by
  constructor
  · intro same
    obtain ⟨left, right⟩ := not_isNaN_of_equal same
    refine (equal_cases same).imp_right fun ⟨finite, both, _⟩ => ?_
    have finite := isFinite_eq_true_iff.mpr ⟨left, finite⟩
    have both := isFinite_eq_true_iff.mpr ⟨right, both⟩
    exact ⟨finite, both, (equal_iff_of_isFinite finite both).mp same⟩
  · rintro (⟨infinite, both, sign⟩ | ⟨finite, both, value⟩)
    · have number {z : Double} (infinite : z.isInfinite = true) : z.isNaN = false := by
        simp_all [isInfinite, isNaN]
      simp [equal, compare?, number infinite, number both, infinite, both, sign]
    · exact (equal_iff_of_isFinite finite both).mpr value

theorem not_isInfinite_of_isFinite {x : Double} (finite : x.isFinite = true) :
    x.isInfinite ≠ true :=
  Bool.eq_false_iff.mp (isFinite_eq_true_iff.mp finite).2

theorem equal_symm {x y : Double} (same : x.equal y = true) : y.equal x = true := by
  rw [equal_iff] at same ⊢
  exact same.imp (fun ⟨left, right, sign⟩ => ⟨right, left, sign.symm⟩)
    fun ⟨left, right, value⟩ => ⟨right, left, value.symm⟩

theorem equal_trans {x y z : Double} (first : x.equal y = true) (second : y.equal z = true) :
    x.equal z = true := by
  rw [equal_iff] at first second ⊢
  obtain ⟨left, middle, sign⟩ | ⟨left, middle, value⟩ := first
  · obtain ⟨-, right, other⟩ | ⟨finite, -⟩ := second
    · exact .inl ⟨left, right, sign.trans other⟩
    · exact absurd middle (not_isInfinite_of_isFinite finite)
  · obtain ⟨infinite, -⟩ | ⟨-, right, other⟩ := second
    · exact absurd infinite (not_isInfinite_of_isFinite middle)
    · exact .inr ⟨left, right, value.trans other⟩

/-- A double is equal to itself if it is a number. -/
theorem equal_self_iff {x : Double} : x.equal x = true ↔ x.isNaN = false := by
  refine ⟨fun same => (not_isNaN_of_equal same).1, fun number => equal_iff.mpr ?_⟩
  cases infinite : x.isInfinite with
  | true => exact .inl ⟨rfl, rfl, rfl⟩
  | false =>
    have finite := isFinite_eq_true_iff.mpr ⟨number, infinite⟩
    exact .inr ⟨finite, finite, rfl⟩

variable {x y : Double}

/-! Rounding what is nearly a double. -/

/-- What is rounded is not changed if it is the value of a double. -/
theorem Nearest.value_eq {number : ℚ} (near : x.Nearest number) (finite : y.isFinite = true)
    (same : y.value = number) : x.value = number := by
  have least := near.least y finite
  rw [same, sub_self, abs_zero] at least
  exact sub_eq_zero.mp (abs_nonpos_iff.mp least)

theorem value_least (negative : Bool) : (pack negative 1).value = sign negative * 2 ^ (-1074 : ℤ) := by
  have parts : (pack negative 1).isNegative = negative ∧ (pack negative 1).significand = 1 ∧
      (pack negative 1).scale = -1074 := by
    cases negative <;> decide
  rw [Double.value_eq, parts.1, parts.2.1, parts.2.2, Nat.cast_one, mul_one]

/-- A double is a whole number of the least units. -/
theorem exists_units (x : Double) : ∃ n : ℤ, x.value = n * 2 ^ (-1074 : ℤ) :=
  ⟨x.unitsAt (-1074), value_eq_unitsAt x.neg_1074_le_scale⟩

/-- A whole number of the least units is rounded to zero only if it is none of them. -/
theorem Nearest.value_ne_zero {n : ℤ} (near : x.Nearest (n * 2 ^ (-1074 : ℤ))) (some : n ≠ 0) :
    x.value ≠ 0 := by
  intro none
  have unit : (0 : ℚ) < 2 ^ (-1074 : ℤ) := by positivity
  have count (negative : Bool) : |(n : ℚ)| ≤ |sign negative - n| := by
    have least := near.least (pack negative 1) (by cases negative <;> rfl)
    rw [none, value_least, zero_sub, abs_neg, ← sub_mul, abs_mul, abs_mul, abs_of_pos unit] at least
    exact le_of_mul_le_mul_right least unit
  -- The least double on the side of the number is nearer to it than zero.
  rcases lt_or_gt_of_ne some with below | above
  · have below : (n : ℚ) ≤ -1 := by exact_mod_cast Int.le_sub_one_of_lt below
    have least := count true
    rw [sign, if_pos rfl, abs_of_neg (by linarith), abs_of_nonneg (by linarith)] at least
    linarith
  · have above : (1 : ℚ) ≤ n := by exact_mod_cast above
    have least := count false
    rw [sign, if_neg Bool.false_ne_true, abs_of_pos (by linarith), abs_of_nonpos (by linarith)] at least
    linarith

/-- The integers below `2 ^ 53` are doubles. -/
theorem ofQuotient_of_short (negative : Bool) {n : ℕ} (short : n < 2 ^ 53) :
    (ofQuotient negative n 1).isFinite = true ∧ (ofQuotient negative n 1).value = sign negative * n := by
  have finite : (ofQuotient negative n 1).isFinite = true := by
    refine isFinite_ofQuotient negative Nat.one_pos ?_
    rw [Nat.cast_one, div_one]
    exact_mod_cast short.trans_le (pow_le_pow_right₀ one_le_two (by decide))
  refine ⟨finite, ?_⟩
  rcases Nat.eq_zero_or_pos n with rfl | top
  · rw [ofQuotient_zero, value_zero, Nat.cast_zero, mul_zero]
  obtain ⟨units, unit, rounded⟩ := exists_rounded top Nat.one_pos negative
  have whole : (n / (1 : ℕ) : ℚ) = n := by rw [Nat.cast_one, div_one]
  have fine : unit ≤ 0 := by
    have bound : unit = -1074 ∨ 52 + unit < 53 := rounded.unit_lt (by rw [whole]; exact_mod_cast short)
    omega
  obtain ⟨k, level⟩ := Int.eq_ofNat_of_zero_le (neg_nonneg.mpr fine)
  have count : units = n * 2 ^ k := by
    refine rounded.units_eq ?_
    rw [whole, level, zpow_natCast]
    push_cast
    rfl
  rw [rounded.value_eq finite, count, ← neg_neg unit, level, zpow_neg, zpow_natCast]
  push_cast
  rw [mul_assoc (n : ℚ), mul_inv_cancel₀ (by positivity), mul_one]

/-! Sums. -/

/-- A sum that is not too large is rounded to the nearest double. -/
theorem nearest_add (left : x.isFinite = true) (right : y.isFinite = true)
    (small : |x.value + y.value| < 2 ^ 1023) : (x.add y).Nearest (x.value + y.value) := by
  obtain ⟨number, real⟩ := isFinite_eq_true_iff.mp left
  obtain ⟨otherNumber, otherReal⟩ := isFinite_eq_true_iff.mp right
  obtain ⟨power, isPower⟩ : ∃ power, power = min x.scale y.scale := ⟨_, rfl⟩
  obtain ⟨total, isTotal⟩ : ∃ total, total = x.unitsAt power + y.unitsAt power := ⟨_, rfl⟩
  have sum : x.add y = if total = 0 then zero (x.isNegative && y.isNegative)
      else ofScaled (decide (total < 0)) total.natAbs power := by
    simp only [add, number, otherNumber, real, otherReal, Bool.or_self, Bool.false_eq_true, ↓reduceIte,
      isTotal, isPower]
  have units : x.value + y.value = total * 2 ^ power := by
    rw [isTotal, Int.cast_add, add_mul, ← value_eq_unitsAt (isPower ▸ min_le_left _ _),
      ← value_eq_unitsAt (isPower ▸ min_le_right _ _)]
  rw [sum]
  split
  · rename_i none
    rw [units, none, Int.cast_zero, zero_mul, ← value_zero (x.isNegative && y.isNegative)]
    exact nearest_self (by cases x.isNegative && y.isNegative <;> rfl)
  · obtain ⟨num, den, bottom, ratio, made⟩ :=
      ofScaled_eq (decide (total < 0)) total.natAbs power
    have signed : x.value + y.value = sign (decide (total < 0)) * (num / den) := by
      rw [ratio, ← mul_assoc, sign_mul_natAbs, units]
    have positive : (0 : ℚ) ≤ num / den := div_nonneg (Nat.cast_nonneg _) (Nat.cast_nonneg _)
    rw [made, signed]
    refine nearest_ofQuotient _ _ bottom (isFinite_ofQuotient _ bottom ?_)
    rw [signed, abs_mul, abs_sign, one_mul, abs_of_nonneg positive] at small
    exact small

/-! Integer parts. -/

theorem truncate_eq (x : Double) : x.truncate = if x.isNegative then
    -((x.quotient.1 / x.quotient.2 : ℕ) : ℤ) else ((x.quotient.1 / x.quotient.2 : ℕ) : ℤ) := by
  unfold truncate ceil floor
  rw [quotient_neg, isNegative_neg]
  cases x.isNegative <;> simp

theorem truncate_of_toInt? {n : ℤ} (whole : x.toInt? = some n) : x.truncate = n := by
  unfold toInt? at whole
  split at whole
  · dsimp only at whole
    split at whole
    · rw [truncate_eq]
      exact Option.some.inj whole
    · cases whole
  · cases whole

theorem natAbs_truncate (x : Double) : x.truncate.natAbs = x.quotient.1 / x.quotient.2 := by
  rw [truncate_eq]
  split
  · rw [Int.natAbs_neg, Int.natAbs_natCast]
  · rw [Int.natAbs_natCast]

theorem cast_truncate (x : Double) :
    (x.truncate : ℚ) = sign x.isNegative * (x.quotient.1 / x.quotient.2 : ℕ) := by
  rw [truncate_eq]
  cases x.isNegative with
  | true => rw [if_pos rfl, sign, if_pos rfl, neg_one_mul, Int.cast_neg, Int.cast_natCast]
  | false => rw [if_neg Bool.false_ne_true, sign, if_neg Bool.false_ne_true, one_mul, Int.cast_natCast]

theorem abs_sub_truncate_lt (x : Double) : |x.value - x.truncate| < 1 := by
  have bottom : (0 : ℚ) < x.quotient.2 := by exact_mod_cast x.quotient_den_pos
  have low : ((x.quotient.1 / x.quotient.2 : ℕ) : ℚ) ≤ x.quotient.1 / x.quotient.2 := Nat.cast_div_le
  have high : (x.quotient.1 / x.quotient.2 : ℚ) < (x.quotient.1 / x.quotient.2 : ℕ) + 1 := by
    rw [div_lt_iff₀ bottom, mul_comm]
    exact_mod_cast Nat.lt_mul_div_succ x.quotient.1 x.quotient_den_pos
  rw [value_quotient, cast_truncate, ← mul_sub, abs_mul, abs_sign, one_mul,
    abs_of_nonneg (sub_nonneg.mpr low)]
  linarith

/-- The integer part of a finite double is a double: below scale zero it is short, and from there on it
is the double itself. -/
theorem trunc_spec (finite : x.isFinite = true) : x.trunc.isFinite = true ∧ x.trunc.value = x.truncate := by
  unfold trunc
  split
  · rename_i fraction
    have short : x.truncate.natAbs < 2 ^ 53 := by
      rw [natAbs_truncate, quotient, if_neg (by omega)]
      exact (Nat.div_le_self _ _).trans_lt x.significand_lt
    rw [cast_truncate, ← natAbs_truncate]
    exact ofQuotient_of_short _ short
  · rename_i whole
    refine ⟨finite, ?_⟩
    rw [value_quotient, cast_truncate, quotient, if_pos (by omega), Nat.div_one, Nat.cast_one, div_one]

/-- What is left of a finite double without its integer part is rounded once. -/
theorem nearest_fract (finite : x.isFinite = true) : x.fract.Nearest (x.value - x.truncate) := by
  obtain ⟨whole, same⟩ := trunc_spec finite
  have rest : x.value + x.trunc.neg.value = x.value - x.truncate := by
    rw [value_neg, same, sub_eq_add_neg]
  rw [← rest]
  refine nearest_add finite (isFinite_neg whole) ?_
  rw [rest]
  exact x.abs_sub_truncate_lt.trans_le (one_le_pow₀ one_le_two)

/-- A finite double has no fraction just when it is its integer part. -/
theorem fract_equal_zero_iff (finite : x.isFinite = true) :
    x.fract.equal (zero false) = true ↔ x.value = x.truncate := by
  have near := nearest_fract finite
  rw [equal_iff_of_isFinite near.finite rfl, value_zero, ← sub_eq_zero (b := (x.truncate : ℚ))]
  constructor
  · contrapose!
    intro rest
    obtain ⟨n, units⟩ := x.exists_units
    obtain ⟨m, wholes⟩ := x.trunc.exists_units
    have count : x.value - x.truncate = (n - m : ℤ) * 2 ^ (-1074 : ℤ) := by
      rw [← (trunc_spec finite).2, units, wholes, Int.cast_sub, sub_mul]
    rw [count] at near rest
    refine near.value_ne_zero fun none => rest ?_
    rw [none, Int.cast_zero, zero_mul]
  · intro none
    rw [none] at near
    exact near.value_eq rfl (value_zero false)

/-! Integers of 64 bits. -/

theorem int64Limit_spec : int64Limit.isFinite = true ∧ int64Limit.value = (0x8000000000000000 : ℤ) := by
  rw [int64Limit, ← ofInt_natCast, twoTo_eq]
  exact ofInt_limit

/-- A double passes for an integer of 64 bits just when it is its integer part and this is one. -/
theorem isInt64_iff : x.isInt64 = true ↔
    x.isFinite = true ∧ x.value = x.truncate ∧ FitsInt64 x.truncate := by
  obtain ⟨limited, limit⟩ := int64Limit_spec
  rw [isInt64, Bool.and_eq_true, Bool.and_eq_true, Bool.and_eq_true, and_assoc]
  refine and_congr_right fun finite => ?_
  rw [fract_equal_zero_iff finite]
  refine and_congr_right fun whole => ?_
  rw [isAtMost_iff (isFinite_neg limited) finite, isBelow_iff finite limited, value_neg, limit, whole]
  exact_mod_cast Iff.rfl

/-- An integer of 64 bits is neither cut nor moved when it is made one. -/
theorem toInt64_of_isInt64 (whole : x.isInt64 = true) : x.toInt64 = Int64.ofInt x.truncate := by
  obtain ⟨finite, -, low, high⟩ := isInt64_iff.mp whole
  obtain ⟨number, real⟩ := isFinite_eq_true_iff.mp finite
  simp only [toInt64, number, real, Bool.false_eq_true, ↓reduceIte, not_lt.mpr low, not_le.mpr high]

end ForeignBridge.Double
