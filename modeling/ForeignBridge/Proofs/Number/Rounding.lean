import Mathlib.Algebra.Order.Field.Power
import Mathlib.Tactic.FieldSimp
import Mathlib.Tactic.Linarith
import Mathlib.Tactic.NormNum
import Mathlib.Tactic.Positivity
import Mathlib.Tactic.Push
import ForeignBridge.Proofs.Number.Hash

/-! # Rounding to doubles

A double that is made from a quotient is, unless it is too large, nearest to the quotient among all
doubles, and of two that are equally near it is the one with an even significand. The quotient is
counted in units in which it has a significand of 53 bits and is rounded to a whole number of them;
a double of finer units is smaller than the smallest such significand.
-/

namespace ForeignBridge

/-! Powers of two. -/

theorem twoTo_cast (power : ℕ) : (twoTo power : ℚ) = 2 ^ (power : ℤ) := by
  rw [twoTo_eq, Nat.cast_pow, Nat.cast_ofNat, zpow_natCast]

theorem twoTo_toNat_cast {power : ℤ} (nonneg : 0 ≤ power) : (twoTo power.toNat : ℚ) = 2 ^ power := by
  rw [twoTo_cast, Int.toNat_of_nonneg nonneg]

namespace Double

/-- The number that a finite double is. -/
def value (x : Double) : ℚ := x.signedSignificand * 2 ^ x.scale

/-- A double that is nearest to a number. Of two that are equally near it is the one with the even
significand. -/
structure Nearest (x : Double) (number : ℚ) : Prop where
  finite : x.isFinite = true
  least : ∀ y : Double, y.isFinite = true → |x.value - number| ≤ |y.value - number|
  even : ∀ y : Double, y.isFinite = true → |y.value - number| = |x.value - number| →
    y.value ≠ x.value → 2 ∣ x.significand

/-- A double is nearest to its own value. -/
theorem nearest_self {x : Double} (finite : x.isFinite = true) : x.Nearest x.value := by
  refine ⟨finite, fun y _ => ?_, fun y _ same apart => absurd ?_ apart⟩
  · rw [sub_self, abs_zero]
    exact abs_nonneg _
  · rw [sub_self, abs_zero, abs_eq_zero, sub_eq_zero] at same
    exact same

/-! The bits of a double. -/

section Bits

variable {negative : Bool} {magnitude : ℕ}

theorem bits_pack (small : magnitude < twoTo 63) :
    (pack negative magnitude).bits.toNat = (if negative then twoTo 63 else 0) + magnitude := by
  rw [pack, UInt64.toNat_ofNat', Nat.mod_eq_of_lt]
  rw [twoTo_eq] at *
  split <;> omega

theorem isNegative_pack (small : magnitude < twoTo 63) :
    (pack negative magnitude).isNegative = negative := by
  rw [isNegative, bits_pack small]
  cases negative with
  | true => exact decide_eq_true (Nat.le_add_right ..)
  | false => exact decide_eq_false (by rw [if_neg Bool.false_ne_true]; omega)

theorem exponentField_pack (small : magnitude < twoTo 63) :
    (pack negative magnitude).exponentField = magnitude / twoTo 52 := by
  rw [exponentField, bits_pack small]
  rw [twoTo_eq, twoTo_eq] at *
  split <;> omega

theorem fractionField_pack (small : magnitude < twoTo 63) :
    (pack negative magnitude).fractionField = magnitude % twoTo 52 := by
  rw [fractionField, bits_pack small]
  rw [twoTo_eq, twoTo_eq] at *
  split <;> omega

theorem isFinite_pack_iff (small : magnitude ≤ infinityBits) :
    (pack negative magnitude).isFinite = true ↔ magnitude < infinityBits := by
  have bound : infinityBits < twoTo 63 := by decide
  rw [isFinite, exponentField_pack (by omega), bne_iff_ne]
  rw [infinityBits, twoTo_eq] at *
  omega

theorem isNaN_pack (small : magnitude ≤ infinityBits) :
    (pack negative magnitude).isNaN = false := by
  have bound : infinityBits < twoTo 63 := by decide
  rw [isNaN, exponentField_pack (by omega), fractionField_pack (by omega)]
  by_cases top : magnitude = infinityBits
  · rw [top]
    rfl
  · rw [infinityBits, twoTo_eq] at *
    rw [beq_false_of_ne (by omega), Bool.false_and]

end Bits

theorem significand_lt (x : Double) : x.significand < 2 ^ 53 := by
  have fraction : x.fractionField < twoTo 52 := Nat.mod_lt _ (twoTo_pos 52)
  unfold significand
  rw [twoTo_eq] at *
  split <;> omega

theorem neg_1074_le_scale (x : Double) : -1074 ≤ x.scale := by
  unfold scale
  split <;> omega

/-- The sign as a factor. -/
def sign (negative : Bool) : ℚ := if negative then -1 else 1

theorem sign_mul_self (negative : Bool) : sign negative * sign negative = 1 := by
  cases negative <;> norm_num [sign]

theorem abs_sign (negative : Bool) : |sign negative| = 1 := by
  cases negative <;> norm_num [sign]

theorem sign_mul_natAbs (n : ℤ) : sign (decide (n < 0)) * (n.natAbs : ℚ) = n := by
  rw [Nat.cast_natAbs, Int.cast_abs]
  by_cases below : n < 0
  · rw [decide_eq_true below, abs_of_neg (by exact_mod_cast below), sign, if_pos rfl, neg_mul_neg,
      one_mul]
  · rw [decide_eq_false below, abs_of_nonneg (by exact_mod_cast not_lt.mp below), sign,
      if_neg Bool.false_ne_true, one_mul]

theorem value_eq (x : Double) : x.value = sign x.isNegative * x.significand * 2 ^ x.scale := by
  unfold value signedSignificand sign
  cases x.isNegative with
  | true => rw [if_pos rfl, if_pos rfl, Int.cast_neg, Int.cast_natCast, neg_one_mul]
  | false => rw [if_neg Bool.false_ne_true, if_neg Bool.false_ne_true, Int.cast_natCast, one_mul]

/-- The units of a double count its value. -/
theorem value_eq_unitsAt {x : Double} {power : ℤ} (below : power ≤ x.scale) :
    x.value = x.unitsAt power * 2 ^ power := by
  rw [unitsAt, value, Int.cast_mul, Int.cast_natCast, twoTo_toNat_cast (sub_nonneg.mpr below), mul_assoc,
    ← zpow_add₀ two_ne_zero, sub_add_cancel]

/-- The lower bits hold a significand at a scale, if the significand has its full length or the scale
is the least. A significand that is one bit too long is halved. -/
theorem parts_pack {negative : Bool} {significand : ℕ} {scale : ℤ}
    (short : significand ≤ 2 ^ 53) (least : -1074 ≤ scale)
    (full : scale = -1074 ∨ 2 ^ 52 ≤ significand)
    (finite : magnitudeBits significand scale < infinityBits) :
    ((pack negative (magnitudeBits significand scale)).significand = significand ∧
        (pack negative (magnitudeBits significand scale)).scale = scale) ∨
      (significand = 2 ^ 53 ∧
        (pack negative (magnitudeBits significand scale)).significand = 2 ^ 52 ∧
        (pack negative (magnitudeBits significand scale)).scale = scale + 1) := by
  have small : magnitudeBits significand scale < twoTo 63 := finite.trans (by decide)
  rw [Double.significand, Double.scale, exponentField_pack small, fractionField_pack small]
  by_cases sub : significand < twoTo 52
  · left
    have same : magnitudeBits significand scale = significand := if_pos sub
    rw [same, Nat.div_eq_of_lt sub, Nat.mod_eq_of_lt sub, if_pos rfl, if_pos rfl]
    rw [twoTo_eq] at sub
    omega
  · have same : magnitudeBits significand scale =
        (scale + 1074).toNat * twoTo 52 + significand := by
      rw [magnitudeBits, if_neg sub] at finite ⊢
      exact min_eq_right (by omega)
    rw [same]
    rw [twoTo_eq] at sub ⊢
    by_cases carry : significand = 2 ^ 53
    · right
      have exponent : ((scale + 1074).toNat * 2 ^ 52 + significand) / 2 ^ 52 =
          (scale + 1076).toNat := by omega
      have fraction : ((scale + 1074).toNat * 2 ^ 52 + significand) % 2 ^ 52 = 0 := by omega
      rw [exponent, fraction, if_neg (by omega), if_neg (by omega)]
      omega
    · left
      have exponent : ((scale + 1074).toNat * 2 ^ 52 + significand) / 2 ^ 52 =
          (scale + 1075).toNat := by omega
      rw [exponent, if_neg (by omega), if_neg (by omega)]
      omega

/-! The integer nearest to a quotient. -/

/-- A quotient is rounded by a half at most, and if by a half, to an even number. -/
theorem roundQuotient_near (num : ℕ) {den : ℕ} (positive : 0 < den) :
    |(roundQuotient num den : ℚ) - num / den| ≤ 1 / 2 ∧
      (|(roundQuotient num den : ℚ) - num / den| = 1 / 2 → 2 ∣ roundQuotient num den) := by
  have bottom : (0 : ℚ) < den := by exact_mod_cast positive
  obtain ⟨part, isPart⟩ : ∃ part : ℚ, part = (num % den : ℕ) / den := ⟨_, rfl⟩
  have split : (num : ℚ) / den = (num / den : ℕ) + part := by
    have whole : (num : ℚ) = den * (num / den : ℕ) + (num % den : ℕ) := by
      exact_mod_cast (Nat.div_add_mod num den).symm
    rw [isPart]
    nth_rewrite 1 [whole]
    field_simp
  have nonneg : 0 ≤ part := isPart ▸ by positivity
  have below : part < 1 := by
    rw [isPart, div_lt_one bottom]
    exact_mod_cast Nat.mod_lt num positive
  simp only [roundQuotient, split]
  split
  · rename_i small
    have half : part < 1 / 2 := by
      rw [isPart, div_lt_div_iff₀ bottom two_pos, one_mul, mul_comm]
      exact_mod_cast small
    rw [sub_add_cancel_left, abs_neg, abs_of_nonneg nonneg]
    exact ⟨half.le, fun same => absurd same half.ne⟩
  · split
    · rename_i large
      have half : 1 / 2 < part := by
        rw [isPart, div_lt_div_iff₀ two_pos bottom, one_mul, mul_comm]
        exact_mod_cast large
      have up : ((num / den + 1 : ℕ) : ℚ) - ((num / den : ℕ) + part) = 1 - part := by
        push_cast
        ring
      rw [up, abs_of_pos (by linarith)]
      exact ⟨by linarith, fun same => by linarith⟩
    · have half : part = 1 / 2 := by
        rw [isPart, div_eq_div_iff bottom.ne' two_ne_zero, one_mul, mul_comm]
        exact_mod_cast (by omega : 2 * (num % den) = den)
      refine ⟨?_, fun _ => by omega⟩
      rcases Nat.mod_two_eq_zero_or_one (num / den) with even | odd
      · rw [even, add_zero, half]
        norm_num
      · rw [odd, half]
        push_cast
        rw [add_sub_add_left_eq_sub]
        norm_num

/-- No integer is nearer to a quotient than its rounding, and another is as near only if the rounding is
even. -/
theorem roundQuotient_least (num : ℕ) {den : ℕ} (positive : 0 < den) (k : ℤ) :
    |(roundQuotient num den : ℚ) - num / den| ≤ |(k : ℚ) - num / den| ∧
      (|(k : ℚ) - num / den| = |(roundQuotient num den : ℚ) - num / den| →
        k ≠ roundQuotient num den → 2 ∣ roundQuotient num den) := by
  obtain ⟨near, even⟩ := roundQuotient_near num positive
  by_cases same : k = roundQuotient num den
  · rw [same, Int.cast_natCast]
    exact ⟨le_rfl, fun _ apart => absurd rfl apart⟩
  have far : 1 ≤ |(k : ℚ) - roundQuotient num den| := by
    exact_mod_cast Int.one_le_abs (sub_ne_zero.mpr same)
  have round : |(k : ℚ) - roundQuotient num den| ≤
      |(k : ℚ) - num / den| + |(roundQuotient num den : ℚ) - num / den| := by
    rw [abs_sub_comm (roundQuotient num den : ℚ)]
    exact abs_sub_le ..
  exact ⟨by linarith, fun tie _ => even (by linarith)⟩

/-! The unit in which a quotient is counted. -/

theorem descale_den_pos (num : ℕ) {den : ℕ} (positive : 0 < den) (power : ℤ) :
    0 < (descale num den power).2 := by
  unfold descale
  split
  · exact Nat.mul_pos positive (twoTo_pos _)
  · exact positive

theorem descale_ratio (num den : ℕ) (power : ℤ) :
    ((descale num den power).1 : ℚ) / (descale num den power).2 = num / den * 2 ^ (-power) := by
  unfold descale
  split
  · rename_i nonneg
    rw [Nat.cast_mul, twoTo_toNat_cast nonneg, zpow_neg, div_mul_eq_div_div, div_eq_mul_inv (_ / _)]
  · rename_i negative
    rw [Nat.cast_mul, twoTo_toNat_cast (by omega)]
    exact mul_div_right_comm ..

/-- The length of a number in bits bounds it on both sides. -/
private theorem log2_bounds {n : ℕ} (positive : 0 < n) :
    (2 : ℚ) ^ (n.log2 : ℤ) ≤ n ∧ (n : ℚ) < 2 ^ ((n.log2 : ℤ) + 1) := by
  rw [← Int.natCast_succ, zpow_natCast, zpow_natCast]
  exact ⟨by exact_mod_cast Nat.log2_self_le positive.ne', by exact_mod_cast Nat.lt_log2_self⟩

/-- Counted in its unit, a quotient has at most 53 bits, and no fewer unless the unit is the least. -/
theorem quotientScale_spec {num den : ℕ} (top : 0 < num) (bottom : 0 < den) :
    -1074 ≤ quotientScale num den ∧
      (num / den * 2 ^ (-quotientScale num den) : ℚ) < 2 ^ 53 ∧
      (quotientScale num den = -1074 ∨
        (2 ^ 52 : ℚ) ≤ num / den * 2 ^ (-quotientScale num den)) := by
  obtain ⟨guess, isGuess⟩ : ∃ guess : ℤ, guess = num.log2 - den.log2 - 53 := ⟨_, rfl⟩
  obtain ⟨ratio, isRatio⟩ : ∃ ratio : ℚ, ratio = num / den * 2 ^ (-guess) := ⟨_, rfl⟩
  have denPos : (0 : ℚ) < den := by exact_mod_cast bottom
  obtain ⟨numLow, numHigh⟩ := log2_bounds top
  obtain ⟨denLow, denHigh⟩ := log2_bounds bottom
  have low : 2 ^ 52 ≤ ratio := by
    calc (2 : ℚ) ^ 52 = 2 ^ (num.log2 : ℤ) / 2 ^ ((den.log2 : ℤ) + 1) * 2 ^ (-guess) := by
          rw [← zpow_sub₀ two_ne_zero, ← zpow_add₀ two_ne_zero, ← zpow_natCast]
          congr 1
          omega
      _ ≤ ratio := by
          rw [isRatio]
          gcongr
  have high : ratio < 2 ^ 54 := by
    calc ratio < 2 ^ ((num.log2 : ℤ) + 1) / 2 ^ (den.log2 : ℤ) * 2 ^ (-guess) := by
          rw [isRatio]
          gcongr
      _ = 2 ^ 54 := by
          rw [← zpow_sub₀ two_ne_zero, ← zpow_add₀ two_ne_zero, ← zpow_natCast]
          congr 1
          omega
  -- One bit too many moves the unit up, and so halves the count.
  have adjusted : ∃ scale, quotientScale num den = max (-1074) scale ∧
      (num / den * 2 ^ (-scale) : ℚ) < 2 ^ 53 ∧ (2 ^ 52 : ℚ) ≤ num / den * 2 ^ (-scale) := by
    have test : twoTo 53 ≤ (descale num den guess).1 / (descale num den guess).2 ↔
        2 ^ 53 ≤ ratio := by
      have positive := descale_den_pos num bottom guess
      rw [isRatio, ← descale_ratio, Nat.le_div_iff_mul_le positive,
        le_div_iff₀ (by exact_mod_cast positive), twoTo_eq]
      exact_mod_cast Iff.rfl
    have halved : (num / den * 2 ^ (-(guess + 1)) : ℚ) = ratio / 2 := by
      rw [isRatio, neg_add, zpow_add₀ two_ne_zero, zpow_neg_one]
      ring
    have same : quotientScale num den = max (-1074) (if 2 ^ 53 ≤ ratio then guess + 1 else guess) := by
      simp only [quotientScale, ← isGuess, test]
    rw [same]
    by_cases long : 2 ^ 53 ≤ ratio
    · refine ⟨guess + 1, by rw [if_pos long], ?_, ?_⟩ <;> rw [halved] <;> linarith
    · exact ⟨guess, by rw [if_neg long], isRatio ▸ not_le.mp long, isRatio ▸ low⟩
  obtain ⟨scale, same, short, full⟩ := adjusted
  rw [same]
  refine ⟨le_max_left .., ?_, ?_⟩
  · refine lt_of_le_of_lt ?_ short
    have : max (-1074) scale ≥ scale := le_max_right ..
    gcongr
    norm_num
  · rcases max_choice (-1074) scale with least | own
    · exact .inl least
    · refine .inr ?_
      rw [own]
      exact full

/-! Rounding. -/

theorem magnitudeBits_le (significand : ℕ) (scale : ℤ) :
    magnitudeBits significand scale ≤ infinityBits := by
  unfold magnitudeBits
  split
  · rename_i small
    exact small.le.trans (by decide)
  · exact min_le_left ..

/-- Rounding never gives what is no number. -/
theorem isNaN_ofQuotient (negative : Bool) (num den : ℕ) :
    (ofQuotient negative num den).isNaN = false := by
  unfold ofQuotient
  split
  · exact isNaN_pack (Nat.zero_le _)
  · exact isNaN_pack (magnitudeBits_le ..)

theorem ofScaled_eq (negative : Bool) (significand : ℕ) (power : ℤ) : ∃ num den : ℕ, 0 < den ∧
    (num / den : ℚ) = significand * 2 ^ power ∧
      ofScaled negative significand power = ofQuotient negative num den := by
  unfold ofScaled
  split
  · rename_i whole
    refine ⟨_, _, Nat.one_pos, ?_, rfl⟩
    rw [Nat.cast_mul, twoTo_toNat_cast whole, Nat.cast_one, div_one]
  · rename_i fraction
    refine ⟨_, _, twoTo_pos _, ?_, rfl⟩
    rw [twoTo_toNat_cast (by omega), zpow_neg, div_inv_eq_mul]

theorem ofQuotient_zero (negative : Bool) (den : ℕ) : ofQuotient negative 0 den = zero negative :=
  if_pos rfl

theorem value_zero (negative : Bool) : (zero negative).value = 0 := by
  have none : (zero negative).significand = 0 := by cases negative <;> rfl
  rw [value_eq, none, Nat.cast_zero, mul_zero, zero_mul]

/-- How a quotient is rounded: it is counted in units of a power of two, and the count is rounded. -/
structure Rounded (negative : Bool) (num den : ℕ) (units : ℕ) (unit : ℤ) : Prop where
  least : -1074 ≤ unit
  short : units ≤ 2 ^ 53
  full : unit = -1074 ∨ (2 ^ 52 ≤ units ∧ (2 ^ 52 : ℚ) ≤ num / den * 2 ^ (-unit))
  near : |(units : ℚ) - num / den * 2 ^ (-unit)| ≤ 1 / 2
  nearest : ∀ k : ℤ, |(units : ℚ) - num / den * 2 ^ (-unit)| ≤ |(k : ℚ) - num / den * 2 ^ (-unit)| ∧
    (|(k : ℚ) - num / den * 2 ^ (-unit)| = |(units : ℚ) - num / den * 2 ^ (-unit)| →
      k ≠ units → 2 ∣ units)
  same : ofQuotient negative num den = pack negative (magnitudeBits units unit)

theorem exists_rounded {num den : ℕ} (top : 0 < num) (bottom : 0 < den) (negative : Bool) :
    ∃ units unit, Rounded negative num den units unit := by
  obtain ⟨least, short, full⟩ := quotientScale_spec top bottom
  generalize scale : quotientScale num den = unit at *
  have positive := descale_den_pos num bottom unit
  have near := (roundQuotient_near (descale num den unit).1 positive).1
  have nearest := roundQuotient_least (descale num den unit).1 positive
  have same : ofQuotient negative num den = pack negative (magnitudeBits
      (roundQuotient (descale num den unit).1 (descale num den unit).2) unit) := by
    simp only [ofQuotient, top.ne', ↓reduceIte, scale]
  generalize roundQuotient (descale num den unit).1 (descale num den unit).2 = units at *
  rw [descale_ratio] at *
  have below : (units : ℚ) < (2 ^ 53 + 1 : ℕ) := by
    push_cast
    linarith [(abs_le.mp near).2]
  refine ⟨units, unit, least, Nat.lt_succ_iff.mp (by exact_mod_cast below), ?_, near, nearest, same⟩
  refine full.imp_right fun full => ⟨?_, full⟩
  have above : ((2 ^ 52 : ℕ) : ℚ) < (units + 1 : ℕ) := by
    push_cast
    linarith [(abs_le.mp near).1]
  exact Nat.lt_succ_iff.mp (by exact_mod_cast above)

namespace Rounded

variable {negative : Bool} {num den units : ℕ} {unit : ℤ}

theorem isFinite_iff (rounded : Rounded negative num den units unit) :
    (ofQuotient negative num den).isFinite = true ↔ magnitudeBits units unit < infinityBits := by
  rw [rounded.same]
  exact isFinite_pack_iff (magnitudeBits_le ..)

theorem parts (rounded : Rounded negative num den units unit)
    (finite : (ofQuotient negative num den).isFinite = true) :
    ((ofQuotient negative num den).significand = units ∧
        (ofQuotient negative num den).scale = unit) ∨
      (units = 2 ^ 53 ∧ (ofQuotient negative num den).significand = 2 ^ 52 ∧
        (ofQuotient negative num den).scale = unit + 1) := by
  rw [rounded.same]
  exact parts_pack rounded.short rounded.least (rounded.full.imp_right And.left)
    (rounded.isFinite_iff.mp finite)

/-- The value of a rounded quotient is a whole number of units. -/
theorem value_eq (rounded : Rounded negative num den units unit)
    (finite : (ofQuotient negative num den).isFinite = true) :
    (ofQuotient negative num den).value = sign negative * (units * 2 ^ unit) := by
  have bits : (ofQuotient negative num den).isNegative = negative := by
    rw [rounded.same]
    exact isNegative_pack ((rounded.isFinite_iff.mp finite).trans (by decide))
  rw [Double.value_eq, bits]
  obtain ⟨significand, scale⟩ | ⟨carry, significand, scale⟩ := rounded.parts finite
  · rw [significand, scale, mul_assoc]
  · rw [significand, scale, carry, zpow_add_one₀ two_ne_zero]
    push_cast
    ring

/-- The unit is small for a small quotient. -/
theorem unit_lt (rounded : Rounded negative num den units unit) {bound : ℤ}
    (small : (num / den : ℚ) < 2 ^ bound) : unit = -1074 ∨ 52 + unit < bound := by
  refine rounded.full.imp_right fun ⟨_, full⟩ => ?_
  have less : (2 : ℚ) ^ (52 + unit) < 2 ^ bound := by
    calc (2 : ℚ) ^ (52 + unit) = 2 ^ 52 * 2 ^ unit := by
          rw [zpow_add₀ two_ne_zero]
          norm_num
      _ ≤ num / den * 2 ^ (-unit) * 2 ^ unit := by gcongr
      _ = num / den := by
          rw [mul_assoc, ← zpow_add₀ two_ne_zero, neg_add_cancel, zpow_zero, mul_one]
      _ < 2 ^ bound := small
  exact (zpow_lt_zpow_iff_right₀ one_lt_two).mp less

/-- A whole number of units is not rounded. -/
theorem units_eq (rounded : Rounded negative num den units unit) {count : ℕ}
    (whole : (num / den * 2 ^ (-unit) : ℚ) = count) : units = count := by
  have near := rounded.near
  rw [whole] at near
  by_contra apart
  have far : (1 : ℤ) ≤ |(units : ℤ) - count| := Int.one_le_abs (sub_ne_zero.mpr (by exact_mod_cast apart))
  have far : (1 : ℚ) ≤ |(units : ℚ) - count| := by exact_mod_cast far
  linarith

/-- A multiple of the unit is no nearer to the quotient than the rounded one, and nothing below the
quotient's 53 bits is as near. -/
theorem near_of (rounded : Rounded negative num den units unit) {z : ℚ}
    (grid : (∃ k : ℤ, z = k * 2 ^ unit) ∨ (-1074 < unit ∧ z < 2 ^ 52 * 2 ^ unit)) :
    |(units * 2 ^ unit : ℚ) - num / den| ≤ |z - num / den| ∧
      (|z - num / den| = |(units * 2 ^ unit : ℚ) - num / den| → z ≠ units * 2 ^ unit →
        2 ∣ units) := by
  have positive : (0 : ℚ) < 2 ^ unit := by positivity
  have count (a : ℚ) : |a * 2 ^ unit - num / den| = |a - num / den * 2 ^ (-unit)| * 2 ^ unit := by
    rw [← abs_of_pos positive, ← abs_mul, abs_of_pos positive, sub_mul, mul_assoc (_ / _),
      ← zpow_add₀ two_ne_zero, neg_add_cancel, zpow_zero, mul_one]
  rcases grid with ⟨k, rfl⟩ | ⟨notLeast, below⟩
  · obtain ⟨least, tie⟩ := rounded.nearest k
    rw [count, count]
    refine ⟨mul_le_mul_of_nonneg_right least positive.le, fun same apart => ?_⟩
    refine tie (mul_right_cancel₀ positive.ne' same) ?_
    rintro rfl
    exact apart (by rw [Int.cast_natCast])
  · have full := (rounded.full.resolve_left notLeast.ne').2
    have room : (2 ^ 52 * 2 ^ unit : ℚ) ≤ num / den := by
      calc (2 ^ 52 * 2 ^ unit : ℚ) ≤ num / den * 2 ^ (-unit) * 2 ^ unit := by gcongr
        _ = num / den := by
          rw [mul_assoc, ← zpow_add₀ two_ne_zero, neg_add_cancel, zpow_zero, mul_one]
    have least := (rounded.nearest (2 ^ 52)).1
    have reach : |(units * 2 ^ unit : ℚ) - num / den| ≤ num / den - 2 ^ 52 * 2 ^ unit := by
      rw [← abs_of_nonneg (sub_nonneg.mpr room), abs_sub_comm (num / den : ℚ), count, count]
      exact mul_le_mul_of_nonneg_right (by exact_mod_cast least) positive.le
    have far : num / den - 2 ^ 52 * 2 ^ unit < |z - num / den| := by
      rw [abs_sub_comm]
      exact lt_of_lt_of_le (by linarith) (le_abs_self _)
    exact ⟨(reach.trans_lt far).le, fun same _ => absurd same (reach.trans_lt far).ne'⟩

end Rounded

/-- A double counts a whole number of units of a scale not above its own, and below its own it is
small. -/
private theorem grid_cases (negative : Bool) (x : Double) (unit : ℤ) :
    (∃ k : ℤ, sign negative * x.value = k * 2 ^ unit) ∨
      (-1074 < unit ∧ sign negative * x.value < 2 ^ 52 * 2 ^ unit) := by
  by_cases coarse : unit ≤ x.scale
  · left
    rw [value_eq_unitsAt coarse]
    cases negative with
    | true =>
      refine ⟨-x.unitsAt unit, ?_⟩
      rw [sign, if_pos rfl, Int.cast_neg, neg_one_mul, neg_mul]
    | false =>
      refine ⟨x.unitsAt unit, ?_⟩
      rw [sign, if_neg Bool.false_ne_true, one_mul]
  · right
    refine ⟨x.neg_1074_le_scale.trans_lt (not_le.mp coarse), ?_⟩
    have bound : ((x.significand : ℕ) : ℚ) < 2 ^ 53 := by exact_mod_cast x.significand_lt
    calc sign negative * x.value ≤ |sign negative * x.value| := le_abs_self _
      _ = x.significand * 2 ^ x.scale := by
          rw [value_eq, abs_mul, abs_mul, abs_mul, abs_sign, abs_sign, one_mul, one_mul,
            Nat.abs_cast, abs_of_pos (by positivity)]
      _ < 2 ^ 53 * 2 ^ x.scale := by gcongr
      _ = 2 ^ 52 * 2 ^ (x.scale + 1) := by
          rw [zpow_add_one₀ two_ne_zero]
          ring
      _ ≤ 2 ^ 52 * 2 ^ unit := by
          gcongr
          · norm_num
          · omega

/-- A double that is made from a quotient is nearest to it, unless it is too large. -/
theorem nearest_ofQuotient (negative : Bool) (num : ℕ) {den : ℕ} (bottom : 0 < den)
    (finite : (ofQuotient negative num den).isFinite = true) :
    (ofQuotient negative num den).Nearest (sign negative * (num / den)) := by
  rcases Nat.eq_zero_or_pos num with rfl | top
  · have zero : (ofQuotient negative 0 den).value = sign negative * ((0 : ℕ) / den) := by
      rw [Nat.cast_zero, zero_div, mul_zero, ofQuotient_zero, value_zero]
    exact zero ▸ nearest_self finite
  obtain ⟨units, unit, rounded⟩ := exists_rounded top bottom negative
  have value := rounded.value_eq finite
  have turn (z : ℚ) : |z - sign negative * (num / den)| = |sign negative * z - num / den| := by
    rw [← one_mul |z - _|, ← abs_sign negative, ← abs_mul, mul_sub, ← mul_assoc (sign negative),
      sign_mul_self, one_mul]
  have back : sign negative * (sign negative * (units * 2 ^ unit : ℚ)) = units * 2 ^ unit := by
    rw [← mul_assoc, sign_mul_self, one_mul]
  refine ⟨finite, fun y _ => ?_, fun y _ same apart => ?_⟩
  · rw [turn, turn, value, back]
    exact (rounded.near_of (grid_cases negative y unit)).1
  · rw [turn, turn, value, back] at same
    have apart : sign negative * y.value ≠ units * 2 ^ unit := by
      intro one
      refine apart ?_
      rw [value, ← one, ← mul_assoc, sign_mul_self, one_mul]
    have even := (rounded.near_of (grid_cases negative y unit)).2 same apart
    obtain ⟨significand, -⟩ | ⟨-, significand, -⟩ := rounded.parts finite
    · rw [significand]
      exact even
    · rw [significand]
      decide

/-- A quotient well below the largest double does not become infinite. -/
theorem isFinite_ofQuotient (negative : Bool) {num den : ℕ} (bottom : 0 < den)
    (small : (num / den : ℚ) < 2 ^ 1023) : (ofQuotient negative num den).isFinite = true := by
  rcases Nat.eq_zero_or_pos num with rfl | top
  · rw [ofQuotient_zero]
    cases negative <;> rfl
  obtain ⟨units, unit, rounded⟩ := exists_rounded top bottom negative
  refine rounded.isFinite_iff.mpr ?_
  have bound : unit = -1074 ∨ 52 + unit < 1023 := rounded.unit_lt small
  have short := rounded.short
  unfold magnitudeBits
  split
  · rename_i sub
    exact sub.trans (by decide)
  · rw [infinityBits, twoTo_eq]
    have : (unit + 1074).toNat ≤ 2044 := by omega
    omega

/-! Integers. -/

theorem value_quotient (x : Double) :
    x.value = sign x.isNegative * (x.quotient.1 / x.quotient.2) := by
  rw [value_eq, mul_assoc]
  unfold quotient
  split
  · rename_i whole
    rw [Nat.cast_mul, twoTo_toNat_cast whole, Nat.cast_one, div_one]
  · rename_i fraction
    rw [twoTo_toNat_cast (by omega), zpow_neg, div_inv_eq_mul]

/-- The integer of a double is its value. -/
theorem toInt?_eq_some_iff {x : Double} {n : ℤ} :
    x.toInt? = some n ↔ x.isFinite = true ∧ x.value = n := by
  have whole (finite : x.isFinite = true) : x.toInt? = some n ↔ x.value = n := by
    obtain ⟨number, real⟩ := isFinite_eq_true_iff.mp finite
    have bottom : (x.quotient.2 : ℚ) ≠ 0 := by exact_mod_cast x.quotient_den_pos.ne'
    have signed : sign x.isNegative * (x.quotient.1 / x.quotient.2 : ℚ) =
        ((if x.isNegative then -(x.quotient.1 : ℤ) else x.quotient.1 : ℤ) : ℚ) / x.quotient.2 := by
      cases x.isNegative with
      | true => simp only [sign, ↓reduceIte, Int.cast_neg, Int.cast_natCast, neg_one_mul, neg_div]
      | false => simp only [sign, Bool.false_eq_true, ↓reduceIte, Int.cast_natCast, one_mul]
    rw [← compareInt?_eq_iff_toInt?, compareInt?_eq_iff number real, value_quotient, signed,
      div_eq_iff bottom, eq_comm]
    exact_mod_cast Iff.rfl
  constructor
  · intro same
    have finite : x.isFinite = true := by
      by_contra special
      rw [toInt?, if_neg special] at same
      cases same
    exact ⟨finite, (whole finite).mp same⟩
  · rintro ⟨finite, same⟩
    exact (whole finite).mpr same

/-- An integer is rounded to the nearest double, unless it is too large. -/
theorem nearest_ofInt_of_isFinite {n : ℤ} (finite : (ofInt n).isFinite = true) :
    (ofInt n).Nearest n := by
  have near := nearest_ofQuotient (decide (n < 0)) n.natAbs Nat.one_pos finite
  rw [Nat.cast_one, div_one, sign_mul_natAbs] at near
  exact near

theorem nearest_ofInt {n : ℤ} (small : n.natAbs < 2 ^ 1023) : (ofInt n).Nearest n :=
  nearest_ofInt_of_isFinite
    (isFinite_ofQuotient _ Nat.one_pos (by rw [Nat.cast_one, div_one]; exact_mod_cast small))

theorem ofInt_natCast (n : ℕ) : ofInt n = ofNat n := by
  rw [ofInt, decide_eq_false (by omega), Int.natAbs_natCast, ofNat]

theorem nearest_ofNat {n : ℕ} (finite : (ofNat n).isFinite = true) : (ofNat n).Nearest n := by
  rw [← ofInt_natCast] at finite ⊢
  exact_mod_cast nearest_ofInt_of_isFinite finite

/-- The integers of 64 bits, with a sign or without, are rounded to the nearest double. -/
theorem nearest_ofInt_of_wide {n : ℤ} (wide : -2 ^ 63 ≤ n ∧ n < 2 ^ 64) : (ofInt n).Nearest n := by
  have short : n.natAbs < 2 ^ 64 := by omega
  exact nearest_ofInt (short.trans_le (pow_le_pow_right₀ one_le_two (by decide)))

/-- Rounding does not pass a double. -/
theorem Nearest.le_value {x y : Double} {number : ℚ} (near : x.Nearest number)
    (finite : y.isFinite = true) (below : y.value ≤ number) : y.value ≤ x.value := by
  by_contra less
  have least := near.least y finite
  rw [abs_of_nonpos (by linarith), abs_of_nonpos (by linarith)] at least
  linarith

/-- The least integer above those of 64 bits with a sign is a double. -/
theorem ofInt_limit : (ofInt (2 ^ 63)).isFinite = true ∧ (ofInt (2 ^ 63)).value = (2 ^ 63 : ℤ) :=
  toInt?_eq_some_iff.mp (by decide +kernel)

/-- An integer above those of 64 bits with a sign stays above them when it is rounded. -/
theorem le_value_ofInt_large {n : ℤ} (large : 2 ^ 63 ≤ n) (small : n < 2 ^ 64) :
    ((2 ^ 63 : ℤ) : ℚ) ≤ (ofInt n).value := by
  obtain ⟨finite, power⟩ := ofInt_limit
  rw [← power]
  exact (nearest_ofInt_of_wide ⟨by omega, small⟩).le_value finite (by rw [power]; exact_mod_cast large)

theorem toInt?_ofInt_large {n m : ℤ} (large : 2 ^ 63 ≤ n) (small : n < 2 ^ 64)
    (whole : (ofInt n).toInt? = some m) : 2 ^ 63 ≤ m := by
  have least := le_value_ofInt_large large small
  rw [(toInt?_eq_some_iff.mp whole).2] at least
  exact_mod_cast least

end Double

end ForeignBridge
