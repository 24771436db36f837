import ForeignBridge.Number.Shortest
import ForeignBridge.Proofs.Number.Arithmetic

/-! # Shortest decimals

A finite double stays finite when it is divided by two or more, and when it is multiplied unless the
product is infinite. The powers of ten up to the 308th are finite.

The shortest decimal of a positive finite double rounds to the double: it lies in the interval of the
numbers that do. It has seventeen digits at most, because the grid of the multiples of the power of ten at
the seventeenth digit is finer than the interval is long.
-/

namespace ForeignBridge.Double

variable {x y : Double}

/-- The product of finite doubles is a number, though it may be infinite. -/
theorem isFinite_mul (left : x.isFinite = true) (right : y.isFinite = true)
    (bounded : (x.mul y).isInfinite = false) : (x.mul y).isFinite = true := by
  refine isFinite_eq_true_iff.mpr ⟨?_, bounded⟩
  obtain ⟨leftNumber, leftBounded⟩ := isFinite_eq_true_iff.mp left
  obtain ⟨rightNumber, rightBounded⟩ := isFinite_eq_true_iff.mp right
  obtain ⟨num, den, -, -, made⟩ := ofScaled_eq (x.isNegative != y.isNegative)
    (x.significand * y.significand) (x.scale + y.scale)
  simp only [mul, leftNumber, rightNumber, leftBounded, rightBounded, Bool.or_self,
    Bool.false_eq_true, ↓reduceIte, made]
  exact isNaN_ofQuotient ..

theorem scale_le (finite : x.isFinite = true) : x.scale ≤ 971 := by
  have field : x.exponentField < 2047 := by
    have bound : x.exponentField < 2048 := Nat.mod_lt _ (by decide)
    have other : x.exponentField ≠ 2047 := bne_iff_ne.mp finite
    omega
  unfold scale
  split <;> omega

theorem abs_value (x : Double) : |x.value| = x.significand * 2 ^ x.scale := by
  rw [value_eq, abs_mul, abs_mul, abs_sign, one_mul, Nat.abs_cast, abs_of_pos (by positivity)]

theorem abs_value_lt (finite : x.isFinite = true) : |x.value| < 2 ^ 1024 := by
  have short : (x.significand : ℚ) < 2 ^ 53 := by exact_mod_cast x.significand_lt
  calc |x.value| = x.significand * 2 ^ x.scale := x.abs_value
    _ < 2 ^ 53 * 2 ^ x.scale := by gcongr
    _ ≤ 2 ^ 53 * 2 ^ (971 : ℤ) := by
        gcongr
        · norm_num
        · exact scale_le finite
    _ = 2 ^ 1024 := by rw [zpow_ofNat, ← pow_add]

/-- What is divided by two or more stays finite. -/
theorem isFinite_div (left : x.isFinite = true) (right : y.isFinite = true) (large : 2 ≤ |y.value|) :
    (x.div y).isFinite = true := by
  obtain ⟨leftNumber, leftBounded⟩ := isFinite_eq_true_iff.mp left
  obtain ⟨rightNumber, rightBounded⟩ := isFinite_eq_true_iff.mp right
  have parts : y.significand ≠ 0 := by
    intro none
    rw [abs_value, none, Nat.cast_zero, zero_mul] at large
    norm_num at large
  have nonzero : y.isZero = false := by
    rw [isZero, beq_false_of_ne parts, Bool.and_false]
  simp only [div, leftNumber, rightNumber, leftBounded, rightBounded, nonzero, Bool.or_self,
    Bool.false_eq_true, ↓reduceIte]
  have positive := descale_den_pos x.significand (Nat.pos_of_ne_zero parts) (y.scale - x.scale)
  refine isFinite_ofQuotient _ positive ?_
  have ratio : ((descale x.significand y.significand (y.scale - x.scale)).1 : ℚ) /
      (descale x.significand y.significand (y.scale - x.scale)).2 = |x.value| / |y.value| := by
    rw [descale_ratio, abs_value, abs_value, neg_sub, zpow_sub₀ two_ne_zero, div_mul_div_comm]
  rw [ratio, div_lt_iff₀ (by linarith)]
  calc |x.value| < 2 ^ 1024 := abs_value_lt left
    _ = 2 ^ 1023 * 2 := pow_succ ..
    _ ≤ 2 ^ 1023 * |y.value| := by gcongr

/-! Powers of ten. -/

theorem ofDecimal_tenTo (n : ℕ) : ofDecimal 1 n = ofNat (tenTo n) := by
  rw [ofDecimal, if_pos (Int.natCast_nonneg n), Int.toNat_natCast, Nat.one_mul, ofNat]

theorem isFinite_tenTo {n : ℕ} (small : n ≤ 308) : (ofDecimal 1 n).isFinite = true := by
  -- The last of them is too near to the largest double for the general bound.
  rcases small.eq_or_lt with rfl | less
  · decide +kernel
  rw [ofDecimal_tenTo]
  refine isFinite_ofQuotient false Nat.one_pos ?_
  have below : tenTo n < 2 ^ 1023 := by
    calc tenTo n = 10 ^ n := rfl
      _ ≤ 10 ^ 307 := Nat.pow_le_pow_right (by decide) (Nat.le_of_lt_succ less)
      _ < 2 ^ 1023 := by decide +kernel
  rw [Nat.cast_one, div_one]
  exact_mod_cast below

/-- Every power of ten but the least is ten or more when it is rounded. -/
theorem two_le_tenTo {n : ℕ} (positive : 0 < n) (small : n ≤ 308) : 2 ≤ |(ofDecimal 1 n).value| := by
  have finite := isFinite_tenTo small
  rw [ofDecimal_tenTo] at finite ⊢
  obtain ⟨real, two⟩ := ofQuotient_of_short false (show 2 < 2 ^ 53 by decide)
  rw [sign, if_neg Bool.false_ne_true, one_mul, Nat.cast_ofNat] at two
  have power : 2 ≤ tenTo n := by
    calc 2 ≤ 10 ^ 1 := by decide
      _ ≤ 10 ^ n := Nat.pow_le_pow_right (by decide) positive
  have least := (nearest_ofNat finite).le_value real (by rw [two]; exact_mod_cast power)
  rw [two] at least
  exact least.trans (le_abs_self _)

end ForeignBridge.Double

namespace ForeignBridge

theorem tenTo_eq (power : ℕ) : tenTo power = 10 ^ power := rfl

theorem tenTo_pos (power : ℕ) : 0 < tenTo power := Nat.pow_pos (by decide)

theorem tenTo_toNat_cast {power : ℤ} (nonneg : 0 ≤ power) : (tenTo power.toNat : ℚ) = 10 ^ power := by
  rw [tenTo_eq, Nat.cast_pow, Nat.cast_ofNat, ← zpow_natCast, Int.toNat_of_nonneg nonneg]

theorem tenTo_lt_iff {m n : ℕ} : tenTo m < tenTo n ↔ m < n := Nat.pow_lt_pow_iff_right (by decide)

/-! Decimals. -/

namespace Decimal

/-- The number that a decimal is. -/
def value (d : Decimal) : ℚ := d.digits * 10 ^ d.power

theorem value_le_iff {d : Decimal} {power bound : ℕ} (whole : d.power = power) :
    d.value ≤ bound ↔ d.digits * tenTo power ≤ bound := by
  have cast : d.value = (d.digits * tenTo power : ℕ) := by
    rw [value, whole, zpow_natCast, tenTo_eq]
    push_cast
    rfl
  rw [cast, Nat.cast_le]

/-- To move zeros at the end into the power changes nothing but how the decimal is written. -/
theorem trim_spec (fuel : ℕ) (d : Decimal) : (trim fuel d).value = d.value ∧
    (trim fuel d).digits ≤ d.digits ∧ d.power ≤ (trim fuel d).power ∧
      (0 < d.digits → 0 < (trim fuel d).digits) := by
  induction fuel generalizing d with
  | zero => exact ⟨rfl, le_rfl, le_rfl, id⟩
  | succ fuel ih =>
    rw [trim]
    split
    · rename_i zero
      obtain ⟨same, fewer, higher, some⟩ := ih ⟨d.digits / 10, d.power + 1⟩
      have moved : (⟨d.digits / 10, d.power + 1⟩ : Decimal).value = d.value := by
        have tens : d.digits = d.digits / 10 * 10 := by omega
        rw [value, value, zpow_add_one₀ (by norm_num)]
        nth_rewrite 2 [tens]
        push_cast
        ring
      exact ⟨same.trans moved, fewer.trans (Nat.div_le_self ..), by simp only at higher; omega,
        fun _ => some (by simp only; omega)⟩
    · exact ⟨rfl, le_rfl, le_rfl, id⟩

end Decimal

/-! Intervals. -/

namespace RoundingInterval

variable (i : RoundingInterval)

theorem quotient_den (units : ℕ) : (i.quotient units).2 = (i.quotient 0).2 := by
  unfold quotient
  split <;> rfl

theorem quotient_den_pos (units : ℕ) : 0 < (i.quotient units).2 := by
  unfold quotient
  split
  · exact Nat.one_pos
  · exact twoTo_pos _

theorem quotient_ratio (units : ℕ) :
    ((i.quotient units).1 : ℚ) / (i.quotient units).2 = units * 2 ^ i.unit := by
  unfold quotient
  split
  · rename_i whole
    rw [Nat.cast_mul, twoTo_toNat_cast whole, Nat.cast_one, div_one]
  · rename_i fraction
    rw [twoTo_toNat_cast (by omega), zpow_neg, div_inv_eq_mul]

/-- A decimal is looked up in an interval by its value. -/
theorem contains_iff (digits : ℕ) (power : ℤ) : i.contains digits power = true ↔
    if i.closed then i.low * 2 ^ i.unit ≤ (digits * 10 ^ power : ℚ) ∧
        (digits * 10 ^ power : ℚ) ≤ i.high * 2 ^ i.unit
    else i.low * 2 ^ i.unit < (digits * 10 ^ power : ℚ) ∧
        (digits * 10 ^ power : ℚ) < i.high * 2 ^ i.unit := by
  obtain ⟨den, isDen⟩ : ∃ den, den = (i.quotient 0).2 := ⟨_, rfl⟩
  -- The decimal over the denominator of the interval, whether its power is a factor or a divisor.
  obtain ⟨scaled, factor, positive, same, counts⟩ : ∃ scaled factor : ℕ, 0 < factor ∧
      (if 0 ≤ power then (digits * tenTo power.toNat * den, 1)
        else (digits * den, tenTo (-power).toNat)) = (scaled, factor) ∧
      (scaled : ℚ) = digits * 10 ^ power * (den * factor) := by
    split
    · rename_i whole
      refine ⟨_, _, Nat.one_pos, rfl, ?_⟩
      rw [Nat.cast_mul, Nat.cast_mul, tenTo_toNat_cast whole, Nat.cast_one, mul_one]
    · rename_i fraction
      refine ⟨_, _, tenTo_pos _, rfl, ?_⟩
      rw [Nat.cast_mul, tenTo_toNat_cast (by omega), zpow_neg]
      field_simp
  have bottom : (0 : ℚ) < den * factor := by
    have := i.quotient_den_pos 0
    rw [← isDen] at this
    positivity
  have ends (units : ℕ) : (((i.quotient units).1 * factor : ℕ) : ℚ) =
      units * 2 ^ i.unit * (den * factor) := by
    have den_ne : (den : ℚ) ≠ 0 := by
      rintro zero
      rw [zero, zero_mul] at bottom
      exact lt_irrefl _ bottom
    have ratio := i.quotient_ratio units
    rw [quotient_den, ← isDen, div_eq_iff den_ne] at ratio
    rw [Nat.cast_mul, ratio]
    ring
  have le_low : (i.quotient i.low).1 * factor ≤ scaled ↔
      (i.low * 2 ^ i.unit : ℚ) ≤ digits * 10 ^ power := by
    rw [← Nat.cast_le (α := ℚ), ends, counts, mul_le_mul_iff_left₀ bottom]
  have le_high : scaled ≤ (i.quotient i.high).1 * factor ↔
      (digits * 10 ^ power : ℚ) ≤ i.high * 2 ^ i.unit := by
    rw [← Nat.cast_le (α := ℚ), ends, counts, mul_le_mul_iff_left₀ bottom]
  have lt_low : (i.quotient i.low).1 * factor < scaled ↔
      (i.low * 2 ^ i.unit : ℚ) < digits * 10 ^ power := by
    rw [← Nat.cast_lt (α := ℚ), ends, counts, mul_lt_mul_iff_left₀ bottom]
  have lt_high : scaled < (i.quotient i.high).1 * factor ↔
      (digits * 10 ^ power : ℚ) < i.high * 2 ^ i.unit := by
    rw [← Nat.cast_lt (α := ℚ), ends, counts, mul_lt_mul_iff_left₀ bottom]
  unfold contains
  simp only [quotient_den, ← isDen, same]
  cases i.closed with
  | true => simp only [↓reduceIte, decide_eq_true_eq, le_low, le_high]
  | false => simp only [Bool.false_eq_true, ↓reduceIte, decide_eq_true_eq, lt_low, lt_high]

end RoundingInterval

namespace Double

/-! The first digit. -/

/-- As many digits as a number has, so large it is. -/
theorem toDigits_bounds {n : ℕ} (positive : 0 < n) :
    10 ^ ((Nat.toDigits 10 n).length - 1) ≤ n ∧ n < 10 ^ (Nat.toDigits 10 n).length := by
  have some : 0 < (Nat.toDigits 10 n).length := Nat.length_toDigits_pos
  refine ⟨?_, (Nat.length_toDigits_le_iff (by decide) some).mp le_rfl⟩
  rcases Nat.eq_zero_or_pos ((Nat.toDigits 10 n).length - 1) with one | more
  · rw [one]
    exact positive
  · by_contra less
    have fewer := (Nat.length_toDigits_le_iff (by decide) more).mpr (not_le.mp less)
    omega

/-- The first digit of a quotient stands at its leading power of ten. -/
theorem leadingPower_spec {num den : ℕ} (top : 0 < num) (bottom : 0 < den) :
    (10 : ℚ) ^ leadingPower num den ≤ num / den ∧ (num / den : ℚ) < 10 ^ (leadingPower num den + 1) := by
  have numPos : (0 : ℚ) < num := by exact_mod_cast top
  have denPos : (0 : ℚ) < den := by exact_mod_cast bottom
  -- A quotient of at least one, with its digits before the point.
  have whole {a b : ℕ} (less : b ≤ a) (positive : 0 < b) :
      10 ^ ((Nat.toDigits 10 (a / b)).length - 1) * b ≤ a ∧
        a < 10 ^ (Nat.toDigits 10 (a / b)).length * b := by
    obtain ⟨low, high⟩ := toDigits_bounds (Nat.div_pos less positive)
    exact ⟨(Nat.mul_le_mul_right b low).trans (Nat.div_mul_le_self a b),
      (Nat.div_lt_iff_lt_mul positive).mp high⟩
  unfold leadingPower
  split
  · rename_i less
    obtain ⟨low, high⟩ := whole less bottom
    have some : 0 < (Nat.toDigits 10 (num / den)).length := Nat.length_toDigits_pos
    generalize (Nat.toDigits 10 (num / den)).length = count at *
    obtain ⟨count, rfl⟩ := Nat.exists_eq_succ_of_ne_zero some.ne'
    rw [Nat.succ_eq_add_one, Nat.add_sub_cancel] at low
    rw [Nat.succ_eq_add_one, Nat.cast_add, Nat.cast_one, add_sub_cancel_right, le_div_iff₀ denPos,
      div_lt_iff₀ denPos, ← Int.natCast_succ, zpow_natCast, zpow_natCast]
    exact ⟨by exact_mod_cast low, by exact_mod_cast high⟩
  · rename_i more
    obtain ⟨low, high⟩ := whole (not_le.mp more).le top
    have some : 0 < (Nat.toDigits 10 (den / num)).length := Nat.length_toDigits_pos
    simp only
    generalize (Nat.toDigits 10 (den / num)).length = count at *
    obtain ⟨count, rfl⟩ := Nat.exists_eq_succ_of_ne_zero some.ne'
    rw [Nat.succ_eq_add_one, Nat.add_sub_cancel] at *
    have tens (power : ℕ) : (10 : ℚ) ^ (-(power : ℤ)) ≤ num / den ↔ den ≤ num * 10 ^ power := by
      rw [zpow_neg, zpow_natCast, le_div_iff₀ denPos, inv_mul_le_iff₀ (by positivity), mul_comm]
      exact_mod_cast Iff.rfl
    have less {power : ℕ} : (num / den : ℚ) < 10 ^ (-(power : ℤ)) ↔ num * 10 ^ power < den := by
      rw [← not_le, tens, not_le]
    rw [tenTo_eq]
    split
    · rename_i exact
      have level : (1 : ℤ) - ((count + 1 : ℕ) : ℤ) = -(count : ℤ) := by omega
      rw [level]
      refine ⟨(tens count).mpr exact, ?_⟩
      have one : (num / den : ℚ) ≤ 10 ^ (-(count : ℤ)) := by
        rw [zpow_neg, zpow_natCast, div_le_iff₀ denPos, ← div_eq_inv_mul, le_div_iff₀ (by positivity)]
        rw [Nat.mul_comm] at low
        exact_mod_cast low
      exact one.trans_lt (zpow_lt_zpow_right₀ (by norm_num) (by omega))
    · rename_i small
      have level : -((count + 1 : ℕ) : ℤ) + 1 = -(count : ℤ) := by omega
      rw [level]
      rw [Nat.mul_comm] at high
      exact ⟨(tens _).mpr high.le, less.mpr (not_le.mp small)⟩

/-! Grids. -/

variable {x : Double} {tie : Tie} {power : ℤ} {d : Decimal}

theorem abs_value_quotient (x : Double) : (x.quotient.1 : ℚ) / x.quotient.2 = |x.value| := by
  rw [value_quotient, abs_mul, abs_sign, one_mul, abs_of_nonneg (by positivity)]

theorem quotient_num_pos (x : Double) (some : 0 < x.significand) : 0 < x.quotient.1 := by
  unfold quotient
  split
  · exact Nat.mul_pos some (twoTo_pos _)
  · exact some

/-- What a grid gives is one of the two decimals around the double. -/
theorem decimalOnGrid?_eq (tie : Tie) (x : Double) (power : ℤ) : ∃ (low : ℕ) (nearer : Bool),
    (low * 10 ^ power : ℚ) ≤ |x.value| ∧ |x.value| < ((low + 1 : ℕ) * 10 ^ power : ℚ) ∧
      let interval := RoundingInterval.ofDouble x
      x.decimalOnGrid? tie power =
        if (decide (0 < low) && interval.contains low power) &&
            (!interval.contains (low + 1) power || nearer) then some ⟨low, power⟩
        else if interval.contains (low + 1) power then some ⟨low + 1, power⟩
        else none := by
  obtain ⟨top, bottom, positive, same, ratio⟩ : ∃ top bottom : ℕ, 0 < bottom ∧
      (if 0 ≤ power then (x.quotient.1, x.quotient.2 * tenTo power.toNat)
        else (x.quotient.1 * tenTo (-power).toNat, x.quotient.2)) = (top, bottom) ∧
      (top / bottom : ℚ) = |x.value| / 10 ^ power := by
    rw [← abs_value_quotient]
    split
    · rename_i whole
      refine ⟨_, _, Nat.mul_pos x.quotient_den_pos (tenTo_pos _), rfl, ?_⟩
      rw [Nat.cast_mul, tenTo_toNat_cast whole, div_mul_eq_div_div]
    · rename_i fraction
      refine ⟨_, _, x.quotient_den_pos, rfl, ?_⟩
      rw [Nat.cast_mul, tenTo_toNat_cast (by omega), zpow_neg]
      field_simp
  have grid : (0 : ℚ) < 10 ^ power := by positivity
  have bottomPos : (0 : ℚ) < bottom := by exact_mod_cast positive
  refine ⟨top / bottom, 2 * (top % bottom) < bottom ||
    (2 * (top % bottom) = bottom && (tie == .even && top / bottom % 2 == 0)), ?_, ?_, ?_⟩
  · rw [← le_div_iff₀ grid, ← ratio, le_div_iff₀ bottomPos]
    exact_mod_cast Nat.div_mul_le_self top bottom
  · rw [← div_lt_iff₀ grid, ← ratio, div_lt_iff₀ bottomPos]
    exact_mod_cast Nat.lt_mul_of_div_lt (Nat.lt_succ_self _) positive
  · unfold decimalOnGrid?
    simp only [same]
    congr 1
    simp only [Bool.and_eq_true, Bool.or_eq_true, decide_eq_true_eq, or_assoc]

/-- A decimal from a grid is of the grid, and rounds to the double. -/
theorem of_decimalOnGrid? (found : x.decimalOnGrid? tie power = some d) : d.power = power ∧
    0 < d.digits ∧ (RoundingInterval.ofDouble x).contains d.digits power = true ∧
      ((d.digits - 1 : ℕ) * 10 ^ power : ℚ) ≤ |x.value| := by
  obtain ⟨low, nearer, below, -, same⟩ := decimalOnGrid?_eq tie x power
  have grid : (0 : ℚ) < 10 ^ power := by positivity
  rw [same] at found
  split at found
  · rename_i fits
    obtain rfl := Option.some.inj found
    simp only [Bool.and_eq_true, decide_eq_true_eq] at fits
    refine ⟨rfl, fits.1.1, fits.1.2, le_trans ?_ below⟩
    gcongr
    exact Nat.sub_le ..
  · split at found
    · rename_i fits
      obtain rfl := Option.some.inj found
      exact ⟨rfl, Nat.succ_pos low, fits, below⟩
    · cases found

/-! The interval of a double. -/

theorem high_ofDouble (x : Double) : ((RoundingInterval.ofDouble x).high : ℚ) *
    2 ^ (RoundingInterval.ofDouble x).unit = |x.value| + 2 ^ x.scale / 2 := by
  have quarter : (2 : ℚ) ^ (x.scale - 2) = 2 ^ x.scale / 4 := by
    rw [zpow_sub₀ two_ne_zero]
    norm_num
  simp only [RoundingInterval.ofDouble, quarter, abs_value]
  push_cast
  ring

/-- A quarter of the distance to the next double at least belongs to the interval on the lower side, and
a half unless the double has the least significand. -/
theorem low_ofDouble (some : 0 < x.significand) : ((RoundingInterval.ofDouble x).low : ℚ) *
      2 ^ (RoundingInterval.ofDouble x).unit ≤ |x.value| - 2 ^ x.scale / 4 ∧
    (x.significand ≠ 2 ^ 52 → ((RoundingInterval.ofDouble x).low : ℚ) *
      2 ^ (RoundingInterval.ofDouble x).unit = |x.value| - 2 ^ x.scale / 2) := by
  have quarter : (2 : ℚ) ^ (x.scale - 2) = 2 ^ x.scale / 4 := by
    rw [zpow_sub₀ two_ne_zero]
    norm_num
  have step : (0 : ℚ) < 2 ^ x.scale := by positivity
  simp only [RoundingInterval.ofDouble, quarter, abs_value]
  by_cases narrow : x.significand = twoTo 52 ∧ -1074 < x.scale
  · rw [if_pos narrow, Nat.cast_sub (by omega)]
    push_cast
    exact ⟨by linarith, fun other => absurd narrow.1 other⟩
  · rw [if_neg narrow, Nat.cast_sub (by omega)]
    push_cast
    exact ⟨by linarith, fun _ => by ring⟩

/-- What lies strictly inside the interval rounds to the double. -/
theorem contains_of_inside {digits : ℕ}
    (above : ((RoundingInterval.ofDouble x).low : ℚ) * 2 ^ (RoundingInterval.ofDouble x).unit <
      digits * 10 ^ power)
    (below : (digits * 10 ^ power : ℚ) < |x.value| + 2 ^ x.scale / 2) :
    (RoundingInterval.ofDouble x).contains digits power = true := by
  rw [← high_ofDouble] at below
  rw [RoundingInterval.contains_iff]
  split
  · exact ⟨above.le, below.le⟩
  · exact ⟨above, below⟩

/-- What rounds to the double is not above the upper end of its interval. -/
theorem le_of_contains {digits : ℕ}
    (contained : (RoundingInterval.ofDouble x).contains digits power = true) :
    (digits * 10 ^ power : ℚ) ≤ |x.value| + 2 ^ x.scale / 2 := by
  rw [RoundingInterval.contains_iff] at contained
  rw [← high_ofDouble]
  split at contained
  · exact contained.2
  · exact contained.2.le

/-- A grid whose step is no more than the double over `10 ^ 16` has a decimal for the double. -/
theorem isSome_decimalOnGrid? (tie : Tie) (some : 0 < x.significand) (fine : 10 ^ 16 * 10 ^ power ≤ |x.value|) :
    (x.decimalOnGrid? tie power).isSome = true := by
  obtain ⟨low, nearer, below, above, same⟩ := decimalOnGrid?_eq tie x power
  obtain ⟨quarter, half⟩ := low_ofDouble some
  have grid : (0 : ℚ) < 10 ^ power := by positivity
  have step : (0 : ℚ) < 2 ^ x.scale := by positivity
  have value := x.abs_value
  push_cast at above
  have positive : 0 < low := by
    rcases Nat.eq_zero_or_pos low with rfl | positive
    · rw [Nat.cast_zero] at above
      linarith
    · exact positive
  have short : (x.significand : ℚ) < 2 ^ 53 := by exact_mod_cast x.significand_lt
  have finer : (10 : ℚ) ^ power < 2 ^ x.scale := by
    have bound : |x.value| < 2 ^ 53 * 2 ^ x.scale := by
      rw [value]
      gcongr
    norm_num at fine bound
    linarith
  have lowEnd : ((RoundingInterval.ofDouble x).low : ℚ) * 2 ^ (RoundingInterval.ofDouble x).unit <
      |x.value| - 10 ^ power / 2 := by
    by_cases least : x.significand = 2 ^ 52
    · rw [value, least] at fine
      norm_num at fine
      linarith
    · rw [half least]
      linarith
  -- Of the two decimals around the double one is no further from it than half a step.
  have fits : (RoundingInterval.ofDouble x).contains low power = true ∨
      (RoundingInterval.ofDouble x).contains (low + 1) power = true := by
    by_cases near : |x.value| - low * 10 ^ power ≤ 10 ^ power / 2
    · exact .inl (contains_of_inside (by linarith) (by linarith))
    · refine .inr (contains_of_inside ?_ ?_) <;> push_cast <;> linarith
  rw [same]
  simp only [positive, decide_true, Bool.true_and]
  rcases fits with fits | fits
  · cases (RoundingInterval.ofDouble x).contains (low + 1) power <;> cases nearer <;> simp [fits]
  · simp only [fits, ↓reduceIte]
    split <;> rfl

/-- The grids are tried one after another down to one that has a decimal for the double. -/
theorem firstDecimal_spec {fuel : ℕ} {start : ℤ}
    (last : (x.decimalOnGrid? tie (start - fuel)).isSome = true) :
    ∃ power, start - fuel ≤ power ∧
      x.decimalOnGrid? tie power = some (firstDecimal tie x fuel start) := by
  induction fuel generalizing start with
  | zero =>
    obtain ⟨d, found⟩ := Option.isSome_iff_exists.mp last
    refine ⟨start - (0 : ℕ), le_rfl, ?_⟩
    have start_eq : start - ((0 : ℕ) : ℤ) = start := by omega
    rw [start_eq] at found ⊢
    rw [firstDecimal, found, Option.getD_some]
  | succ fuel ih =>
    rw [firstDecimal]
    cases found : x.decimalOnGrid? tie start with
    | some d => exact ⟨start, by omega, by rw [found, Option.getD_some]⟩
    | none =>
      have next : start - 1 - (fuel : ℤ) = start - ((fuel + 1 : ℕ) : ℤ) := by omega
      obtain ⟨power, low, same⟩ := ih (next.symm ▸ last)
      exact ⟨power, by omega, same⟩

/-- The first digit of a double does not stand lower than this. -/
theorem leadingPower_ge (some : 0 < x.significand) : -1075 ≤ leadingPower x.quotient.1 x.quotient.2 := by
  obtain ⟨-, bound⟩ := leadingPower_spec (x.quotient_num_pos some) x.quotient_den_pos
  rw [abs_value_quotient] at bound
  have one : (1 : ℚ) ≤ x.significand := by exact_mod_cast some
  have smaller (power : ℕ) : (10 : ℚ) ^ (-(power : ℤ)) ≤ 2 ^ (-(power : ℤ)) := by
    rw [zpow_neg, zpow_neg, zpow_natCast, zpow_natCast]
    gcongr
    norm_num
  have least : (10 : ℚ) ^ (-1074 : ℤ) ≤ |x.value| := by
    calc (10 : ℚ) ^ (-1074 : ℤ) ≤ 2 ^ (-1074 : ℤ) := smaller 1074
      _ ≤ 2 ^ x.scale := zpow_le_zpow_right₀ one_le_two x.neg_1074_le_scale
      _ ≤ x.significand * 2 ^ x.scale := le_mul_of_one_le_left (by positivity) one
      _ = |x.value| := x.abs_value.symm
  have := (zpow_lt_zpow_iff_right₀ (by norm_num : (1 : ℚ) < 10)).mp (least.trans_lt bound)
  omega

/-- The shortest decimal of a positive double is found on a grid, of which the finest has seventeen
digits. -/
theorem shortest_onGrid (tie : Tie) (some : 0 < x.significand) : ∃ power,
    leadingPower x.quotient.1 x.quotient.2 - 16 ≤ power ∧
      x.decimalOnGrid? tie power =
        .some (firstDecimal tie x 16 (leadingPower x.quotient.1 x.quotient.2)) ∧
      x.shortest tie =
        Decimal.trim 18 (firstDecimal tie x 16 (leadingPower x.quotient.1 x.quotient.2)) := by
  obtain ⟨start, isStart⟩ : ∃ start, start = leadingPower x.quotient.1 x.quotient.2 := ⟨_, rfl⟩
  obtain ⟨least, -⟩ := leadingPower_spec (x.quotient_num_pos some) x.quotient_den_pos
  rw [abs_value_quotient, ← isStart] at least
  have fine : 10 ^ 16 * 10 ^ (start - (16 : ℕ)) ≤ |x.value| := by
    have same : (10 : ℚ) ^ start = 10 ^ 16 * 10 ^ (start - (16 : ℕ)) := by
      rw [← zpow_natCast, ← zpow_add₀ (by norm_num)]
      congr 1
      omega
    exact same ▸ least
  obtain ⟨power, low, found⟩ := firstDecimal_spec (isSome_decimalOnGrid? tie some fine)
  rw [← isStart]
  exact ⟨power, low, found, by rw [shortest, isStart]⟩

/-- What is written of a positive finite double: seventeen digits at most, of a decimal that rounds to
it. -/
theorem shortest_spec (tie : Tie) (some : 0 < x.significand) : 0 < (x.shortest tie).digits ∧
    (x.shortest tie).digits ≤ 10 ^ 17 ∧ -1091 ≤ (x.shortest tie).power ∧
      (x.shortest tie).value ≤ |x.value| + 2 ^ x.scale / 2 := by
  obtain ⟨power, low, found, made⟩ := shortest_onGrid tie some
  obtain ⟨-, bound⟩ := leadingPower_spec (x.quotient_num_pos some) x.quotient_den_pos
  have lowest := leadingPower_ge some
  rw [abs_value_quotient] at bound
  generalize leadingPower x.quotient.1 x.quotient.2 = start at *
  obtain ⟨same, positive, contained, below⟩ := of_decimalOnGrid? found
  obtain ⟨value, fewer, higher, kept⟩ := Decimal.trim_spec 18 (firstDecimal tie x 16 start)
  rw [made, value]
  refine ⟨kept positive, fewer.trans ?_, by omega, ?_⟩
  · have grid : (0 : ℚ) < 10 ^ power := by positivity
    have less : (((firstDecimal tie x 16 start).digits - 1 : ℕ) : ℚ) * 10 ^ power <
        10 ^ 17 * 10 ^ power := by
      calc _ ≤ |x.value| := below
        _ < 10 ^ (start + 1) := bound
        _ = 10 ^ 17 * 10 ^ (start - (16 : ℕ)) := by
          rw [← zpow_natCast, ← zpow_add₀ (by norm_num)]
          congr 1
          push_cast
          omega
        _ ≤ 10 ^ 17 * 10 ^ power := by
          gcongr
          · norm_num
          · exact low
    have fits : (firstDecimal tie x 16 start).digits - 1 < 10 ^ 17 := by
      exact_mod_cast lt_of_mul_lt_mul_right less grid.le
    omega
  · rw [Decimal.value, same]
    exact le_of_contains contained

end Double

end ForeignBridge
