import ForeignBridge.Proofs.Number.Shortest

/-! # The largest double

What is less than half a step above the largest double is rounded to a double. The shortest decimal of a
double is not above the largest one, and a decimal of seventeen digits that is not above it stays finite
when its digits are rounded first and then multiplied by a rounded power of ten.
-/

namespace ForeignBridge.Double

variable {x y : Double}

/-- The largest double. -/
@[irreducible]
def largest : ℕ := (2 ^ 53 - 1) * twoTo 971

/-- From here on numbers are rounded to infinity. -/
@[irreducible]
def overflow : ℕ := (2 ^ 54 - 1) * twoTo 970

theorem overflow_eq : (overflow : ℚ) = (2 ^ 53 - 1 / 2) * 2 ^ (971 : ℤ) := by
  have double : (2 : ℚ) ^ (971 : ℤ) = 2 * 2 ^ (970 : ℤ) := by
    rw [← zpow_one_add₀ two_ne_zero]
    rfl
  have step : ((twoTo 970 : ℕ) : ℚ) = 2 ^ (970 : ℤ) := twoTo_cast 970
  unfold overflow
  rw [Nat.cast_mul, step, double]
  generalize (2 : ℚ) ^ (970 : ℤ) = step
  push_cast
  ring

theorem isFinite_of_lt_overflow (negative : Bool) {num den : ℕ} (bottom : 0 < den)
    (small : (num / den : ℚ) < overflow) : (ofQuotient negative num den).isFinite = true := by
  rcases Nat.eq_zero_or_pos num with rfl | top
  · rw [ofQuotient_zero]
    cases negative <;> rfl
  obtain ⟨units, unit, rounded⟩ := exists_rounded top bottom negative
  have counted : (num / den : ℚ) * 2 ^ (-unit) * 2 ^ unit = num / den := by
    rw [mul_assoc, ← zpow_add₀ two_ne_zero, neg_add_cancel, zpow_zero, mul_one]
  have bound : unit ≤ 971 := by
    have room : (overflow : ℚ) ≤ 2 ^ (1024 : ℤ) := by
      calc (overflow : ℚ) ≤ 2 ^ (53 : ℤ) * 2 ^ (971 : ℤ) := by
            rw [overflow_eq]
            gcongr
            norm_num
        _ = 2 ^ (1024 : ℤ) := by rw [← zpow_add₀ two_ne_zero]; rfl
    have := rounded.unit_lt (small.trans_le room)
    omega
  have short := rounded.short
  have last : unit = 971 → units < 2 ^ 53 := by
    rintro rfl
    have count : (num / den * 2 ^ (-971 : ℤ) : ℚ) < 2 ^ 53 - 1 / 2 := by
      rw [← counted, overflow_eq] at small
      exact lt_of_mul_lt_mul_right small (by positivity)
    have near := (abs_le.mp rounded.near).2
    have below : (units : ℚ) < (2 ^ 53 : ℕ) := by
      push_cast
      linarith
    exact_mod_cast below
  refine rounded.isFinite_iff.mpr ?_
  unfold magnitudeBits
  split
  · rename_i sub
    exact sub.trans (by decide)
  · rw [infinityBits, twoTo_eq]
    refine min_lt_of_right_lt ?_
    rcases bound.lt_or_eq with less | rfl
    · have : (unit + 1074).toNat ≤ 2044 := by omega
      omega
    · have := last rfl
      omega

/-- What is at least half a step above the largest double becomes infinite. -/
theorem lt_overflow_of_isFinite {negative : Bool} {num den : ℕ} (bottom : 0 < den)
    (finite : (ofQuotient negative num den).isFinite = true) : (num / den : ℚ) < overflow := by
  have large : (0 : ℚ) < overflow := by
    rw [overflow_eq]
    positivity
  rcases Nat.eq_zero_or_pos num with rfl | top
  · rwa [Nat.cast_zero, zero_div]
  obtain ⟨units, unit, rounded⟩ := exists_rounded top bottom negative
  have counted : (num / den : ℚ) * 2 ^ (-unit) * 2 ^ unit = num / den := by
    rw [mul_assoc, ← zpow_add₀ two_ne_zero, neg_add_cancel, zpow_zero, mul_one]
  have near := (abs_le.mp rounded.near).1
  have short : (units : ℚ) ≤ 2 ^ 53 := by exact_mod_cast rounded.short
  have field := rounded.isFinite_iff.mp finite
  have bound : unit ≤ 970 ∨ unit = 971 ∧ units ≤ 2 ^ 53 - 1 := by
    rcases rounded.full with least | ⟨full, -⟩
    · omega
    rw [magnitudeBits, twoTo_eq, if_neg (by omega), infinityBits, twoTo_eq] at field
    omega
  rcases bound with small | ⟨rfl, last⟩
  · calc (num / den : ℚ) = num / den * 2 ^ (-unit) * 2 ^ unit := counted.symm
      _ ≤ (2 ^ 53 + 1 / 2) * 2 ^ unit := by
          gcongr
          linarith
      _ ≤ (2 ^ 53 + 1 / 2) * 2 ^ (970 : ℤ) := by
          gcongr
          norm_num
      _ < (2 ^ 53 - 1 / 2) * (2 * 2 ^ (970 : ℤ)) := by
          have positive : (0 : ℚ) < 2 ^ (970 : ℤ) := by positivity
          generalize (2 : ℚ) ^ (970 : ℤ) = step at positive
          linarith
      _ = overflow := by rw [overflow_eq, ← zpow_one_add₀ two_ne_zero]; rfl
  · have below : (num / den * 2 ^ (-971 : ℤ) : ℚ) < 2 ^ 53 - 1 / 2 := by
      have top : (units : ℚ) ≤ 2 ^ 53 - 1 := by
        have whole : units + 1 ≤ 2 ^ 53 := by omega
        have cast : (units : ℚ) + 1 ≤ 2 ^ 53 := by exact_mod_cast whole
        linarith
      refine lt_of_le_of_ne (by linarith) fun half => ?_
      -- Halfway to the next power of two the significand would be odd, and yet the tie goes to it.
      have odd : units = 2 ^ 53 - 1 := by
        have least : (2 ^ 53 : ℚ) ≤ units + 1 := by linarith
        have whole : 2 ^ 53 ≤ units + 1 := by exact_mod_cast least
        omega
      have tie := (rounded.nearest (2 ^ 53)).2
      rw [half, odd] at tie
      norm_num at tie
    calc (num / den : ℚ) = num / den * 2 ^ (-971 : ℤ) * 2 ^ (971 : ℤ) := counted.symm
      _ < (2 ^ 53 - 1 / 2) * 2 ^ (971 : ℤ) := by gcongr
      _ = overflow := overflow_eq.symm

theorem isFinite_ofQuotient_iff {negative : Bool} {num den : ℕ} (bottom : 0 < den) :
    (ofQuotient negative num den).isFinite = true ↔ (num / den : ℚ) < overflow :=
  ⟨lt_overflow_of_isFinite bottom, isFinite_of_lt_overflow negative bottom⟩

/-- A product that is small enough is finite. -/
theorem isFinite_mul_of_lt (left : x.isFinite = true) (right : y.isFinite = true)
    (small : |x.value| * |y.value| < overflow) : (x.mul y).isFinite = true := by
  obtain ⟨leftNumber, leftBounded⟩ := isFinite_eq_true_iff.mp left
  obtain ⟨rightNumber, rightBounded⟩ := isFinite_eq_true_iff.mp right
  have product : |x.value| * |y.value| =
      ((x.significand * y.significand : ℕ) : ℚ) * 2 ^ (x.scale + y.scale) := by
    rw [abs_value, abs_value, zpow_add₀ two_ne_zero]
    push_cast
    ring
  obtain ⟨num, den, bottom, ratio, made⟩ := ofScaled_eq (x.isNegative != y.isNegative)
    (x.significand * y.significand) (x.scale + y.scale)
  rw [product, ← ratio] at small
  simp only [mul, leftNumber, rightNumber, leftBounded, rightBounded, Bool.or_self,
    Bool.false_eq_true, ↓reduceIte, made]
  exact isFinite_of_lt_overflow _ bottom small

/-- Rounding keeps the order. -/
theorem Nearest.mono {a b : ℚ} (left : x.Nearest a) (right : y.Nearest b) (less : a < b) :
    x.value ≤ y.value := by
  by_contra more
  rw [not_le] at more
  have first := left.least y right.finite
  have second := right.least x left.finite
  rw [← sq_le_sq] at first second
  nlinarith

/-! Digits times a power of ten. -/

theorem isFinite_ofNat_iff {n : ℕ} : (ofNat n).isFinite = true ↔ n < overflow := by
  rw [ofNat, isFinite_ofQuotient_iff Nat.one_pos, Nat.cast_one, div_one, Nat.cast_lt]

theorem ofNat_mono {m n : ℕ} (le : m ≤ n) (finite : (ofNat n).isFinite = true) :
    (ofNat m).value ≤ (ofNat n).value := by
  rcases le.eq_or_lt with rfl | less
  · exact le_rfl
  · have smaller := isFinite_ofNat_iff.mpr (less.trans (isFinite_ofNat_iff.mp finite))
    exact (nearest_ofNat smaller).mono (nearest_ofNat finite) (by exact_mod_cast less)

theorem ofNat_value_nonneg {n : ℕ} (finite : (ofNat n).isFinite = true) : 0 ≤ (ofNat n).value := by
  have zero : (ofNat 0).value = 0 := value_zero false
  exact zero ▸ ofNat_mono (Nat.zero_le n) finite

theorem tenTo_mono {m n : ℕ} (le : m ≤ n) (small : n ≤ 308) :
    (ofDecimal 1 m).value ≤ (ofDecimal 1 n).value := by
  have finite := isFinite_tenTo small
  rw [ofDecimal_tenTo] at finite
  rw [ofDecimal_tenTo, ofDecimal_tenTo]
  exact ofNat_mono (Nat.pow_le_pow_right (by decide) le) finite

theorem tenTo_value_nonneg {power : ℕ} (small : power ≤ 308) : 0 ≤ (ofDecimal 1 power).value := by
  have finite := isFinite_tenTo small
  rw [ofDecimal_tenTo] at finite ⊢
  exact ofNat_value_nonneg finite

/-- A product is compared by numerators and denominators. -/
theorem mul_lt_of_quotients {bound : ℕ} (less : x.quotient.1 * y.quotient.1 <
    bound * (x.quotient.2 * y.quotient.2)) : |x.value| * |y.value| < bound := by
  have left : (0 : ℚ) < x.quotient.2 := by exact_mod_cast x.quotient_den_pos
  have right : (0 : ℚ) < y.quotient.2 := by exact_mod_cast y.quotient_den_pos
  rw [← abs_value_quotient, ← abs_value_quotient, div_mul_div_comm, div_lt_iff₀ (by positivity)]
  exact_mod_cast less

/-- The most digits, of seventeen, that a power of ten leaves room for below the largest double. -/
def room (power : ℕ) : ℕ := min (10 ^ 17) (largest / tenTo power)

/-- Whether the double of the most digits times that of the power is too small to overflow. -/
def roomy (power : ℕ) : Bool :=
  let digits := (ofNat (room power)).quotient
  let tens := (ofDecimal 1 power).quotient
  decide (digits.1 * tens.1 < overflow * (digits.2 * tens.2))

theorem mul_lt_of_roomy {power : ℕ} (check : roomy power = true) :
    |(ofNat (room power)).value| * |(ofDecimal 1 power).value| < overflow := by
  rw [roomy, decide_eq_true_eq] at check
  exact mul_lt_of_quotients check

/-- Up to the 291st power there is room for all digits. -/
theorem roomy_of_le {power : ℕ} (small : power ≤ 308) : roomy (max 291 power) = true := by
  have all : ((List.range 18).map (291 + ·)).all roomy = true := by decide +kernel
  refine List.all_eq_true.mp all _ (List.mem_map.mpr ⟨power - 291, ?_, by omega⟩)
  rw [List.mem_range]
  omega

theorem le_room {digits power : ℕ} (short : digits ≤ 10 ^ 17)
    (bounded : digits * tenTo power ≤ largest) : digits ≤ room (max 291 power) := by
  rcases le_total power 291 with low | high
  · have all : room 291 = 10 ^ 17 := by decide +kernel
    rw [max_eq_left low, all]
    exact short
  · rw [max_eq_right high]
    exact le_min short ((Nat.le_div_iff_mul_le (tenTo_pos _)).mpr bounded)

/-- Digits of a decimal that is not above the largest double do not overflow when they are multiplied by
the power of ten. -/
theorem isFinite_mul_tenTo {digits power : ℕ} (short : digits ≤ 10 ^ 17) (small : power ≤ 308)
    (bounded : digits * tenTo power ≤ largest) :
    ((ofNat digits).mul (ofDecimal 1 power)).isFinite = true := by
  have finite {n : ℕ} (short : n ≤ 10 ^ 17) : (ofNat n).isFinite = true := by
    rw [← ofInt_natCast]
    exact (nearest_ofInt_of_wide ⟨by omega, by omega⟩).finite
  have fits := le_room short bounded
  have upper : max 291 power ≤ 308 := by omega
  have higher := tenTo_mono (le_max_right 291 power) upper
  have powerNonneg := tenTo_value_nonneg small
  have digitsNonneg := ofNat_value_nonneg (finite short)
  have more : (ofNat digits).value ≤ (ofNat (room (max 291 power))).value :=
    ofNat_mono fits (finite (min_le_left ..))
  refine isFinite_mul_of_lt (finite short) (isFinite_tenTo small) ?_
  calc |(ofNat digits).value| * |(ofDecimal 1 power).value|
      ≤ |(ofNat (room (max 291 power))).value| * |(ofDecimal 1 (max 291 power : ℕ)).value| := by
        gcongr
    _ < overflow := mul_lt_of_roomy (roomy_of_le small)

/-! The shortest decimal. -/

/-- The shortest decimal does not depend on the sign. -/
theorem shortest_congr (tie : Tie) (significand : x.significand = y.significand)
    (scale : x.scale = y.scale) : x.shortest tie = y.shortest tie := by
  have quotient : x.quotient = y.quotient := by
    rw [Double.quotient, Double.quotient, significand, scale]
  have interval : RoundingInterval.ofDouble x = RoundingInterval.ofDouble y := by
    simp only [RoundingInterval.ofDouble, significand, scale]
  have grid (power : ℤ) : x.decimalOnGrid? tie power = y.decimalOnGrid? tie power := by
    rw [decimalOnGrid?, decimalOnGrid?, interval, quotient]
  have first (fuel : ℕ) (start : ℤ) : firstDecimal tie x fuel start = firstDecimal tie y fuel start := by
    induction fuel generalizing start with
    | zero => rw [firstDecimal, firstDecimal, grid]
    | succ fuel ih => rw [firstDecimal, firstDecimal, grid, ih]
  simp only [shortest, quotient, first]

/-- Only the two doubles of the largest magnitude reach beyond it when half a step is added. -/
theorem add_half_le_largest (finite : x.isFinite = true)
    (other : ¬(x.significand = 2 ^ 53 - 1 ∧ x.scale = 971)) :
    |x.value| + 2 ^ x.scale / 2 ≤ largest := by
  have step : ((largest : ℕ) : ℚ) = (2 ^ 53 - 1) * 2 ^ (971 : ℤ) := by
    unfold largest
    rw [Nat.cast_mul, twoTo_cast 971]
    norm_num
  have short := x.significand_lt
  have half : |x.value| + 2 ^ x.scale / 2 = (x.significand + 1 / 2) * 2 ^ x.scale := by
    rw [abs_value]
    ring
  rw [half, step]
  rcases (scale_le finite).eq_or_lt with last | less
  · have fewer : (x.significand : ℚ) ≤ 2 ^ 53 - 2 := by
      have fewer : x.significand ≤ 2 ^ 53 - 2 := by omega
      have : (x.significand : ℚ) ≤ ((2 ^ 53 - 2 : ℕ) : ℚ) := by exact_mod_cast fewer
      norm_num at this ⊢
      exact this
    rw [last]
    gcongr
    linarith
  · have fewer : (x.significand : ℚ) ≤ 2 ^ 53 - 1 := by
      have fewer : x.significand ≤ 2 ^ 53 - 1 := by omega
      have : (x.significand : ℚ) ≤ ((2 ^ 53 - 1 : ℕ) : ℚ) := by exact_mod_cast fewer
      norm_num at this ⊢
      exact this
    have double : (2 : ℚ) * 2 ^ x.scale ≤ 2 ^ (971 : ℤ) := by
      rw [← zpow_one_add₀ two_ne_zero]
      exact zpow_le_zpow_right₀ one_le_two (by omega)
    calc ((x.significand : ℚ) + 1 / 2) * 2 ^ x.scale ≤ 2 ^ 53 * 2 ^ x.scale := by
          gcongr
          linarith
      _ ≤ (2 ^ 53 - 1) * (2 * 2 ^ x.scale) := by
          have : (0 : ℚ) < 2 ^ x.scale := by positivity
          linarith
      _ ≤ (2 ^ 53 - 1) * 2 ^ (971 : ℤ) := mul_le_mul_of_nonneg_left double (by norm_num)

/-- The shortest decimal of a double is not above the largest double. -/
theorem shortest_le_largest (finite : x.isFinite = true) (some : 0 < x.significand) :
    (x.shortest .even).value ≤ largest := by
  by_cases last : x.significand = 2 ^ 53 - 1 ∧ x.scale = 971
  · have units : (pack false (infinityBits - 1)).significand = 2 ^ 53 - 1 := by decide +kernel
    have scale : (pack false (infinityBits - 1)).scale = 971 := by decide +kernel
    have same : x.shortest .even = ⟨17976931348623157, (292 : ℕ)⟩ := by
      rw [shortest_congr .even (last.1.trans units.symm) (last.2.trans scale.symm)]
      decide +kernel
    rw [same, Decimal.value_le_iff rfl]
    decide +kernel
  · exact (shortest_spec .even some).2.2.2.trans (add_half_le_largest finite last)

/-- The digits of the shortest decimal do not overflow when they are multiplied by the power of ten. -/
theorem isFinite_shortest (finite : x.isFinite = true) (some : 0 < x.significand) {power : ℕ}
    (same : (x.shortest .even).power = power) : power ≤ 308 ∧
      ((ofNat (x.shortest .even).digits).mul (ofDecimal 1 power)).isFinite = true := by
  obtain ⟨positive, short, -, -⟩ := shortest_spec .even some
  have bounded : (x.shortest .even).digits * tenTo power ≤ largest :=
    (Decimal.value_le_iff same).mp (shortest_le_largest finite some)
  have small : power ≤ 308 := by
    have below : tenTo power < tenTo 309 := by
      calc tenTo power ≤ (x.shortest .even).digits * tenTo power := Nat.le_mul_of_pos_left _ positive
        _ ≤ largest := bounded
        _ < tenTo 309 := by decide +kernel
    exact Nat.le_of_lt_succ (tenTo_lt_iff.mp below)
  exact ⟨small, isFinite_mul_tenTo short small bounded⟩

end ForeignBridge.Double
