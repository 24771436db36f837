import Mathlib.Data.Nat.ModEq
import Mathlib.Data.Int.ModEq
import Mathlib.Tactic.Ring
import ForeignBridge.Foreign.Scalar

/-! # Equal scalars have one hash

An integer and a double, or two doubles, are compared exactly, and those that compare as equal have
the same hash. A hash is a magnitude modulo `2 ^ 61 - 1`, and modulo that number a power of two
depends on its exponent modulo 61 only.
-/

namespace ForeignBridge

theorem twoTo_eq (power : ℕ) : twoTo power = 2 ^ power := rfl

theorem twoTo_pos (power : ℕ) : 0 < twoTo power := Nat.two_pow_pos power

namespace Foreign.Scalar

private theorem two_pow_congr {i j : ℕ} (same : i ≡ j [MOD 61]) :
    2 ^ i ≡ 2 ^ j [MOD modulus] := by
  have cycle : 2 ^ 61 ≡ 1 [MOD modulus] := by decide
  have reduce (k : ℕ) : 2 ^ k ≡ 2 ^ (k % 61) [MOD modulus] := by
    calc 2 ^ k = (2 ^ 61) ^ (k / 61) * 2 ^ (k % 61) := by rw [← pow_mul, ← pow_add, Nat.div_add_mod]
      _ ≡ 1 ^ (k / 61) * 2 ^ (k % 61) [MOD modulus] := (cycle.pow _).mul_right _
      _ = 2 ^ (k % 61) := by rw [one_pow, one_mul]
  exact (reduce i).trans (same ▸ (reduce j).symm)

/-- A residue of a magnitude does not depend on how it is written. -/
private theorem residue_eq {a b i j : ℕ} {s t : ℤ} (same : a * 2 ^ i = b * 2 ^ j)
    (level : s - i = t - j) :
    a * twoTo (s % 61).toNat % modulus = b * twoTo (t % 61).toNat % modulus := by
  have left : (s % 61).toNat ≡ i + ((s - i) % 61).toNat [MOD 61] := by
    unfold Nat.ModEq
    omega
  have right : (t % 61).toNat ≡ j + ((s - i) % 61).toNat [MOD 61] := by
    unfold Nat.ModEq
    omega
  calc a * 2 ^ (s % 61).toNat
      ≡ a * 2 ^ (i + ((s - i) % 61).toNat) [MOD modulus] := (two_pow_congr left).mul_left a
    _ = b * 2 ^ (j + ((s - i) % 61).toNat) := by
        rw [pow_add, pow_add, ← Nat.mul_assoc, ← Nat.mul_assoc, same]
    _ ≡ b * 2 ^ (t % 61).toNat [MOD modulus] := (two_pow_congr right.symm).mul_left b

@[simp] theorem signedHash_zero (negative : Bool) : signedHash negative 0 = 0 := by
  cases negative <;> rfl

/-- A sign counts for nothing on the hash of zero. -/
private theorem signedHash_congr {a b : Bool} {rest : ℕ} (sign : rest ≠ 0 → a = b) :
    signedHash a rest = signedHash b rest := by
  rcases Nat.eq_zero_or_pos rest with rfl | positive
  · rw [signedHash_zero, signedHash_zero]
  · rw [sign positive.ne']

theorem floatHash_of_not_infinite {x : Double} (finite : x.isInfinite = false) :
    floatHash x = signedHash x.isNegative (x.significand * twoTo (x.scale % 61).toNat % modulus) := by
  simp only [floatHash, finite, Bool.false_eq_true, ↓reduceIte]

/-- The quotient of a double has its significand and its scale. -/
private theorem quotient_level (x : Double) :
    ∃ i j : ℕ, x.quotient = (x.significand * 2 ^ i, 2 ^ j) ∧ x.scale = (i : ℤ) - j := by
  by_cases whole : 0 ≤ x.scale
  · refine ⟨x.scale.toNat, 0, ?_, by omega⟩
    simp only [Double.quotient, whole, ↓reduceIte, twoTo_eq, pow_zero]
  · refine ⟨0, (-x.scale).toNat, ?_, by omega⟩
    simp only [Double.quotient, whole, ↓reduceIte, twoTo_eq, pow_zero, mul_one]

end Foreign.Scalar

namespace Double

theorem not_special_of_compareInt? {n : ℤ} {x : Double} (same : compareInt? n x = some .eq) :
    x.isNaN = false ∧ x.isInfinite = false := by
  unfold compareInt? at same
  split at same
  · cases same
  · rename_i number
    split at same
    · split at same <;> cases same
    · rename_i finite
      exact ⟨by simpa using number, by simpa using finite⟩

theorem compareInt?_eq_iff {n : ℤ} {x : Double} (number : x.isNaN = false)
    (finite : x.isInfinite = false) :
    compareInt? n x = some .eq ↔
      n * x.quotient.2 = if x.isNegative then -(x.quotient.1 : ℤ) else x.quotient.1 := by
  simp only [compareInt?, number, finite, Bool.false_eq_true, ↓reduceIte, Option.some.injEq,
    compare_eq_iff_eq]

theorem isFinite_eq_true_iff {x : Double} :
    x.isFinite = true ↔ x.isNaN = false ∧ x.isInfinite = false := by
  unfold isFinite isNaN isInfinite
  cases same : x.exponentField == 2047 <;> cases none : x.fractionField == 0 <;> simp_all

theorem quotient_den_pos (x : Double) : 0 < x.quotient.2 := by
  unfold quotient
  split
  · exact Nat.one_pos
  · exact twoTo_pos _

/-- An integer equals a double just when it is the integer of the double. -/
theorem compareInt?_eq_iff_toInt? {n : ℤ} {x : Double} :
    compareInt? n x = some .eq ↔ x.toInt? = some n := by
  cases finite : x.isFinite with
  | false =>
    refine iff_of_false (fun same => ?_) (by simp [toInt?, finite])
    exact Bool.false_ne_true (finite ▸ isFinite_eq_true_iff.mpr (not_special_of_compareInt? same))
  | true =>
    obtain ⟨number, real⟩ := isFinite_eq_true_iff.mp finite
    have bottom : (x.quotient.2 : ℤ) ≠ 0 := by
      have := x.quotient_den_pos
      omega
    have whole (m k : ℤ) : m * x.quotient.2 = k ↔ (x.quotient.2 : ℤ) ∣ k ∧ k / x.quotient.2 = m := by
      constructor
      · rintro rfl
        exact ⟨Int.dvd_mul_left _ _, Int.mul_ediv_cancel m bottom⟩
      · rintro ⟨divides, rfl⟩
        exact Int.ediv_mul_cancel divides
    rw [compareInt?_eq_iff number real, whole]
    have same : x.toInt? = if x.quotient.1 % x.quotient.2 = 0 then
        some (if x.isNegative then -((x.quotient.1 / x.quotient.2 : ℕ) : ℤ)
          else ((x.quotient.1 / x.quotient.2 : ℕ) : ℤ)) else none := by
      simp only [toInt?, finite, ↓reduceIte]
    rw [same]
    by_cases divides : x.quotient.2 ∣ x.quotient.1
    · have split : (x.quotient.2 : ℤ) ∣ (x.quotient.1 : ℤ) := Int.natCast_dvd_natCast.mpr divides
      rw [if_pos (Nat.mod_eq_zero_of_dvd divides), Option.some.injEq, Int.natCast_ediv]
      cases x.isNegative with
      | true =>
        simp only [↓reduceIte, Int.dvd_neg, split, true_and, Int.neg_ediv_of_dvd split]
      | false =>
        simp only [Bool.false_eq_true, ↓reduceIte, split, true_and]
    · rw [if_neg fun rest => divides (Nat.dvd_of_mod_eq_zero rest)]
      refine iff_of_false (fun both => divides ?_) (by simp)
      have split := both.1
      cases negative : x.isNegative with
      | true =>
        rw [negative, if_pos rfl, Int.dvd_neg] at split
        exact Int.natCast_dvd_natCast.mp split
      | false =>
        rw [negative, if_neg Bool.false_ne_true] at split
        exact Int.natCast_dvd_natCast.mp split

end Double

namespace Foreign.Scalar

/-- An integer has the sign of the quotient that it equals. -/
private theorem sign_of_quotient {n : ℤ} {num den : ℕ} {negative : Bool} (bottom : 0 < den)
    (top : 0 < num) (same : n * den = if negative then -(num : ℤ) else num) :
    decide (n < 0) = negative := by
  have bottom : (0 : ℤ) < den := by exact_mod_cast bottom
  cases negative with
  | true =>
    rw [if_pos rfl] at same
    refine decide_eq_true (Int.not_le.mp fun nonneg => ?_)
    have := Int.mul_nonneg nonneg bottom.le
    omega
  | false =>
    rw [if_neg Bool.false_ne_true] at same
    refine decide_eq_false fun below => ?_
    have := Int.mul_neg_of_neg_of_pos below bottom
    omega

/-- An integer and a double that are equal have the same hash. -/
theorem intHash_eq_floatHash {n : ℤ} {x : Double} (same : Double.compareInt? n x = some .eq) :
    intHash n = floatHash x := by
  obtain ⟨number, finite⟩ := Double.not_special_of_compareInt? same
  rw [Double.compareInt?_eq_iff number finite] at same
  obtain ⟨i, j, quotient, level⟩ := quotient_level x
  simp only [quotient] at same
  have magnitude : n.natAbs * 2 ^ j = x.significand * 2 ^ i := by
    have absolute := congrArg Int.natAbs same
    rw [Int.natAbs_mul, Int.natAbs_natCast] at absolute
    split at absolute
    · rwa [Int.natAbs_neg, Int.natAbs_natCast] at absolute
    · rwa [Int.natAbs_natCast] at absolute
  have residue : n.natAbs % modulus = x.significand * twoTo (x.scale % 61).toNat % modulus := by
    have := residue_eq (s := 0) (t := x.scale) magnitude (by omega)
    simpa [twoTo_eq] using this
  rw [intHash, floatHash_of_not_infinite finite, residue]
  refine signedHash_congr fun nonzero => ?_
  have parts : x.significand ≠ 0 := by
    rintro zero
    exact nonzero (by rw [zero, Nat.zero_mul, Nat.zero_mod])
  exact sign_of_quotient (Nat.two_pow_pos j)
    (Nat.mul_pos (Nat.pos_of_ne_zero parts) (Nat.two_pow_pos i)) same

end Foreign.Scalar

namespace Double

theorem not_isNaN_of_equal {x y : Double} (same : x.equal y = true) :
    x.isNaN = false ∧ y.isNaN = false := by
  unfold equal compare? at same
  split at same
  · cases same
  · rename_i number
    simpa using number

/-- Equal doubles are one infinity, or they have one value counted in some unit. -/
theorem equal_cases {x y : Double} (same : x.equal y = true) :
    (x.isInfinite = true ∧ y.isInfinite = true ∧ x.isNegative = y.isNegative) ∨
      (x.isInfinite = false ∧ y.isInfinite = false ∧
        x.unitsAt (min x.scale y.scale) = y.unitsAt (min x.scale y.scale)) := by
  simp only [equal, compare?, beq_iff_eq] at same
  split at same
  · cases same
  cases left : x.isInfinite with
  | true =>
    rw [left, if_pos rfl] at same
    split at same
    · rename_i both
      simp only [Bool.and_eq_true, beq_iff_eq] at both
      exact .inl ⟨rfl, both⟩
    · split at same <;> cases same
  | false =>
    rw [left, if_neg Bool.false_ne_true] at same
    cases right : y.isInfinite with
    | true =>
      rw [right, if_pos rfl] at same
      split at same <;> cases same
    | false =>
      rw [right, if_neg Bool.false_ne_true] at same
      simp only [Option.some.injEq, compare_eq_iff_eq] at same
      exact .inr ⟨rfl, rfl, same⟩

theorem natAbs_signedSignificand (x : Double) : x.signedSignificand.natAbs = x.significand := by
  unfold signedSignificand
  split
  · rw [Int.natAbs_neg, Int.natAbs_natCast]
  · rw [Int.natAbs_natCast]

/-- A double whose significand is not zero is negative just when its units are. -/
theorem isNegative_eq_of_units {x : Double} (power : ℤ) (parts : x.significand ≠ 0) :
    x.isNegative = decide (x.unitsAt power < 0) := by
  have unit : (0 : ℤ) < twoTo (x.scale - power).toNat := by exact_mod_cast twoTo_pos _
  have positive : (0 : ℤ) < x.significand := by omega
  unfold unitsAt signedSignificand
  cases x.isNegative with
  | true =>
    rw [if_pos rfl]
    exact (decide_eq_true (Int.mul_neg_of_neg_of_pos (by omega) unit)).symm
  | false =>
    rw [if_neg Bool.false_ne_true]
    exact (decide_eq_false (Int.not_lt.mpr (Int.mul_nonneg positive.le unit.le))).symm

end Double

namespace Foreign.Scalar

/-- Two doubles that are equal have the same hash. -/
theorem floatHash_congr {x y : Double} (same : x.equal y = true) : floatHash x = floatHash y := by
  obtain ⟨left, right, sign⟩ | ⟨left, right, units⟩ := Double.equal_cases same
  · simp only [floatHash, left, right, sign, ↓reduceIte]
  rw [floatHash_of_not_infinite left, floatHash_of_not_infinite right]
  have magnitude : x.significand * 2 ^ (x.scale - min x.scale y.scale).toNat =
      y.significand * 2 ^ (y.scale - min x.scale y.scale).toNat := by
    have absolute := congrArg Int.natAbs units
    simp only [Double.unitsAt, Int.natAbs_mul, Int.natAbs_natCast, twoTo_eq] at absolute
    rwa [Double.natAbs_signedSignificand, Double.natAbs_signedSignificand] at absolute
  have residue := residue_eq (s := x.scale) (t := y.scale) magnitude (by omega)
  rw [residue]
  refine signedHash_congr fun nonzero => ?_
  have right : y.significand ≠ 0 := by
    rintro zero
    exact nonzero (by rw [zero, Nat.zero_mul, Nat.zero_mod])
  have left : x.significand ≠ 0 := by
    rintro zero
    rw [zero, Nat.zero_mul] at magnitude
    rcases Nat.mul_eq_zero.mp magnitude.symm with none | none
    · exact right none
    · exact (Nat.two_pow_pos _).ne' none
  rw [Double.isNegative_eq_of_units _ left, Double.isNegative_eq_of_units _ right, units]

end Foreign.Scalar

end ForeignBridge
