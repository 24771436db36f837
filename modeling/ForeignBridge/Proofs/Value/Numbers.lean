import ForeignBridge.Proofs.Value.Document

/-! # The number rule

A double becomes an integer just when it is one of 64 bits, and then the very same number; every other
double stays as it is. The number of a document becomes the integer that it is, or that its double is,
and a finite double otherwise.
-/

namespace ForeignBridge

/-- The number that a document is: an integer of 64 bits itself, and any other number as its double. -/
def Json.number? : Json → Option ℚ
  | .integer n => some (if FitsInt64 n then n else (Double.ofInt n).value)
  | .float x => some x.value
  | _ => none

namespace Value

variable {x : Double} {document : Json} {number : ℚ}

/-! Doubles. -/

/-- What becomes an integer has passed for one, and is made one. -/
theorem toInt64_of_ofNumber {k : Int64} (made : ofNumber x = .int k) :
    x.isInt64 = true ∧ k = x.toInt64 := by
  unfold ofNumber at made
  split at made
  · rename_i passes
    exact ⟨passes, (int.inj made).symm⟩
  · cases made

theorem ofNumber_eq_int_iff {k : Int64} :
    ofNumber x = .int k ↔ x.isFinite = true ∧ x.value = k.toInt := by
  constructor
  · intro made
    obtain ⟨passes, rfl⟩ := toInt64_of_ofNumber made
    obtain ⟨finite, same, fits⟩ := Double.isInt64_iff.mp passes
    rw [Double.toInt64_of_isInt64 passes, toInt_ofInt fits]
    exact ⟨finite, same⟩
  · intro whole
    rw [ofNumber_of_whole (Double.toInt?_eq_some_iff.mpr whole) (fitsInt64_toInt k), Int64.ofInt_toInt]

/-- The doubles that become an integer are finite and equal to it. -/
theorem exists_int_iff {i : ℤ} : (∃ k : Int64, ofNumber x = .int k ∧ k.toInt = i) ↔
    x.isFinite = true ∧ x.value = i ∧ FitsInt64 i := by
  constructor
  · rintro ⟨k, made, rfl⟩
    obtain ⟨finite, same⟩ := ofNumber_eq_int_iff.mp made
    exact ⟨finite, same, fitsInt64_toInt k⟩
  · rintro ⟨finite, same, fits⟩
    refine ⟨Int64.ofInt i, ofNumber_eq_int_iff.mpr ⟨finite, ?_⟩, toInt_ofInt fits⟩
    rw [toInt_ofInt fits, same]

theorem ofNumber_eq_float (other : ∀ i : ℤ, x.isFinite = true → x.value = i → ¬ FitsInt64 i) :
    ofNumber x = .float x := by
  refine ofNumber_of_not_whole fun n whole => ?_
  obtain ⟨finite, same⟩ := Double.toInt?_eq_some_iff.mp whole
  exact other n finite same

/-! Numbers of documents. -/

/-- A number of a document is an integer of 64 bits, or else there is a double for it, which is finite
and goes by the number rule. -/
theorem number_cases (wellFormed : document.WellFormed) (counts : document.number? = some number) :
    (∃ n, FitsInt64 n ∧ document = .integer n ∧ number = n) ∨
      ∃ x, document.double? = some x ∧ ofJson document = ofNumber x ∧ x.isFinite = true ∧
        x.value = number := by
  cases document with
  | null | bool _ | string _ | array _ | object _ => cases counts
  | integer n =>
    have same := (Option.some.inj counts).symm
    by_cases fits : FitsInt64 n
    · exact .inl ⟨n, fits, rfl, same.trans (if_pos fits)⟩
    · refine .inr ⟨.ofInt n, rfl, ?_, (Double.nearest_ofInt_of_wide wellFormed).finite, ?_⟩
      · rw [ofJson_integer, if_neg fits]
      · exact (same.trans (if_neg fits)).symm
  | float x => exact .inr ⟨x, rfl, ofJson_float x, wellFormed, Option.some.inj counts⟩

/-- An integer beyond those of 64 bits with a sign becomes the nearest double. -/
theorem ofJson_large {n : ℤ} (large : 2 ^ 63 ≤ n) (small : n < 2 ^ 64) :
    ∃ x : Double, ofJson (.integer n) = .float x ∧ x.Nearest n ∧ 2 ^ 63 ≤ x.value := by
  have wide : -2 ^ 63 ≤ n ∧ n < 2 ^ 64 := ⟨by omega, small⟩
  have beyond : ¬ FitsInt64 n := by omega
  refine ⟨.ofInt n, ?_, Double.nearest_ofInt_of_wide wide, ?_⟩
  · rw [ofJson_integer, if_neg beyond, ofNumber_of_not_whole (Json.ofInt_not_whole wide beyond)]
  · exact_mod_cast Double.le_value_ofInt_large large small

/-- The number rule is exact. A double becomes the integer `i` just when it is finite and equal to `i`
and `i` has 64 bits, also from a zero of either sign, and what is made of it has its value; any other
double stays as it is, bit by bit. A number of a document that is not written as an integer of 64 bits
is taken as a double, and there always is one. If it is an integer of 64 bits then, it becomes this
integer, and otherwise a finite double of its value. An integer too large for a sign becomes the nearest
double. -/
theorem ofNumber_exact :
    (∀ (x : Double) (i : ℤ), (∃ k : Int64, ofNumber x = .int k ∧ k.toInt = i) ↔
      x.isFinite = true ∧ x.value = i ∧ -2 ^ 63 ≤ i ∧ i < 2 ^ 63) ∧
    (∀ x : Double, (¬ ∃ i : ℤ, x.isFinite = true ∧ x.value = i ∧ -2 ^ 63 ≤ i ∧ i < 2 ^ 63) →
      ofNumber x = .float x) ∧
    (∀ (x : Double) (k : Int64), ofNumber x = .int k → k = x.toInt64 ∧ x.value = x.toInt64.toInt) ∧
    (∀ negative : Bool, ofNumber (.zero negative) = .int 0) ∧
    (∀ (document : Json) (number : ℚ), document.WellFormed → document.number? = some number →
      document.double?.isSome = true ∧
      (∀ i : ℤ, number = i → -2 ^ 63 ≤ i → i < 2 ^ 63 →
        ∃ k : Int64, ofJson document = .int k ∧ k.toInt = i) ∧
      ((¬ ∃ i : ℤ, number = i ∧ -2 ^ 63 ≤ i ∧ i < 2 ^ 63) →
        ∃ x : Double, ofJson document = .float x ∧ document.double? = some x ∧ x.isFinite = true ∧
          x.value = number)) ∧
    ∀ n : ℤ, 2 ^ 63 ≤ n → n < 2 ^ 64 →
      ∃ x : Double, ofJson (.integer n) = .float x ∧ x.Nearest n ∧ 2 ^ 63 ≤ x.value := by
  refine ⟨fun x i => exists_int_iff, fun x other => ?_, fun x k made => ?_, fun negative => ?_,
    fun document number wellFormed counts => ?_, fun n => ofJson_large⟩
  · exact ofNumber_eq_float fun i finite same fits => other ⟨i, finite, same, fits⟩
  · obtain ⟨-, rfl⟩ := toInt64_of_ofNumber made
    exact ⟨rfl, (ofNumber_eq_int_iff.mp made).2⟩
  · refine ofNumber_eq_int_iff.mpr ⟨by cases negative <;> rfl, ?_⟩
    rw [Double.value_zero]
    rfl
  · obtain ⟨n, fits, rfl, rfl⟩ | ⟨x, double, made, finite, rfl⟩ := number_cases wellFormed counts
    · refine ⟨rfl, fun i same _ _ => ?_, fun other => absurd ⟨n, rfl, fits⟩ other⟩
      obtain rfl : n = i := by exact_mod_cast same
      exact ⟨Int64.ofInt n, by rw [ofJson_integer, if_pos fits], toInt_ofInt fits⟩
    · rw [made, double]
      refine ⟨rfl, fun i same low high => exists_int_iff.mpr ⟨finite, same, low, high⟩, fun other => ?_⟩
      exact ⟨x, ofNumber_eq_float fun i _ same fits => other ⟨i, same, fits⟩, rfl, finite, rfl⟩

/-- The largest double below `2 ^ 63`, then `2 ^ 63` and its opposite, the largest integer with a sign,
and the largest without one, which is rounded up to `2 ^ 64`. -/
theorem ofNumber_exact_boundaries :
    (∃ k : Int64, ofNumber ⟨0x43DFFFFFFFFFFFFF⟩ = .int k ∧ k.toInt = 2 ^ 63 - 1024) ∧
      ofNumber ⟨0x43E0000000000000⟩ = .float ⟨0x43E0000000000000⟩ ∧
      (∃ k : Int64, ofNumber ⟨0xC3E0000000000000⟩ = .int k ∧ k.toInt = -2 ^ 63) ∧
      (∃ k : Int64, ofJson (.integer (2 ^ 63 - 1)) = .int k ∧ k.toInt = 2 ^ 63 - 1) ∧
      ∃ x : Double, ofJson (.integer (2 ^ 64 - 1)) = .float x ∧ x.value = 2 ^ 64 := by
  obtain ⟨whole, other, -, -, number, -⟩ := ofNumber_exact
  have value {x : Double} {n : ℤ} (same : x.toInt? = some n) : x.isFinite = true ∧ x.value = n :=
    Double.toInt?_eq_some_iff.mp same
  have below := value (x := ⟨0x43DFFFFFFFFFFFFF⟩) (n := 2 ^ 63 - 1024) (by decide +kernel)
  have limit := value (x := ⟨0x43E0000000000000⟩) (n := 2 ^ 63) (by decide +kernel)
  have least := value (x := ⟨0xC3E0000000000000⟩) (n := -2 ^ 63) (by decide +kernel)
  have rounded := value (x := .ofInt (2 ^ 64 - 1)) (n := 2 ^ 64) (by decide +kernel)
  refine ⟨(whole _ _).mpr ⟨below.1, below.2, by decide, by decide⟩, other _ ?_,
    (whole _ _).mpr ⟨least.1, least.2, by decide, by decide⟩, ?_, ?_⟩
  · rintro ⟨i, -, same, -, small⟩
    have same : (2 : ℤ) ^ 63 = i := by exact_mod_cast limit.2.symm.trans same
    omega
  · exact (number (.integer (2 ^ 63 - 1)) (2 ^ 63 - 1 : ℤ) ⟨by decide, by decide⟩ (by decide)).2.1 _ rfl
      (by decide) (by decide)
  · have counts : (Json.integer (2 ^ 64 - 1)).number? = some ((2 ^ 64 : ℤ) : ℚ) := by
      rw [Json.number?, if_neg (by decide), rounded.2]
    obtain ⟨-, -, float⟩ := number (.integer (2 ^ 64 - 1)) _ ⟨by decide, by decide⟩ counts
    obtain ⟨x, made, -, -, same⟩ := float (by
      rintro ⟨i, same, -, small⟩
      have same : (2 : ℤ) ^ 64 = i := by exact_mod_cast same
      omega)
    exact ⟨x, made, by rw [same]; norm_num⟩

end Value

end ForeignBridge
