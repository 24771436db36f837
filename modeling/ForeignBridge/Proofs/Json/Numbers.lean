import ForeignBridge.Proofs.Json.Reader
import ForeignBridge.Proofs.Json.Writer
import ForeignBridge.Proofs.Number.Largest

/-! # Numbers that are written are read

A number is written as a numeral: digits, digits behind a point, and an exponent, of which the last two
may be missing. A numeral is read if its digits fit into 64 bits and do not overflow when they are
multiplied by the power of ten. The numerals of integers of 64 bits are of this kind, and so are those of
finite doubles, which are written with their shortest decimals.
-/

namespace ForeignBridge.Json

/-- That a reading succeeds and leaves these characters to be read. -/
def Leaves {α : Type} (tail : List Char) (reading : Reading α) : Prop :=
  ∃ value cursor, reading = .ok (value, cursor) ∧ cursor.rest = tail

/-- That a number is at its end before these characters. -/
def Ends (tail : List Char) : Prop :=
  tail.headD (Char.ofNat 0) ∈ [Char.ofNat 0, ',', ']', '\x7d']

section Digits

variable {cursor : Cursor} {tail digits : List Char} {negative : Bool} {significand count : ℕ}

@[simp] theorem Cursor.rest_past (cursor : Cursor) (c : Char) (rest : List Char) :
    (cursor.past c rest).rest = rest := by
  unfold Cursor.past
  split <;> rfl

theorem Cursor.rest_skip {c : Char} (here : cursor.rest = c :: tail) : cursor.skip.rest = tail := by
  rw [Cursor.skip, here]
  exact Cursor.rest_past ..

theorem Cursor.next_eq {c : Char} (here : cursor.rest = c :: tail) : cursor.next = c := by
  rw [Cursor.next, here, List.headD_cons]

/-! Digits. -/

theorem le_ofDigitChars (digits : List Char) (n : ℕ) : n ≤ Nat.ofDigitChars 10 digits n := by
  rw [Nat.ofDigitChars_eq_ofDigitChars_zero]
  exact (Nat.le_mul_of_pos_left n (by positivity)).trans (Nat.le_add_right ..)

theorem digitChar_ne_zero : ∀ n < 10, 0 < n → n.digitChar ≠ '0' := by decide

/-- The first digit of a number that is not zero is not zero. -/
theorem toDigits_cons {n : ℕ} (some : 0 < n) :
    ∃ first rest, Nat.toDigits 10 n = first :: rest ∧ first ≠ '0' := by
  induction n using Nat.strong_induction_on with
  | h n ih =>
    rcases Nat.lt_or_ge n 10 with small | large
    · exact ⟨_, [], Nat.toDigits_of_lt_base small, digitChar_ne_zero n small some⟩
    · obtain ⟨first, rest, same, other⟩ := ih (n / 10) (by omega) (by omega)
      rw [Nat.toDigits_of_base_le (by decide) large, same]
      exact ⟨first, _, rfl, other⟩

/-- All digits are taken if the significand fits. -/
theorem takeDigits_all (count : ℕ) (here : cursor.rest = digits ++ tail)
    (each : ∀ c ∈ digits, c.isDigit = true) (stop : (tail.headD (Char.ofNat 0)).isDigit = false)
    (fits : Nat.ofDigitChars 10 digits significand < significandBound) :
    ∃ after, takeDigits cursor.rest significand count cursor =
      (Nat.ofDigitChars 10 digits significand, count + digits.length, after) ∧ after.rest = tail := by
  induction digits generalizing significand count cursor with
  | nil =>
    rw [List.nil_append] at here
    rw [here]
    cases tail with
    | nil => exact ⟨cursor, rfl, here⟩
    | cons c rest =>
      rw [List.headD_cons] at stop
      refine ⟨cursor, ?_, here⟩
      rw [takeDigits, if_neg (by rw [stop]; exact Bool.false_ne_true)]
      rfl
  | cons c rest ih =>
    obtain ⟨first, others⟩ := List.forall_mem_cons.mp each
    rw [Nat.ofDigitChars_cons, Nat.mul_comm 10] at fits
    have pushed : pushDigit? significand c = some (significand * 10 + (c.toNat - '0'.toNat)) :=
      if_pos ((le_ofDigitChars rest _).trans_lt fits)
    obtain ⟨after, taken, left⟩ := ih (count + 1) (Cursor.rest_past cursor c (rest ++ tail)) others fits
    refine ⟨after, ?_, left⟩
    rw [Cursor.rest_past] at taken
    rw [here, List.cons_append, takeDigits, if_pos first, pushed, Nat.ofDigitChars_cons,
      Nat.mul_comm 10, List.length_cons, Nat.add_comm rest.length, ← Nat.add_assoc]
    exact taken

theorem skipDigits_none (stop : cursor.next.isDigit = false) :
    skipDigits cursor.rest count cursor = (count, cursor) := by
  rw [Cursor.next] at stop
  cases here : cursor.rest with
  | nil => rfl
  | cons c rest =>
    rw [here, List.headD_cons] at stop
    rw [skipDigits, if_neg (by rw [stop]; exact Bool.false_ne_true)]

theorem takeExponent_all {value : ℕ} (here : cursor.rest = digits ++ tail)
    (each : ∀ c ∈ digits, c.isDigit = true) (stop : (tail.headD (Char.ofNat 0)).isDigit = false)
    (fits : Nat.ofDigitChars 10 digits value < 2 ^ 31) :
    ∃ after, takeExponent cursor.rest value cursor =
      (((Nat.ofDigitChars 10 digits value : ℕ) : ℤ), true, after) ∧ after.rest = tail := by
  induction digits generalizing value cursor with
  | nil =>
    rw [List.nil_append] at here
    rw [here]
    cases tail with
    | nil => exact ⟨cursor, rfl, here⟩
    | cons c rest =>
      rw [List.headD_cons] at stop
      refine ⟨cursor, ?_, here⟩
      rw [takeExponent, if_neg (by rw [stop]; exact Bool.false_ne_true)]
      rfl
  | cons c rest ih =>
    obtain ⟨first, others⟩ := List.forall_mem_cons.mp each
    rw [Nat.ofDigitChars_cons, Nat.mul_comm 10] at fits
    have small := (le_ofDigitChars rest _).trans_lt fits
    have bounded : ((value : ℤ) * 10 + ((c.toNat - '0'.toNat : ℕ) : ℤ)) < exponentBound := by
      rw [exponentBound, twoTo_eq]
      omega
    obtain ⟨after, taken, left⟩ := ih (Cursor.rest_past cursor c (rest ++ tail)) others fits
    refine ⟨after, ?_, left⟩
    rw [Cursor.rest_past] at taken
    rw [here, List.cons_append, takeExponent, if_pos first]
    simp only
    rw [if_pos bounded, Nat.ofDigitChars_cons, Nat.mul_comm 10]
    exact_mod_cast taken

/-! Scaling. -/

/-- That digits do not overflow when they are multiplied by a power of ten. -/
def Scales (significand : ℕ) (power : ℤ) : Prop :=
  (scaleDouble? 4 (Double.ofNat significand) power).isSome = true

/-- A quotient does not overflow. -/
theorem isSome_scaleDouble? {fuel : ℕ} {x : Double} {power : ℤ} (below : power < 0) :
    (scaleDouble? fuel x power).isSome = true := by
  induction fuel generalizing x power with
  | zero => rfl
  | succ fuel ih =>
    unfold scaleDouble?
    simp only
    split
    · rw [if_neg (by omega)]
      rfl
    · split
      · rfl
      · rw [if_neg (by omega)]
        exact ih (by omega)

theorem scales_of_isFinite {power : ℕ} (small : power ≤ 308)
    (finite : ((Double.ofNat significand).mul (Double.ofDecimal 1 power)).isFinite = true) :
    Scales significand power := by
  have bounded := (Double.isFinite_eq_true_iff.mp finite).2
  unfold Scales scaleDouble?
  simp only [Int.natAbs_natCast, small, ↓reduceIte, Int.natCast_nonneg, bounded, Bool.false_eq_true]
  rfl

/-- The shortest decimal of a finite double can be read. -/
theorem scales_shortest {x : Double} (finite : x.isFinite = true) (some : 0 < x.significand) :
    Scales (x.shortest .even).digits (x.shortest .even).power ∧ (x.shortest .even).power ≤ 308 := by
  rcases lt_or_ge (x.shortest .even).power 0 with below | whole
  · exact ⟨isSome_scaleDouble? below, by omega⟩
  · obtain ⟨power, same⟩ := Int.eq_ofNat_of_zero_le whole
    obtain ⟨small, product⟩ := Double.isFinite_shortest finite some same
    rw [same]
    exact ⟨scales_of_isFinite small product, by omega⟩

theorem finishDouble_leaves {power : ℤ} (scales : Scales significand power) :
    Leaves cursor.rest (finishDouble negative significand power cursor) := by
  obtain ⟨x, scaled⟩ := Option.isSome_iff_exists.mp scales
  rw [finishDouble, scaled]
  exact ⟨_, cursor, rfl, rfl⟩

end Digits

/-! Numerals. -/

/-- A number as it is written. -/
structure Numeral where
  whole : List Char
  fraction : List Char
  exponent : Option ℤ

namespace Numeral

/-- An exponent with its sign, if there is one. -/
def exponentText : Option ℤ → List Char
  | none => []
  | some power => 'e' :: (if power < 0 then '-' else '+') :: Nat.toDigits 10 power.natAbs

/-- Digits behind a point, if there are any. -/
def fractionText : List Char → List Char
  | [] => []
  | first :: rest => '.' :: first :: rest

/-- The characters of a numeral. -/
def text (n : Numeral) : List Char := n.whole ++ (fractionText n.fraction ++ exponentText n.exponent)

/-- All its digits. -/
def significand (n : Numeral) : ℕ := Nat.ofDigitChars 10 (n.whole ++ n.fraction) 0

/-- The power of ten of the last digit. -/
def power (n : Numeral) : ℤ := n.exponent.getD 0 - n.fraction.length

/-- The number that a numeral stands for. -/
def value (n : Numeral) : ℚ := n.significand * 10 ^ n.power

/-- That a numeral is more than the digits of an integer. -/
def IsFloat (n : Numeral) : Prop := n.fraction ≠ [] ∨ n.exponent ≠ none

/-- What makes a numeral one that is read. -/
structure Readable (n : Numeral) : Prop where
  whole : n.whole = ['0'] ∨ ∃ first rest, n.whole = first :: rest ∧ first ≠ '0'
  wholeDigits : ∀ c ∈ n.whole, c.isDigit = true
  fractionDigits : ∀ c ∈ n.fraction, c.isDigit = true
  significand : n.significand < significandBound
  exponent : ∀ power ∈ n.exponent, power.natAbs < 2 ^ 31
  bounded : -exponentBound ≤ n.power ∧ n.power < exponentBound
  scales : n.IsFloat → Scales n.significand n.power

end Numeral

open Numeral

section Numerals

variable {cursor : Cursor} {tail : List Char} {negative : Bool} {significand : ℕ}

theorem Ends.isDigit (ends : Ends tail) : (tail.headD (Char.ofNat 0)).isDigit = false := by
  have all : ∀ c ∈ [Char.ofNat 0, ',', ']', '\x7d'], c.isDigit = false := by simp
  exact all _ ends

theorem isDigit_exponentText (ends : Ends tail) (exponent : Option ℤ) :
    ((exponentText exponent ++ tail).headD (Char.ofNat 0)).isDigit = false := by
  cases exponent with
  | none => exact ends.isDigit
  | some power => rfl

theorem atExponent_of_ends (ends : Ends tail) (here : cursor.rest = tail) : atExponent cursor = false := by
  have all : ∀ c ∈ [Char.ofNat 0, ',', ']', '\x7d'], (c == 'e' || c == 'E') = false := by simp
  rw [atExponent, Cursor.next, here]
  exact all _ ends

theorem readExponent_leaves {start power : ℤ} (here : cursor.rest = exponentText (some power) ++ tail)
    (ends : Ends tail) (small : power.natAbs < 2 ^ 31)
    (bounded : -exponentBound ≤ start + power ∧ start + power < exponentBound)
    (scales : Scales significand (start + power)) :
    Leaves tail (readExponent negative significand start cursor) := by
  have marked : cursor.skip.rest = (if power < 0 then '-' else '+') ::
      (Nat.toDigits 10 power.natAbs ++ tail) := Cursor.rest_skip here
  have signed := Cursor.rest_skip marked
  have lowers : (cursor.skip.next == '-') = decide (power < 0) := by
    rw [Cursor.next_eq marked]
    split
    · rename_i below
      rw [decide_eq_true below]
      rfl
    · rename_i whole
      rw [decide_eq_false whole]
      rfl
  have sign : (cursor.skip.next == '+' || decide (power < 0)) = true := by
    rw [← lowers, Cursor.next_eq marked]
    split <;> rfl
  -- There is a first digit, and the others follow it.
  obtain ⟨first, rest, split⟩ := List.exists_cons_of_ne_nil (Nat.toDigits_ne_nil (n := power.natAbs) (b := 10))
  have each : ∀ c ∈ Nat.toDigits 10 power.natAbs, c.isDigit = true :=
    fun c member => Nat.isDigit_of_mem_toDigits (by decide) (by decide) member
  rw [split, List.cons_append] at signed
  rw [split] at each
  obtain ⟨digit, others⟩ := List.forall_mem_cons.mp each
  have value : Nat.ofDigitChars 10 rest (first.toNat - '0'.toNat) = power.natAbs := by
    have whole := Nat.ofDigitChars_ten_toDigits (n := power.natAbs)
    rwa [split, Nat.ofDigitChars_cons, Nat.mul_zero, Nat.zero_add] at whole
  obtain ⟨after, taken, left⟩ := takeExponent_all (Cursor.rest_past cursor.skip.skip first _) others
    ends.isDigit (value.trans_lt small)
  rw [value, Cursor.rest_past] at taken
  have exponent : clampExponent (if decide (power < 0) = true then start - (power.natAbs : ℕ)
      else start + (power.natAbs : ℕ)) = start + power := by
    unfold clampExponent
    split
    · rename_i below
      have := of_decide_eq_true below
      omega
    · rename_i whole
      have : ¬ power < 0 := fun below => whole (decide_eq_true below)
      omega
  unfold readExponent
  simp only [lowers, sign, ↓reduceIte, signed, digit, Bool.not_true, Bool.false_eq_true, taken, exponent]
  exact left ▸ finishDouble_leaves scales

theorem readFraction_leaves {n : Numeral} (readable : n.Readable)
    (same : significand = Nat.ofDigitChars 10 n.whole 0) (some : n.fraction ≠ [])
    (here : cursor.rest = '.' :: n.fraction ++ (exponentText n.exponent ++ tail)) (ends : Ends tail) :
    Leaves tail (readFraction negative significand 0 cursor) := by
  have value : Nat.ofDigitChars 10 n.fraction significand = n.significand := by
    rw [Numeral.significand, Nat.ofDigitChars_append, same]
  obtain ⟨after, taken, left⟩ := takeDigits_all 0 (Cursor.rest_skip here)
    readable.fractionDigits (isDigit_exponentText ends n.exponent) (value.trans_lt readable.significand)
  have stop : after.next.isDigit = false := by
    rw [Cursor.next, left]
    exact isDigit_exponentText ends n.exponent
  have places : 0 + n.fraction.length ≠ 0 := by
    rw [Nat.zero_add]
    exact (List.length_pos_of_ne_nil some).ne'
  have scales := readable.scales (.inl some)
  have bounded := readable.bounded
  rw [value] at taken
  unfold readFraction
  simp only [taken, stop, Bool.false_eq_true, ↓reduceIte, places]
  cases exponent : n.exponent with
  | none =>
    rw [exponent, exponentText, List.nil_append] at left
    rw [Numeral.power, exponent, Option.getD_none] at scales
    rw [atExponent_of_ends ends left, if_neg Bool.false_ne_true, Nat.zero_add]
    exact left ▸ finishDouble_leaves scales
  | some power =>
    rw [exponent] at left
    have level : (0 : ℤ) - (0 + n.fraction.length : ℕ) + power = n.power := by
      rw [Numeral.power, exponent, Option.getD_some]
      omega
    have marked : atExponent after = true := by
      rw [atExponent, Cursor.next_eq left]
      rfl
    rw [marked, if_pos rfl]
    refine readExponent_leaves left ends (readable.exponent power exponent) ?_ ?_
    · rwa [level]
    · rwa [level]

theorem readAfterInteger_leaves {n : Numeral} (readable : n.Readable)
    (here : cursor.rest = fractionText n.fraction ++ (exponentText n.exponent ++ tail))
    (ends : Ends tail) :
    Leaves tail (readAfterInteger negative (Nat.ofDigitChars 10 n.whole 0) 0 cursor) := by
  unfold readAfterInteger
  cases fraction : n.fraction with
  | cons first rest =>
    rw [fraction] at here
    rw [if_pos (beq_iff_eq.mpr (Cursor.next_eq here)), Nat.cast_zero]
    rw [fractionText, ← fraction] at here
    exact readFraction_leaves readable rfl (by rw [fraction]; exact List.cons_ne_nil _ _) here ends
  | nil =>
    rw [fraction, fractionText, List.nil_append] at here
    have value : Nat.ofDigitChars 10 n.whole 0 = n.significand := by
      rw [Numeral.significand, fraction, List.append_nil]
    cases exponent : n.exponent with
    | some power =>
      have scales := readable.scales (.inr (by rw [exponent]; exact Option.some_ne_none _))
      have bounded := readable.bounded
      have level : (0 : ℤ) + power = n.power := by
        rw [Numeral.power, exponent, Option.getD_some, fraction, List.length_nil]
        omega
      rw [exponent] at here
      have next := Cursor.next_eq here
      have marked : atExponent cursor = true := by
        rw [atExponent, next]
        rfl
      rw [if_neg (by rw [next]; decide), if_pos marked, Nat.cast_zero, value]
      exact readExponent_leaves here ends (readable.exponent power exponent) (by rwa [level]) (by rwa [level])
    | none =>
      rw [exponent, exponentText, List.nil_append] at here
      have point : (cursor.next == '.') = false := by
        have all : ∀ c ∈ [Char.ofNat 0, ',', ']', '\x7d'], (c == '.') = false := by simp
        rw [Cursor.next, here]
        exact all _ ends
      rw [point, if_neg Bool.false_ne_true, atExponent_of_ends ends here, if_neg Bool.false_ne_true,
        if_neg (not_not.mpr rfl)]
      split
      · exact ⟨_, cursor, rfl, here⟩
      · split
        · exact ⟨_, cursor, rfl, here⟩
        · exact ⟨_, cursor, rfl, here⟩

theorem isDigit_fractionText (ends : Ends tail) (fraction : List Char) (exponent : Option ℤ) :
    ((fractionText fraction ++ (exponentText exponent ++ tail)).headD (Char.ofNat 0)).isDigit = false := by
  cases fraction with
  | nil => exact isDigit_exponentText ends exponent
  | cons first rest => rfl

/-- A numeral that can be read is read to its end. -/
theorem readNumber_leaves {n : Numeral} (readable : n.Readable) (here : cursor.rest = n.text ++ tail)
    (ends : Ends tail) : Leaves tail (readNumber negative cursor) := by
  rw [Numeral.text, List.append_assoc, List.append_assoc] at here
  have stop := isDigit_fractionText ends n.fraction n.exponent
  unfold readNumber
  rcases readable.whole with zero | ⟨first, rest, whole, other⟩
  · rw [zero] at here
    have after := Cursor.rest_past cursor '0' (fractionText n.fraction ++ (exponentText n.exponent ++ tail))
    have next : (cursor.past '0' (fractionText n.fraction ++
        (exponentText n.exponent ++ tail))).next.isDigit = false := by
      rw [Cursor.next, after]
      exact stop
    simp only [here, List.singleton_append, ↓reduceIte, next, Bool.false_eq_true]
    have found : Leaves tail (readAfterInteger negative _ 0 _) :=
      readAfterInteger_leaves readable after ends
    rwa [zero] at found
  · have digit : first.isDigit = true := by
      refine readable.wholeDigits first ?_
      rw [whole]
      exact List.mem_cons_self
    have fits : Nat.ofDigitChars 10 n.whole 0 < significandBound := by
      have value := readable.significand
      rw [Numeral.significand, Nat.ofDigitChars_append] at value
      exact (le_ofDigitChars n.fraction _).trans_lt value
    obtain ⟨after, taken, left⟩ := takeDigits_all 0 here readable.wholeDigits stop fits
    have skipped : skipDigits after.rest 0 after = (0, after) := by
      refine skipDigits_none ?_
      rw [Cursor.next, left]
      exact stop
    rw [whole, List.cons_append] at here
    simp only [here, other, ↓reduceIte, digit]
    rw [← here]
    simp only [taken, skipped]
    exact readAfterInteger_leaves readable left ends

end Numerals

/-! What is written. -/

theorem fractionText_of_ne_nil {fraction : List Char} (some : fraction ≠ []) :
    fractionText fraction = '.' :: fraction := by
  cases fraction with
  | nil => exact absurd rfl some
  | cons first rest => rfl

theorem isDigit_toDigits {n : ℕ} : ∀ c ∈ Nat.toDigits 10 n, c.isDigit = true :=
  fun _ member => Nat.isDigit_of_mem_toDigits (by decide) (by decide) member

theorem isDigit_zeros (count : ℕ) : ∀ c ∈ List.replicate count '0', c.isDigit = true :=
  fun _ member => List.eq_of_mem_replicate member ▸ rfl

theorem isDigit_append {left right : List Char} (first : ∀ c ∈ left, c.isDigit = true)
    (second : ∀ c ∈ right, c.isDigit = true) : ∀ c ∈ left ++ right, c.isDigit = true :=
  fun c member => (List.mem_append.mp member).elim (first c) (second c)

theorem readable_natural {n : ℕ} (small : n < significandBound) :
    (Numeral.mk (Nat.toDigits 10 n) [] none).Readable where
  whole := by
    rcases Nat.eq_zero_or_pos n with rfl | some
    · exact .inl (Nat.toDigits_zero 10)
    · exact .inr (toDigits_cons some)
  wholeDigits := isDigit_toDigits
  fractionDigits := fun _ member => (List.not_mem_nil member).elim
  significand := by
    rw [Numeral.significand, List.append_nil, Nat.ofDigitChars_ten_toDigits]
    exact small
  exponent := nofun
  bounded := show -exponentBound ≤ (0 : ℤ) - 0 ∧ (0 : ℤ) - 0 < exponentBound by decide
  scales := fun some => some.elim (fun none => absurd rfl none) (fun none => absurd rfl none)

theorem value_natural (n : ℕ) : (Numeral.mk (Nat.toDigits 10 n) [] none).value = n := by
  have power : (Numeral.mk (Nat.toDigits 10 n) [] none).power = 0 := rfl
  rw [Numeral.value, power, zpow_zero, mul_one, Numeral.significand, List.append_nil,
    Nat.ofDigitChars_ten_toDigits]

theorem readable_zero : (Numeral.mk ['0'] ['0'] none).Readable where
  whole := .inl rfl
  wholeDigits := by simp
  fractionDigits := by simp
  significand := by decide
  exponent := nofun
  bounded := by decide
  scales := fun _ => isSome_scaleDouble? (by decide)

/-- A decimal whose digits fit into a significand and do not overflow. -/
structure Fits (d : Decimal) : Prop where
  positive : 0 < d.digits
  short : d.digits ≤ 10 ^ 17
  low : -1091 ≤ d.power
  high : d.power ≤ 308
  scales : Scales d.digits d.power

section Decimals

variable {d : Decimal}

theorem Fits.width (fits : Fits d) : d.width ≤ 18 :=
  (Nat.length_toDigits_le_iff (by decide) (by decide)).mpr (fits.short.trans_lt (by decide))

/-- A numeral with the digits and the power of a decimal that fits. -/
theorem Fits.readable {n : Numeral} (fits : Fits d) (significand : n.significand = d.digits)
    (power : n.power = d.power)
    (whole : n.whole = ['0'] ∨ ∃ first rest, n.whole = first :: rest ∧ first ≠ '0')
    (wholeDigits : ∀ c ∈ n.whole, c.isDigit = true) (fractionDigits : ∀ c ∈ n.fraction, c.isDigit = true)
    (exponent : ∀ power ∈ n.exponent, power.natAbs < 2 ^ 31) : n.Readable where
  whole := whole
  wholeDigits := wholeDigits
  fractionDigits := fractionDigits
  significand := significand ▸ fits.short.trans_lt (by decide)
  exponent := exponent
  bounded := by
    have low := fits.low
    have high := fits.high
    have bound : exponentBound = 2 ^ 31 := rfl
    omega
  scales := fun _ => by
    rw [significand, power]
    exact fits.scales

/-- The digits of an integral decimal, with zeros at its end and one zero behind the point. -/
theorem significand_integral (d : Decimal) (power : ℕ) :
    (Numeral.mk (Nat.toDigits 10 d.digits ++ List.replicate power '0') ['0'] none).significand =
      10 * (10 ^ power * d.digits) := by
  rw [Numeral.significand, Nat.ofDigitChars_append, Nat.ofDigitChars_append,
    Nat.ofDigitChars_ten_toDigits, Nat.ofDigitChars_replicate_zero]
  rfl

theorem value_integral {power : ℕ} (same : d.power = power) :
    (Numeral.mk (Nat.toDigits 10 d.digits ++ List.replicate power '0') ['0'] none).value = d.value := by
  have last : (Numeral.mk (Nat.toDigits 10 d.digits ++ List.replicate power '0') ['0'] none).power = -1 :=
    rfl
  rw [Numeral.value, significand_integral, last, Decimal.value, same, zpow_natCast, zpow_neg_one]
  push_cast
  ring

theorem readable_integral (fits : Fits d) {power : ℕ} (same : d.power = power)
    (below : d.leading < 16) :
    (Numeral.mk (Nat.toDigits 10 d.digits ++ List.replicate power '0') ['0'] none).Readable where
  whole := by
    obtain ⟨first, rest, split, other⟩ := toDigits_cons fits.positive
    exact .inr ⟨first, _, by rw [split]; rfl, other⟩
  wholeDigits := isDigit_append isDigit_toDigits (isDigit_zeros power)
  fractionDigits := List.forall_mem_singleton.mpr rfl
  significand := by
    have size : power + d.width ≤ 16 := by
      rw [Decimal.leading, same] at below
      omega
    have digits : d.digits < 10 ^ d.width := (Double.toDigits_bounds fits.positive).2
    rw [significand_integral]
    calc 10 * (10 ^ power * d.digits) ≤ 10 * (10 ^ power * 10 ^ d.width) := by gcongr
      _ = 10 * 10 ^ (power + d.width) := by rw [← pow_add]
      _ ≤ 10 * 10 ^ 16 := by
        gcongr
        norm_num
      _ < significandBound := by decide
  exponent := nofun
  bounded := show -exponentBound ≤ (0 : ℤ) - 1 ∧ (0 : ℤ) - 1 < exponentBound by decide
  scales := fun _ => isSome_scaleDouble? (show (0 : ℤ) - 1 < 0 by decide)

/-- A numeral with the digits and the power of a decimal stands for it. -/
theorem value_of_parts {n : Numeral} (significand : n.significand = d.digits) (power : n.power = d.power) :
    n.value = d.value := by
  rw [Numeral.value, Decimal.value, significand, power]

/-- A decimal without an exponent is a numeral. -/
theorem text_positional (fits : Fits d) (below : d.leading < 16) : ∃ n : Numeral, n.Readable ∧
    (Layout.positional d).toList = n.text ∧ n.IsFloat ∧ n.value = d.value := by
  obtain ⟨first, rest, split, other⟩ := toDigits_cons fits.positive
  unfold Layout.positional
  simp only
  by_cases whole : 0 ≤ d.power
  · obtain ⟨power, same⟩ := Int.eq_ofNat_of_zero_le whole
    refine ⟨_, readable_integral fits same below, ?_, .inl (List.cons_ne_nil _ _), value_integral same⟩
    rw [if_pos whole, same, Int.toNat_natCast, String.toList_append, String.toList_ofList]
    rfl
  · obtain ⟨places, same⟩ := Int.eq_ofNat_of_zero_le (by omega : 0 ≤ -d.power)
    rw [if_neg whole, same, Int.toNat_natCast]
    have some : 0 < places := by omega
    obtain ⟨digits, isDigits⟩ : ∃ digits, digits = Nat.toDigits 10 d.digits := ⟨_, rfl⟩
    rw [← isDigits]
    have each : ∀ c ∈ digits, c.isDigit = true := isDigits ▸ isDigit_toDigits
    have value : Nat.ofDigitChars 10 digits 0 = d.digits := isDigits ▸ Nat.ofDigitChars_ten_toDigits
    have count : (List.replicate (places - digits.length) '0' ++
        digits.drop (digits.length - places)).length = places := by
      rw [List.length_append, List.length_replicate, List.length_drop]
      omega
    have fractionDigits : ∀ c ∈ List.replicate (places - digits.length) '0' ++
        digits.drop (digits.length - places), c.isDigit = true :=
      isDigit_append (isDigit_zeros _) fun c member => each c (List.mem_of_mem_drop member)
    have nonempty : List.replicate (places - digits.length) '0' ++
        digits.drop (digits.length - places) ≠ [] := by
      intro empty
      rw [empty, List.length_nil] at count
      omega
    obtain ⟨n, isNumeral⟩ : ∃ n : Numeral, n = ⟨if digits.length - places = 0 then ['0'] else
        digits.take (digits.length - places), List.replicate (places - digits.length) '0' ++
          digits.drop (digits.length - places), none⟩ := ⟨_, rfl⟩
    have significand : n.significand = d.digits := by
      rw [isNumeral, Numeral.significand]
      split
      · rename_i inner
        rw [inner, List.drop_zero, List.singleton_append, Nat.ofDigitChars_cons,
          Nat.ofDigitChars_append, Nat.ofDigitChars_replicate_zero]
        exact value
      · rename_i outer
        have none : places - digits.length = 0 := by omega
        rw [none, List.replicate_zero, List.nil_append, List.take_append_drop]
        exact value
    have power : n.power = d.power := by
      rw [isNumeral, Numeral.power, count, Option.getD_none]
      omega
    refine ⟨n, fits.readable significand power ?_ ?_ ?_ ?_, ?_, .inl ?_, value_of_parts significand power⟩
    all_goals subst isNumeral
    · split
      · exact .inl rfl
      · rename_i outer
        obtain ⟨width, isWidth⟩ := Nat.exists_eq_succ_of_ne_zero outer
        refine .inr ⟨first, rest.take width, ?_, other⟩
        rw [isWidth, isDigits, split, List.take_succ_cons]
    · split
      · exact List.forall_mem_singleton.mpr rfl
      · exact fun c member => each c (List.mem_of_mem_take member)
    · exact fractionDigits
    · exact nofun
    · rw [Numeral.text, fractionText_of_ne_nil nonempty, String.toList_ofList, exponentText, List.append_nil]
    · exact nonempty

/-- A decimal with an exponent is a numeral. -/
theorem text_scientific (fits : Fits d) : ∃ n : Numeral, n.Readable ∧
    (numberLayout.scientific d).toList = n.text ∧ n.IsFloat ∧ n.value = d.value := by
  obtain ⟨first, rest, split, other⟩ := toDigits_cons fits.positive
  have width := fits.width
  have low := fits.low
  have high := fits.high
  have each : ∀ c ∈ first :: rest, c.isDigit = true := split ▸ isDigit_toDigits
  obtain ⟨digit, others⟩ := List.forall_mem_cons.mp each
  have value : Nat.ofDigitChars 10 (first :: rest) 0 = d.digits := split ▸ Nat.ofDigitChars_ten_toDigits
  have size : d.width = rest.length + 1 := by rw [Decimal.width, split, List.length_cons]
  have leading : d.leading = d.power + rest.length := by
    rw [Decimal.leading, size]
    push_cast
    omega
  have power : (Numeral.mk [first] rest (some d.leading)).power = d.power := by
    rw [Numeral.power, Option.getD_some, leading, add_sub_cancel_right]
  refine ⟨⟨[first], rest, some d.leading⟩, fits.readable value power ?_ ?_ others ?_, ?_,
    .inr (Option.some_ne_none _), value_of_parts value power⟩
  · exact .inr ⟨first, [], rfl, other⟩
  · exact List.forall_mem_singleton.mpr digit
  · rintro _ ⟨⟩
    omega
  · have padded : (Layout.padded numberLayout.exponentWidth d.leading.natAbs).toList =
        Nat.toDigits 10 d.leading.natAbs := by
      have none : numberLayout.exponentWidth - (Nat.toDigits 10 d.leading.natAbs).length = 0 :=
        Nat.sub_eq_zero_of_le Nat.length_toDigits_pos
      rw [Layout.padded, String.toList_ofList, none, List.replicate_zero, List.nil_append]
    have sign : (if d.leading < 0 then "-" else numberLayout.plus).toList =
        [if d.leading < 0 then '-' else '+'] := by
      split <;> rfl
    unfold Layout.scientific
    simp only [split, String.toList_append, String.toList_ofList, sign, padded, List.append_assoc]
    cases rest with
    | nil => rfl
    | cons next more => rfl

end Decimals

/-- A finite double is written as a sign and a numeral that can be read. -/
theorem text_float {x : Double} (finite : x.isFinite = true) : ∃ n : Numeral, n.Readable ∧
    (numberLayout.write x).toList = (if x.isNegative then ['-'] else []) ++ n.text ∧ n.IsFloat ∧
      n.value = if x.isZero then 0 else (x.shortest .even).value := by
  obtain ⟨number, bounded⟩ := Double.isFinite_eq_true_iff.mp finite
  have sign : (if x.isNegative then "-" else "").toList = if x.isNegative then ['-'] else [] := by
    split <;> rfl
  unfold Layout.write
  simp only [number, bounded, Bool.false_eq_true, ↓reduceIte]
  split
  · refine ⟨_, readable_zero, ?_, .inl (List.cons_ne_nil _ _), ?_⟩
    · rw [String.toList_append, sign]
      rfl
    · have zero : (Numeral.mk ['0'] ['0'] none).significand = 0 := rfl
      rw [Numeral.value, zero, Nat.cast_zero, zero_mul]
  · rename_i nonzero
    have some : 0 < x.significand := by
      rw [Double.isZero, finite, Bool.true_and, beq_iff_eq] at nonzero
      exact Nat.pos_of_ne_zero nonzero
    obtain ⟨scales, high⟩ := scales_shortest finite some
    obtain ⟨positive, short, low, -⟩ := Double.shortest_spec .even some
    have fits : Fits (x.shortest .even) := ⟨positive, short, low, high, scales⟩
    obtain ⟨n, readable, text, float⟩ : ∃ n : Numeral, n.Readable ∧
        (numberLayout.decimal (x.shortest numberLayout.tie)).toList = n.text ∧ n.IsFloat ∧
          n.value = (x.shortest .even).value := by
      unfold Layout.decimal
      split
      · rename_i near
        exact text_positional fits near.2
      · exact text_scientific fits
    refine ⟨n, readable, ?_, float⟩
    rw [String.toList_append, sign, text]

/-- An integer is written as a sign and a numeral that can be read. -/
theorem text_integer {n : ℤ} (wide : -2 ^ 63 ≤ n ∧ n < 2 ^ 64) : ∃ numeral : Numeral, numeral.Readable ∧
    (toString n).toList = (if n < 0 then ['-'] else []) ++ numeral.text ∧ ¬ numeral.IsFloat ∧
      numeral.value = n.natAbs := by
  have bound : significandBound = 2 ^ 64 := rfl
  have text (n : ℕ) : (toString n).toList = (Numeral.mk (Nat.toDigits 10 n) [] none).text := by
    rw [Nat.toString_eq_ofList_toDigits, String.toList_ofList]
    exact (List.append_nil _).symm
  have plain (n : ℕ) : ¬ (Numeral.mk (Nat.toDigits 10 n) [] none).IsFloat :=
    fun some => some.elim (fun none => none rfl) fun none => none rfl
  cases n with
  | ofNat n =>
    have small : n < significandBound := Int.ofNat_lt.mp wide.2
    exact ⟨_, readable_natural small, text n, plain n, value_natural n⟩
  | negSucc n =>
    refine ⟨_, readable_natural (by omega : n + 1 < significandBound), ?_, plain (n + 1),
      value_natural (n + 1)⟩
    rw [if_pos (Int.negSucc_lt_zero n), ← text]
    exact String.toList_append

end ForeignBridge.Json
