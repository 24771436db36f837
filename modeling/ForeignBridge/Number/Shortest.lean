import ForeignBridge.Number.Double

/-! # Shortest decimals

The shortest decimal of a positive finite double is the decimal with the fewest significant digits
among those that round to the double; of several with that many digits it is the nearest. A digit
count is tried after another, and at each only the two decimals around the double matter, since
any decimal that rounds to it has one of these between itself and the double. Of two that are
equally near, a format takes the greater or the one with an even last digit.
-/

namespace ForeignBridge

/-- Which of two equally near decimals is taken. -/
inductive Tie where
  /-- The one with an even last digit. -/
  | even
  /-- The greater one. -/
  | up
deriving DecidableEq, Repr, Inhabited

/-- A positive decimal `digits * 10 ^ power`, with as few digits as its value allows. -/
structure Decimal where
  digits : Nat
  power : Int
deriving DecidableEq, Repr, Inhabited

namespace Decimal

/-- How many digits there are. -/
def width (d : Decimal) : Nat := (Nat.toDigits 10 d.digits).length

/-- The power of ten of the first digit. -/
def leading (d : Decimal) : Int := d.power + (d.width : Int) - 1

/-- Zeros at the end of the digits moved into the power, up to a number of times. -/
def trim : Nat → Decimal → Decimal
  | 0, d => d
  | fuel + 1, d =>
    if d.digits ≠ 0 ∧ d.digits % 10 = 0 then trim fuel ⟨d.digits / 10, d.power + 1⟩ else d

end Decimal

/-- The reals that round to a double, in units of a quarter of the last place of its significand:
the ends belong to the interval exactly when the significand is even. -/
structure RoundingInterval where
  low : Nat
  middle : Nat
  high : Nat
  closed : Bool
  /-- The power of two of the unit. -/
  unit : Int
deriving Repr

namespace RoundingInterval

/-- The interval of a positive finite double. Below a power of two the next double is half as far
away, except at the least exponent. -/
def ofDouble (x : Double) : RoundingInterval :=
  let m := x.significand
  let narrow := m = twoTo 52 ∧ -1074 < x.scale
  { low := if narrow then 4 * m - 1 else 4 * m - 2
    middle := 4 * m
    high := 4 * m + 2
    closed := m % 2 == 0
    unit := x.scale - 2 }

/-- A number of units as a quotient of naturals. -/
def quotient (i : RoundingInterval) (units : Nat) : Nat × Nat :=
  if 0 ≤ i.unit then (units * twoTo i.unit.toNat, 1) else (units, twoTo (-i.unit).toNat)

/-- Whether `digits * 10 ^ power` rounds to the double. -/
def contains (i : RoundingInterval) (digits : Nat) (power : Int) : Bool :=
  let (lowNum, den) := i.quotient i.low
  let (highNum, _) := i.quotient i.high
  let (scaled, factor) :=
    if 0 ≤ power then (digits * tenTo power.toNat * den, 1) else (digits * den, tenTo (-power).toNat)
  if i.closed then decide (lowNum * factor ≤ scaled ∧ scaled ≤ highNum * factor)
  else decide (lowNum * factor < scaled ∧ scaled < highNum * factor)

end RoundingInterval

namespace Double

/-- The power of ten of the first digit of a positive quotient. -/
def leadingPower (num den : Nat) : Int :=
  if den ≤ num then ((Nat.toDigits 10 (num / den)).length : Int) - 1
  else
    let guess := (Nat.toDigits 10 (den / num)).length
    if den ≤ num * tenTo (guess - 1) then 1 - (guess : Int) else -(guess : Int)

/-- The nearest decimal on the grid of multiples of `10 ^ power` that rounds to the double, if one
of the two around it does. -/
def decimalOnGrid? (tie : Tie) (x : Double) (power : Int) : Option Decimal :=
  let interval := RoundingInterval.ofDouble x
  let (num, den) := x.quotient
  let (top, bottom) :=
    if 0 ≤ power then (num, den * tenTo power.toNat) else (num * tenTo (-power).toNat, den)
  let low := top / bottom
  let rest := top % bottom
  let lowFits := decide (0 < low) && interval.contains low power
  let highFits := interval.contains (low + 1) power
  let lowTie := tie == .even && low % 2 == 0
  if lowFits && (!highFits || 2 * rest < bottom || (2 * rest = bottom && lowTie)) then
    some ⟨low, power⟩
  else if highFits then some ⟨low + 1, power⟩
  else none

/-- The first grid with a decimal for the double, trying one more digit each time. -/
def firstDecimal (tie : Tie) (x : Double) : Nat → Int → Decimal
  | 0, power => (x.decimalOnGrid? tie power).getD ⟨0, power⟩
  | fuel + 1, power => (x.decimalOnGrid? tie power).getD (firstDecimal tie x fuel (power - 1))

/-- The shortest decimal of a positive finite double. Seventeen digits always suffice. -/
def shortest (tie : Tie) (x : Double) : Decimal :=
  let (num, den) := x.quotient
  Decimal.trim 18 (firstDecimal tie x 16 (leadingPower num den))

end Double

end ForeignBridge
