import ForeignBridge.Number.Layout

/-! # Digits of doubles

The digits of a double in the layouts that a program can ask for: with an exponent, without one, and
whichever of the two is shorter. Digits are rounded once, from the exact value, a half to the even
digit.
-/

namespace ForeignBridge

/-- Doubles from `1e-4` up to but not including `1e16` have no exponent; an exponent has a sign and
at least two digits. -/
def sourceLayout : Layout where
  least := -4
  bound := 16
  plus := "+"
  exponentWidth := 2
  notANumber := "nan"
  infinite := "inf"
  tie := .even

/-- A rational rounded to the nearest integer, a half to the even one. -/
def nearestInt (num : Int) (den : Nat) : Int :=
  let low := Int.fdiv num den
  let twice := 2 * (num - low * den)
  if twice < den then low
  else if (den : Int) < twice then low + 1
  else if low % 2 = 0 then low else low + 1

/-- Digits of a number that is not negative, and how many of them stand before the point. -/
structure Digits where
  digits : List Char
  point : Int
deriving Repr, Inhabited

namespace Digits

/-- The digits of a natural number times a power of ten. -/
def ofScaled (n : Nat) (power : Int) : Digits :=
  if n = 0 then ⟨['0'], 1⟩
  else
    let digits := Nat.toDigits 10 n
    ⟨digits, digits.length + power⟩

/-- The fewest digits that read back. -/
def shortest (x : Double) : Digits :=
  if x.isZero then ⟨['0'], 1⟩
  else
    let found := x.shortest .even
    ofScaled found.digits found.power

/-- A quotient in units of a power of ten, rounded. -/
def inUnits (num den : Nat) (power : Int) : Nat :=
  (if 0 ≤ power then nearestInt num (den * tenTo power.toNat)
    else nearestInt (num * tenTo (-power).toNat : Nat) den).toNat

/-- So many digits from the first one on that is not zero. -/
def significant (x : Double) (count : Nat) : Digits :=
  if x.isZero then ⟨['0'], 1⟩
  else
    let (num, den) := x.quotient
    let power := Double.leadingPower num den - count + 1
    ofScaled (inUnits num den power) power

/-- The digits up to so many places behind the point. -/
def places (x : Double) (count : Nat) : Digits :=
  let (num, den) := x.quotient
  match inUnits num den (-(count : Int)) with
  | 0 => ⟨[], -(count : Int)⟩
  | n => ofScaled n (-(count : Int))

/-- The digit at a place. -/
def digitAt (digits : Digits) (place : Int) : Char :=
  if place < 0 then '0' else digits.digits[place.toNat]?.getD '0'

/-- The digits from one place up to another. -/
def between (digits : Digits) (start stop : Int) : List Char :=
  (List.range (stop - start).toNat).map fun (step : Nat) => digits.digitAt (start + step)

/-- The digits up to a place with a point; a point at the end stays if it is asked for. -/
def pointed (digits : Digits) (stop : Int) (pointStays : Bool) : List Char :=
  let fraction := digits.between digits.point stop
  digits.between (if digits.point ≤ 0 then digits.point - 1 else 0) digits.point ++
    (if fraction.isEmpty && !pointStays then [] else '.' :: fraction)

/-- The digits without zeros at their end. -/
def trimmed (digits : Digits) : Digits :=
  match (digits.digits.reverse.dropWhile (· == '0')).reverse with
  | [] => ⟨['0'], 1⟩
  | kept => { digits with digits := kept }

/-- A power of ten as an exponent. -/
def exponent (power : Int) : List Char :=
  'e' :: (if power < 0 then '-' else '+') :: (Layout.padded 2 power.natAbs).toList

/-- The digits with an exponent, up to so many of them. -/
def scientific (digits : Digits) (count : Nat) (pointStays : Bool) : List Char :=
  pointed { digits with point := 1 } count pointStays ++ exponent (digits.point - 1)

/-- The digits with an exponent if the point stands far from them, up to so many of them. -/
def general (digits : Digits) (count : Nat) (bound : Int) (pointStays endsInZero : Bool) :
    List Char :=
  if digits.point ≤ -4 ∨ bound < digits.point then digits.scientific count pointStays
  else
    let stop : Int := count
    digits.pointed (if endsInZero ∧ stop ≤ digits.point then digits.point + 1 else stop) pointStays

end Digits

/-- A layout that a program asks for. -/
structure NumberLayout where
  /-- With an exponent, without one, in general, or with the fewest digits that read back: one of
  the letters e, f, g and r. -/
  kind : Char
  precision : Nat
  /-- Whether a point, and zeros in front of it, stay at the end. -/
  alternate : Bool
  /-- Whether an integral value without an exponent ends in a zero. -/
  endsInZero : Bool

namespace NumberLayout

/-- The text of a double without its sign. -/
def write (layout : NumberLayout) (x : Double) : List Char :=
  if x.isNaN then "nan".toList
  else if x.isInfinite then "inf".toList
  else
    match layout.kind with
    | 'e' => (Digits.significant x (layout.precision + 1)).scientific (layout.precision + 1)
        layout.alternate
    | 'f' =>
      let digits := Digits.places x layout.precision
      digits.pointed (digits.point + layout.precision) layout.alternate
    | 'g' =>
      let count := max layout.precision 1
      let found := Digits.significant x count
      let digits := if layout.alternate then found else found.trimmed
      digits.general (if layout.alternate then count else digits.digits.length)
        (if layout.endsInZero then (count : Int) - 1 else count) layout.alternate layout.endsInZero
    | _ =>
      let digits := Digits.shortest x
      digits.general digits.digits.length 16 layout.alternate layout.endsInZero

end NumberLayout

end ForeignBridge
