import ForeignBridge.Number.Digits

/-! # Arithmetic of doubles

Roots, remainders and rounding of doubles, each computed exactly and rounded once, and the functions
that are left to the doubles of the machine.
-/

namespace ForeignBridge

/-- The largest natural number whose square is not above another, between two bounds. -/
def squareRootBetween (n : Nat) : Nat → Nat → Nat → Nat
  | 0, low, _ => low
  | fuel + 1, low, high =>
    if high ≤ low + 1 then low
    else
      let middle := (low + high) / 2
      if middle * middle ≤ n then squareRootBetween n fuel middle high
      else squareRootBetween n fuel low middle

/-- The largest natural number whose square is not above another. -/
def squareRoot (n : Nat) : Nat := squareRootBetween n (n.log2 + 3) 0 (twoTo (n.log2 / 2 + 1) + 1)

namespace Double

/-- The square root of a number times a power of four, rounded once. -/
def rootScaled (n : Nat) (power : Int) : Double :=
  let room := 130 - n.log2 / 2
  let scaled := n * twoTo (2 * room)
  let root := squareRoot scaled
  let sticky := if root * root = scaled then 2 * root else 2 * root + 1
  .ofScaled false sticky (power - room - 1)

/-- The square root of a double that is not negative. -/
def root (x : Double) : Double :=
  if x.isZero ∨ !x.isFinite then x
  else if x.scale % 2 = 0 then rootScaled x.significand (x.scale / 2)
  else rootScaled (2 * x.significand) ((x.scale - 1) / 2)

/-- The length of a vector, rounded once. -/
def hypotenuse (parts : List Double) : Double :=
  if parts.any isInfinite then .infinity false
  else if parts.any isNaN then .nan
  else
    let power := parts.foldl (fun least x => min least x.scale) 1024
    let squares := parts.foldl (fun total x =>
      let units := (x.unitsAt power).natAbs
      total + units * units) 0
    if squares = 0 then .zero false else rootScaled squares power

/-- The remainder of doubles with the sign of the dividend, for a finite dividend and a divisor that
is not zero. -/
def remainder (x y : Double) : Double :=
  if y.isNaN then .nan
  else if y.isInfinite then x
  else
    let power := min x.scale y.scale
    let rest := (x.unitsAt power).natAbs % (y.unitsAt power).natAbs
    if rest = 0 then .zero x.isNegative else .ofScaled x.isNegative rest power

/-- The floor of a double as a double, with the sign of a zero kept. -/
def floorDouble (x : Double) : Double :=
  if !x.isFinite then x
  else
    let n := x.floor
    if n = 0 then .zero x.isNegative else .ofInt n

/-- The quotient of doubles rounded down and the remainder with the sign of the divisor. -/
def divMod (x y : Double) : Double × Double :=
  if x.isNaN || y.isNaN || x.isInfinite then (.nan, .nan)
  else
    let rest := remainder x y
    let quotient := (x.sub rest).div y
    let (rest, quotient) :=
      if rest.isZero then (zero y.isNegative, quotient)
      else if y.isNegative != rest.isNegative then (rest.add y, quotient.sub (.ofInt 1))
      else (rest, quotient)
    let floored :=
      if quotient.isZero then zero (x.isNegative != y.isNegative)
      else
        let low := floorDouble quotient
        if (quotient.sub low).compare? (.ofDecimal 5 (-1)) == some .gt then low.add (.ofInt 1)
        else low
    (floored, rest)

/-- A finite double as a rational. -/
def ratio (x : Double) : Int × Nat :=
  let (num, den) := x.quotient
  (if x.isNegative then -(num : Int) else num, den)

/-- A double rounded to a number of decimal places. -/
def roundPlaces (x : Double) (places : Int) : Double :=
  if !x.isFinite ∨ 323 < places then x
  else if places < -308 then .zero x.isNegative
  else
    let (num, den) := x.quotient
    let scaled := if 0 ≤ places then nearestInt (num * tenTo places.toNat : Nat) den
      else nearestInt num (den * tenTo (-places).toNat)
    let value := Double.ofDecimal scaled.toNat (-places)
    if x.isNegative then value.neg else value

/-- The spelling of a double in base sixteen. -/
def hexText (x : Double) : String :=
  let sign := if x.isNegative && !x.isNaN then "-" else ""
  if !x.isFinite then sign ++ (if x.isNaN then "nan" else "inf")
  else if x.isZero then sign ++ "0x0.0p+0"
  else
    let lead := if x.exponentField = 0 then "0" else "1"
    let power : Int := if x.exponentField = 0 then -1022 else (x.exponentField : Int) - 1023
    let digits := Nat.toDigits 16 x.fractionField
    let digits := String.ofList (List.replicate (13 - digits.length) '0' ++ digits)
    sign ++ "0x" ++ lead ++ "." ++ digits ++ "p" ++ (if power < 0 then "-" else "+") ++
      toString power.natAbs

/-- A function of the machine's doubles. -/
def byMachine (function : Float → Float) (x : Double) : Double :=
  ⟨(function (Float.ofBits x.bits)).toBits⟩

/-- A function of two of the machine's doubles. -/
def byMachine₂ (function : Float → Float → Float) (x y : Double) : Double :=
  ⟨(function (Float.ofBits x.bits) (Float.ofBits y.bits)).toBits⟩

def one : Double := .ofInt 1

end Double

end ForeignBridge
