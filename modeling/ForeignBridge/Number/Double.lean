/-! # Doubles

A double is its 64 bits. Its value is read off the three bit fields, and every operation computes
the exact rational result and rounds it once, to the nearest double with ties to the even
significand, so nothing here depends on floating point hardware.
-/

namespace ForeignBridge

/-- Two to a power. -/
def twoTo (power : Nat) : Nat := Nat.pow 2 power

/-- Ten to a power. -/
def tenTo (power : Nat) : Nat := Nat.pow 10 power

/-- The integers of 64 bits with a sign. -/
abbrev FitsInt64 (n : Int) : Prop := -0x8000000000000000 ≤ n ∧ n < 0x8000000000000000

/-- An IEEE-754 double, given by its bits. -/
structure Double where
  bits : UInt64
deriving DecidableEq, Repr, Inhabited

namespace Double

/-- The sign bit. -/
def isNegative (x : Double) : Bool := decide (twoTo 63 ≤ x.bits.toNat)

/-- The eleven exponent bits. -/
def exponentField (x : Double) : Nat := x.bits.toNat / twoTo 52 % 2048

/-- The fifty-two fraction bits. -/
def fractionField (x : Double) : Nat := x.bits.toNat % twoTo 52

/-- Neither a number nor an infinity. -/
def isNaN (x : Double) : Bool := x.exponentField == 2047 && x.fractionField != 0

/-- One of the two infinities. -/
def isInfinite (x : Double) : Bool := x.exponentField == 2047 && x.fractionField == 0

/-- A real number. -/
def isFinite (x : Double) : Bool := x.exponentField != 2047

/-- The integer part of the magnitude `significand * 2 ^ scale`. -/
def significand (x : Double) : Nat :=
  if x.exponentField = 0 then x.fractionField else twoTo 52 + x.fractionField

/-- The power of two in the magnitude `significand * 2 ^ scale`. -/
def scale (x : Double) : Int :=
  if x.exponentField = 0 then -1074 else (x.exponentField : Int) - 1075

/-- The double with a given sign and the given lower 63 bits. -/
def pack (negative : Bool) (magnitude : Nat) : Double :=
  ⟨UInt64.ofNat ((if negative then twoTo 63 else 0) + magnitude)⟩

/-- The bits of infinity without its sign. -/
def infinityBits : Nat := 2047 * twoTo 52

def zero (negative : Bool) : Double := pack negative 0
def infinity (negative : Bool) : Double := pack negative infinityBits
def nan : Double := pack false (infinityBits + twoTo 51)

/-- The same bits with the sign flipped. -/
def neg (x : Double) : Double := pack (!x.isNegative) (x.bits.toNat % twoTo 63)

/-- The same bits with the sign cleared. -/
def abs (x : Double) : Double := pack false (x.bits.toNat % twoTo 63)

/-- A quotient rounded to the nearest integer, ties to even. -/
def roundQuotient (num den : Nat) : Nat :=
  let low := num / den
  let rest := num % den
  if 2 * rest < den then low
  else if den < 2 * rest then low + 1
  else low + low % 2

/-- A quotient of `num` and `den` scaled by the inverse of `2 ^ power`, as a new quotient. -/
def descale (num den : Nat) (power : Int) : Nat × Nat :=
  if 0 ≤ power then (num, den * twoTo power.toNat) else (num * twoTo (-power).toNat, den)

/-- The power of two at which the quotient has a significand of 53 bits, or the least one there
is. -/
def quotientScale (num den : Nat) : Int :=
  let guess : Int := (num.log2 : Int) - (den.log2 : Int) - 53
  let (top, bottom) := descale num den guess
  max (-1074) (if twoTo 53 ≤ top / bottom then guess + 1 else guess)

/-- The lower 63 bits for a significand at a scale. A significand of `2 ^ 53` carries into the
exponent, and an exponent beyond the largest gives infinity. -/
def magnitudeBits (significand : Nat) (scale : Int) : Nat :=
  if significand < twoTo 52 then significand
  else min infinityBits ((scale + 1074).toNat * twoTo 52 + significand)

/-- The double nearest to `num / den` with the given sign. -/
def ofQuotient (negative : Bool) (num den : Nat) : Double :=
  if num = 0 then zero negative
  else
    let scale := quotientScale num den
    let (top, bottom) := descale num den scale
    pack negative (magnitudeBits (roundQuotient top bottom) scale)

/-- The double nearest to `significand * 2 ^ power` with the given sign. -/
def ofScaled (negative : Bool) (significand : Nat) (power : Int) : Double :=
  if 0 ≤ power then ofQuotient negative (significand * twoTo power.toNat) 1
  else ofQuotient negative significand (twoTo (-power).toNat)

/-- The double nearest to an integer. -/
def ofInt (n : Int) : Double := ofQuotient (decide (n < 0)) n.natAbs 1

/-- The double nearest to a natural number. -/
def ofNat (n : Nat) : Double := ofQuotient false n 1

/-- The double nearest to `significand * 10 ^ power`. -/
def ofDecimal (significand : Nat) (power : Int) : Double :=
  if 0 ≤ power then ofQuotient false (significand * tenTo power.toNat) 1
  else ofQuotient false significand (tenTo (-power).toNat)

/-- The magnitude of a finite double as a quotient of naturals. -/
def quotient (x : Double) : Nat × Nat :=
  if 0 ≤ x.scale then (x.significand * twoTo x.scale.toNat, 1)
  else (x.significand, twoTo (-x.scale).toNat)

/-- The integer that a finite double equals, if it equals one. -/
def toInt? (x : Double) : Option Int :=
  if x.isFinite then
    let (num, den) := x.quotient
    if num % den = 0 then
      some (if x.isNegative then -((num / den : Nat) : Int) else ((num / den : Nat) : Int))
    else none
  else none

/-- The largest integer not above a finite double. -/
def floor (x : Double) : Int :=
  let (num, den) := x.quotient
  if x.isNegative then -(((num + den - 1) / den : Nat) : Int) else ((num / den : Nat) : Int)

/-- The smallest integer not below a finite double. -/
def ceil (x : Double) : Int := -(x.neg.floor)

/-- The integer part of a finite double. -/
def truncate (x : Double) : Int := if x.isNegative then x.ceil else x.floor

/-- The signed significand of a finite double. -/
def signedSignificand (x : Double) : Int :=
  if x.isNegative then -(x.significand : Int) else x.significand

/-- The significand of a finite double counted in units of `2 ^ power`, for a power not above its
own scale. -/
def unitsAt (x : Double) (power : Int) : Int :=
  x.signedSignificand * twoTo (x.scale - power).toNat

def isZero (x : Double) : Bool := x.isFinite && x.significand == 0

/-- The sum, rounded. An exact zero sum is negative only if both terms are. -/
def add (x y : Double) : Double :=
  if x.isNaN || y.isNaN then nan
  else if x.isInfinite then
    if y.isInfinite && x.isNegative != y.isNegative then nan else x
  else if y.isInfinite then y
  else
    let power := min x.scale y.scale
    let total := x.unitsAt power + y.unitsAt power
    if total = 0 then zero (x.isNegative && y.isNegative)
    else ofScaled (decide (total < 0)) total.natAbs power

def sub (x y : Double) : Double := x.add y.neg

/-- The product, rounded. -/
def mul (x y : Double) : Double :=
  let negative := x.isNegative != y.isNegative
  if x.isNaN || y.isNaN then nan
  else if x.isInfinite || y.isInfinite then
    if x.isZero || y.isZero then nan else infinity negative
  else ofScaled negative (x.significand * y.significand) (x.scale + y.scale)

/-- The quotient, rounded. -/
def div (x y : Double) : Double :=
  let negative := x.isNegative != y.isNegative
  if x.isNaN || y.isNaN then nan
  else if x.isInfinite then
    if y.isInfinite then nan else infinity negative
  else if y.isInfinite then zero negative
  else if y.isZero then
    if x.isZero then nan else infinity negative
  else
    let (num, den) := descale x.significand y.significand (y.scale - x.scale)
    ofQuotient negative num den

/-- The order of two doubles; a NaN is in no order with anything. -/
def compare? (x y : Double) : Option Ordering :=
  if x.isNaN || y.isNaN then none
  else if x.isInfinite then
    if y.isInfinite && x.isNegative == y.isNegative then some .eq
    else some (if x.isNegative then .lt else .gt)
  else if y.isInfinite then some (if y.isNegative then .gt else .lt)
  else
    let power := min x.scale y.scale
    some (compare (x.unitsAt power) (y.unitsAt power))

/-- Equality of values: the two zeros are equal and a NaN equals nothing. -/
def equal (x y : Double) : Bool := x.compare? y == some .eq

/-- Below as a number; a NaN is neither below nor above anything. -/
def isBelow (x y : Double) : Bool := x.compare? y == some .lt

/-- Below or equal as a number. -/
def isAtMost (x y : Double) : Bool := x.isBelow y || x.equal y

/-- The integer part as a double, a zero with the sign of the whole. A double of scale zero or more has
no other part. -/
def trunc (x : Double) : Double :=
  if x.scale < 0 then ofQuotient x.isNegative x.truncate.natAbs 1 else x

/-- What is left of a double without its integer part. -/
def fract (x : Double) : Double := x.sub x.trunc

/-- The integer part as an integer of 64 bits. What is beyond these becomes the last of them on its
side, and a NaN becomes zero. -/
def toInt64 (x : Double) : Int64 :=
  if x.isNaN then 0
  else if x.isInfinite then if x.isNegative then Int64.minValue else Int64.maxValue
  else if x.truncate < -0x8000000000000000 then Int64.minValue
  else if 0x8000000000000000 ≤ x.truncate then Int64.maxValue
  else Int64.ofInt x.truncate

/-- The least power of two beyond the integers of 64 bits. -/
def int64Limit : Double := ofNat (twoTo 63)

/-- An integer of 64 bits: a real number without a fraction that is within the limits. -/
def isInt64 (x : Double) : Bool :=
  x.isFinite && x.fract.equal (zero false) && (int64Limit.neg.isAtMost x && x.isBelow int64Limit)

/-- The order of an integer and a double, both taken exactly. -/
def compareInt? (n : Int) (x : Double) : Option Ordering :=
  if x.isNaN then none
  else if x.isInfinite then some (if x.isNegative then .gt else .lt)
  else
    let (num, den) := x.quotient
    some (compare (n * den) (if x.isNegative then -(num : Int) else num))

end Double

end ForeignBridge
