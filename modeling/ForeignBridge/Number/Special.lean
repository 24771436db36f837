import ForeignBridge.Number.Arithmetic

/-! # Special functions

Functions of doubles that the machine does not have. Some are computed from their series in numbers
with a fixed point far beyond the digits of a double, and rounded once; the gamma function is
computed from an approximation with rational functions.
-/

namespace ForeignBridge

/-! Numbers with so many bits behind a fixed point. -/
namespace FixedPoint

/-- The product of two numbers. -/
def mul (bits : Nat) (a b : Int) : Int := Int.fdiv (a * b) (twoTo bits)

/-- The quotient of two numbers. -/
def div (bits : Nat) (a b : Int) : Int := Int.fdiv (a * twoTo bits) b

/-- A finite double as a number. -/
def ofDouble (bits : Nat) (x : Double) : Int :=
  let power := x.scale + bits
  if 0 ≤ power then x.signedSignificand * twoTo power.toNat
  else Int.fdiv x.signedSignificand (twoTo (-power).toNat)

/-- The double nearest to a number. -/
def toDouble (bits : Nat) (a : Int) : Double :=
  if a = 0 then .zero false else .ofScaled (decide (a < 0)) a.natAbs (-(bits : Int))

/-- The sum of a series: each term is made of the one before it and divided by a number of its own. -/
def series (step : Nat → Int → Int) (divisor : Nat → Int) : Nat → Nat → Int → Int → Int
  | 0, _, _, total => total
  | fuel + 1, place, term, total =>
    if term = 0 then total
    else
      series step divisor fuel (place + 1) (step (place + 1) term)
        (total + Int.fdiv term (divisor place))

/-- The number whose hyperbolic tangent is a number between minus one half and one half. -/
def artanh (bits : Nat) (z : Int) : Int :=
  let square := mul bits z z
  series (fun _ term => mul bits term square) (fun place => 2 * (place : Int) + 1) bits 0 z 0

/-- The logarithm of two. -/
def logTwo (bits : Nat) : Int := 2 * artanh bits (Int.fdiv (twoTo bits) 3)

/-- The number whose tangent is one over a number. -/
def arctanInverse (bits : Nat) (n : Int) : Int :=
  series (fun _ term => -(Int.tdiv term (n * n))) (fun place => 2 * (place : Int) + 1) bits 0
    (Int.fdiv (twoTo bits) n) 0

/-- The ratio of a circle to its diameter. -/
def pi (bits : Nat) : Int := 16 * arctanInverse bits 5 - 4 * arctanInverse bits 239

/-- The exponential of a number less one. The number is brought close to zero by halving it. -/
def expm1 (bits : Nat) (a : Int) : Int :=
  let halvings := 12
  let small := Int.fdiv a (twoTo halvings)
  let first := series (fun place term => Int.fdiv (mul bits term small) place) (fun _ => 1) bits 1
    small 0
  (List.range halvings).foldl (fun found _ => 2 * found + mul bits found found) first

/-- The logarithm of one and a number that is not small. -/
def logNear (bits : Nat) (a : Int) : Int :=
  2 * artanh bits (div bits a (2 * twoTo bits + a))

/-- The integral of the bell curve up to a number, on its own scale. -/
def erf (bits : Nat) (a : Int) : Int :=
  let square := mul bits a a
  let total := series (fun place term => -(Int.tdiv (mul bits term square) place))
    (fun place => 2 * (place : Int) + 1) (4 * bits) 0 a 0
  let rootPi := squareRoot ((pi bits).toNat * twoTo bits)
  div bits (2 * total) rootPi

end FixedPoint

namespace Double

/-- How many bits behind the point suffice. -/
def workingBits : Nat := 400

/-- Whether a double is so near to zero that functions close to the identity there leave it as it
is. -/
def isTiny (x : Double) : Bool := x.isZero || x.scale + 52 < -60

/-- The exponential of a double less one. -/
def expm1 (x : Double) : Double :=
  if x.isNaN ∨ x.isTiny then x
  else if x.isInfinite then (if x.isNegative then one.neg else x)
  else if x.compare? (.ofInt 710) == some .gt then .infinity false
  else if x.compare? (.ofInt (-60)) == some .lt then one.neg
  else
    let bits := workingBits + 1100
    FixedPoint.toDouble bits (FixedPoint.expm1 bits (FixedPoint.ofDouble bits x))

/-- The logarithm of one and a double. -/
def log1p (x : Double) : Double :=
  if x.isNaN ∨ x.isTiny then x
  else if x.compare? one.neg == some .eq then .infinity true
  else if x.isNegative ∧ x.compare? one.neg == some .lt then .nan
  else if x.isInfinite then x
  else if x.abs.compare? (.ofDecimal 5 (-1)) == some .gt then
    byMachine Float.log (one.add x)
  else
    FixedPoint.toDouble workingBits
      (FixedPoint.logNear workingBits (FixedPoint.ofDouble workingBits x))

/-- The error function. -/
def erf (x : Double) : Double :=
  if x.isNaN ∨ x.isZero then x
  else if x.abs.compare? (.ofInt 6) == some .gt then (if x.isNegative then one.neg else one)
  else if x.scale + 52 < -300 then x.mul (.ofDecimal 11283791670955126 (-16))
  else
    FixedPoint.toDouble workingBits (FixedPoint.erf workingBits (FixedPoint.ofDouble workingBits x))

/-- One less the error function. -/
def erfc (x : Double) : Double :=
  if x.isNaN then x
  else if x.compare? (.ofInt 28) == some .gt then .zero false
  else if x.compare? (.ofInt (-6)) == some .lt then .ofInt 2
  else
    let bits := 2700
    FixedPoint.toDouble bits ((twoTo bits : Int) - FixedPoint.erf bits (FixedPoint.ofDouble bits x))

/-- The coefficients of the rational function that the gamma function is near to. -/
def gammaRatio : List (Float × Float) :=
  [(23531376880.410759688572007674451636754734846804940, 0.0),
   (42919803642.649098768957899047001988850926355848959, 39916800.0),
   (35711959237.355668049440185451547166705960488635843, 120543840.0),
   (17921034426.037209699919755754458931112671403265390, 150917976.0),
   (6039542586.3520280050642916443072979210699388420708, 105258076.0),
   (1439720407.3117216736632230727949123939715485786372, 45995730.0),
   (248874557.86205415651146038641322942321632125127801, 13339535.0),
   (31426415.585400194380614231628318205362874684987640, 2637558.0),
   (2876370.6289353724412254090516208496135991145378768, 357423.0),
   (186056.26539522349504029498971604569928220784236328, 32670.0),
   (8071.6720023658162106380029022722506138218516325024, 1925.0),
   (210.82427775157934587250973392071336271166969580291, 66.0),
   (2.5066282746310002701649081771338373386264310793408, 1.0)]

/-- Where the rational function is centred. -/
def gammaCentre : Float := 6.024680040776729583740234375

/-- The value of the rational function. -/
def gammaSum (x : Float) : Float :=
  let (num, den) :=
    if x < 5.0 then
      gammaRatio.reverse.foldl (fun (num, den) (a, b) => (num * x + a, den * x + b)) (0.0, 0.0)
    else gammaRatio.foldl (fun (num, den) (a, b) => (num / x + a, den / x + b)) (0.0, 0.0)
  num / den

/-- Half the circle of the machine. -/
def machinePi : Float := 3.14159265358979323846

/-- The sine of a multiple of half the circle, for a number that is not negative. -/
def sineTurn (x : Float) : Float :=
  let y := x - 2.0 * (x / 2.0).floor
  match (2.0 * y).round.toUInt64 with
  | 0 => Float.sin (machinePi * y)
  | 1 => Float.cos (machinePi * (y - 0.5))
  | 2 => Float.sin (machinePi * (1.0 - y))
  | 3 => -(Float.cos (machinePi * (y - 1.5)))
  | _ => Float.sin (machinePi * (y - 2.0))

/-- The gamma function of a number that is no integer. -/
def gammaFloat (x : Float) : Float :=
  let size := x.abs
  let shift := gammaCentre - 0.5
  let y := size + shift
  let z := if shift < size then y - size - shift else y - shift - size
  let z := z * gammaCentre / y
  let power (r : Float) (combine : Float → Float → Float) : Float :=
    if size < 140.0 then combine r (Float.pow y (size - 0.5))
    else
      let half := Float.pow y (size / 2.0 - 0.25)
      combine (combine r half) half
  if x < 0.0 then
    let r := -machinePi / sineTurn size / size * Float.exp y / gammaSum size
    power (r - z * r) (· / ·)
  else
    let r := gammaSum size / Float.exp y
    power (r + z * r) (· * ·)

/-- The product of the numbers up to one. -/
def factorial : Nat → Nat
  | 0 => 1
  | n + 1 => (n + 1) * factorial n

/-- The gamma function; it has no value at zero and the negative integers. -/
def gamma? (x : Double) : Option Double :=
  if x.isNaN then some x
  else if x.isInfinite then (if x.isNegative then none else some x)
  else if x.isZero then none
  else
    match x.toInt? with
    | some n =>
      if n < 0 then none
      else if n ≤ 23 then some (.ofNat (factorial (n.toNat - 1)))
      else if 200 < n then some (.infinity false)
      else some (byMachine gammaFloat x)
    | none =>
      if x.scale + 52 < -66 then some (one.div x)
      else if x.abs.compare? (.ofInt 200) == some .gt then
        some (if x.isNegative then .zero (byMachine sineTurn x.abs).neg.isNegative
          else .infinity false)
      else some (byMachine gammaFloat x)

/-- The logarithm of the size of the gamma function. -/
def logGammaFloat (x : Float) : Float :=
  let size := x.abs
  if size < 1e-20 then -(Float.log size)
  else
    let r := Float.log (gammaSum size) - gammaCentre
    let r := r + (size - 0.5) * (Float.log (size + gammaCentre - 0.5) - 1.0)
    if x < 0.0 then
      1.144729885849400174143427351353058711647 - Float.log (sineTurn size).abs - Float.log size - r
    else r

/-- The logarithm of the size of the gamma function; it has no value at zero and the negative
integers. -/
def logGamma? (x : Double) : Option Double :=
  if x.isNaN then some x
  else if x.isInfinite then some (.infinity false)
  else
    match x.toInt? with
    | some n =>
      if n ≤ 0 then none
      else if n ≤ 2 then some (.zero false)
      else some (byMachine logGammaFloat x)
    | none => some (byMachine logGammaFloat x)

end Double

end ForeignBridge
