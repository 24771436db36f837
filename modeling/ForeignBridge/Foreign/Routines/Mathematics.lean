import ForeignBridge.Foreign.Routines.Doubles
import ForeignBridge.Number.Special

/-! # Mathematics

The functions of the module of mathematics. What is exact is computed exactly; others are left to the
doubles of the machine.
-/

namespace ForeignBridge.Foreign

/-- The number of ways to choose some of a number of things. -/
def choose (n k : Nat) : Nat :=
  (List.range k).foldl (fun found step => found * (n - step) / (step + 1)) 1

/-- The number of ways to put some of a number of things in order. -/
def arrangements (n k : Nat) : Nat := (List.range k).foldl (fun found step => found * (n - step)) 1

/-- Significand and exponent of a double: the first is at least a half and less than one. -/
def splitPower (x : Double) : Double × Int :=
  if !x.isFinite ∨ x.isZero then (x, 0)
  else
    let bits := x.significand.log2 + 1
    (.ofScaled x.isNegative x.significand (-(bits : Int)), x.scale + bits)

/-- The remainder of doubles that is nearest to zero. -/
def nearestRemainder (x y : Double) : Double :=
  if y.isInfinite then x
  else
    let power := min x.scale y.scale
    let a := (x.unitsAt power).natAbs
    let b := (y.unitsAt power).natAbs
    let quotient := (nearestInt a b).toNat
    let rest : Int := (a : Int) - (quotient * b : Nat)
    if rest = 0 then .zero x.isNegative
    else .ofScaled (x.isNegative != decide (rest < 0)) rest.natAbs power

/-- The next double after one in the direction of another. -/
def nextDouble (x y : Double) : Double :=
  if x.isNaN then x
  else if y.isNaN then y
  else
    match x.compare? y with
    | some .eq => y
    | order =>
      let up := order == some .lt
      if x.isZero then .pack (!up) 1
      else
        let size := x.bits.toNat % twoTo 63
        .pack x.isNegative (if up = x.isNegative then size - 1 else size + 1)

namespace Run

/-- The double that an argument of a function of doubles is. -/
def realArgument (invoke : Invoke) (value : Handle) : Run Double := do
  match ← body value with
  | .float x => return x
  | _ =>
    match ← realNumber? invoke value with
    | some x => return x
    | none => fail .typeError ("must be real number, not " ++ (← typeName value))

/-- The fault of a value outside the domain of a function. -/
def domainFault {α : Type} : Run α := fail .valueError "math domain error"

/-- The fault of a result that no double comes near. -/
def rangeFault {α : Type} : Run α := fail .overflowError "math range error"

/-- A function of doubles, and whether its results can be too large. -/
def realFunction? (name : String) : Option ((Double → Double) × Bool) :=
  match name with
  | "exp" => some (Double.byMachine Float.exp, true)
  | "exp2" => some (Double.byMachine Float.exp2, true)
  | "expm1" => some (Double.expm1, true)
  | "log1p" => some (Double.log1p, false)
  | "sin" => some (Double.byMachine Float.sin, false)
  | "cos" => some (Double.byMachine Float.cos, false)
  | "tan" => some (Double.byMachine Float.tan, false)
  | "asin" => some (Double.byMachine Float.asin, false)
  | "acos" => some (Double.byMachine Float.acos, false)
  | "atan" => some (Double.byMachine Float.atan, false)
  | "sinh" => some (Double.byMachine Float.sinh, true)
  | "cosh" => some (Double.byMachine Float.cosh, true)
  | "tanh" => some (Double.byMachine Float.tanh, false)
  | "asinh" => some (Double.byMachine Float.asinh, false)
  | "acosh" => some (Double.byMachine Float.acosh, false)
  | "atanh" => some (Double.byMachine Float.atanh, false)
  | "cbrt" => some (Double.byMachine Float.cbrt, false)
  | "erf" => some (Double.erf, false)
  | "erfc" => some (Double.erfc, false)
  | "fabs" => some (Double.abs, false)
  | "sqrt" =>
    some (fun x => if x.isNegative && !x.isZero then .nan else x.root, false)
  | "degrees" => some (fun x => x.mul ((Double.ofInt 180).div ⟨Float.toBits 3.141592653589793⟩), true)
  | "radians" => some (fun x => x.mul (Double.div ⟨Float.toBits 3.141592653589793⟩ (.ofInt 180)), true)
  | "gamma" => some (fun x => (x.gamma?).getD .nan, true)
  | "lgamma" => some (fun x => (x.logGamma?).getD .nan, true)
  | _ => none

/-- A number that a function of doubles gives, or the fault that it has none. -/
def realResult (x y : Double) (grows : Bool) : Run Handle := do
  if y.isNaN ∧ !x.isNaN then domainFault
  else if y.isInfinite ∧ x.isFinite then
    if grows then rangeFault else domainFault
  else newFloat y

/-- The logarithm of a positive double. -/
def logDouble (function : Float → Float) (x : Double) : Run Double := do
  if x.isNaN then return x
  if x.isZero ∨ x.isNegative then domainFault
  return Double.byMachine function x

/-- The logarithm of a number. An integer beyond the range of doubles has one too. -/
def logOf (invoke : Invoke) (function : Float → Float) (value : Handle) : Run Double := do
  match ← body value with
  | .int n =>
    if n ≤ 0 then domainFault
    let x := Double.ofInt n
    if x.isInfinite then
      let bits := bitLength n
      let top := Double.ofScaled false n.toNat (-(bits : Int))
      let first := Double.byMachine function top
      let rest := (Double.byMachine function (.ofInt 2)).mul (.ofNat bits)
      return first.add rest
    else logDouble function x
  | _ => do logDouble function (← realArgument invoke value)

/-- A double rounded to an integer in one direction, by the class of the object if it has a rule. -/
def roundedTo (invoke : Invoke) (slot : String) (rounding : Double → Int) (value : Handle) :
    Run Handle := do
  let special ← if (← core? value) = some .float then pure none
    else callSpecial? invoke value slot []
  match special with
  | some answer => return answer
  | none =>
    let x ← realArgument invoke value
    let _ ← truncated x
    newInt (rounding x)

/-- An integer that must not be negative. -/
def countArgument (invoke : Invoke) (name : String) (value : Handle) : Run Nat := do
  let n ← asIndex invoke value
  if n < 0 then fail .valueError (name ++ " must be a non-negative integer")
  return n.toNat

/-- A power of doubles, both of which must be in its domain. -/
def mathPower (x y : Double) : Run Handle := do
  let result := Double.byMachine₂ Float.pow x y
  if result.isNaN ∧ !x.isNaN ∧ !y.isNaN then domainFault
  else if result.isInfinite ∧ x.isFinite ∧ y.isFinite then
    if x.isZero then domainFault else rangeFault
  else newFloat result

/-- The remainder of doubles by one of two rules. -/
def mathRemainder (rule : Double → Double → Double) (x y : Double) : Run Handle := do
  if x.isNaN then newFloat x
  else if y.isNaN then newFloat y
  else if x.isInfinite ∨ y.isZero then domainFault
  else newFloat (rule x y)

/-- A double times a power of two. -/
def scaledBy (x : Double) (power : Handle) : Run Handle := do
  match ← body power with
  | .int n =>
    if x.isZero ∨ !x.isFinite then newFloat x
    else if 5000 < n then rangeFault
    else if n < -5000 then newFloat (.zero x.isNegative)
    else
      let made := Double.ofScaled x.isNegative x.significand (x.scale + n)
      if made.isInfinite then rangeFault else newFloat made
  | _ => fail .typeError "Expected an int as second argument to ldexp."

/-- The sum of doubles, rounded once. -/
def exactSum (values : List Double) : Run Handle := do
  let special := values.filter fun x => !x.isFinite
  if special.any Double.isNaN then newFloat .nan
  else if special.any Double.isNegative && special.any fun x => !x.isNegative then
    fail .valueError "-inf + inf in fsum"
  else
    match special.head? with
    | some x => newFloat x
    | none =>
      let power := values.foldl (fun least x => min least x.scale) 1024
      let total : Int := values.foldl (fun total x => total + x.unitsAt power) 0
      let made := if total = 0 then Double.zero false
        else .ofScaled (decide (total < 0)) total.natAbs power
      if made.isInfinite then fail .overflowError "intermediate overflow in fsum"
      newFloat made

/-- Whether two doubles are near to one another. -/
def areNear (a b relative absolute : Double) : Bool :=
  if a.equal b then true
  else if !a.isFinite || !b.isFinite then false
  else
    let distance := (b.sub a).abs
    let within (bound : Double) : Bool :=
      match distance.compare? bound with
      | some .lt | some .eq => true
      | _ => false
    within (relative.mul b).abs || within (relative.mul a).abs || within absolute

/-- The coordinates of a point. -/
def coordinates (invoke : Invoke) (value : Handle) : Run (List Double) := do
  (← iterate invoke value).mapM (realArgument invoke)

/-- The integers that all arguments stand for. -/
def integers (invoke : Invoke) (label : String) (arguments : Arguments) : Run (List Int) := do
  unless arguments.keywords.isEmpty do
    fail .typeError ("math." ++ label ++ "() takes no keyword arguments")
  arguments.positional.mapM (asIndex invoke)

/-- The functions of the module of mathematics with a double and a result of another form. -/
def mathematicsRoutine (invoke : Invoke) (name : String) (arguments : Arguments) : Run Handle := do
  let first := arguments.first
  let second := arguments.second
  let x := realArgument invoke first
  let y := realArgument invoke second
  match name with
  | "floor" => roundedTo invoke "__floor__" Double.floor first
  | "ceil" => roundedTo invoke "__ceil__" Double.ceil first
  | "trunc" =>
    match ← callSpecial? invoke first "__trunc__" [] with
    | some answer => return answer
    | none => fail .typeError ("type " ++ (← typeName first) ++ " doesn't define __trunc__ method")
  | "factorial" =>
    let n ← asIndex invoke first
    if n < 0 then fail .valueError "factorial() not defined for negative values"
    if (twoTo 63 : Int) ≤ n then
      fail .overflowError ("factorial() argument should not exceed " ++ toString (twoTo 63 - 1))
    newInt (Double.factorial n.toNat)
  | "isqrt" =>
    let n ← asIndex invoke first
    if n < 0 then fail .valueError "isqrt() argument must be nonnegative"
    newInt (squareRoot n.toNat)
  | "comb" =>
    let n ← asIndex invoke first
    let k ← asIndex invoke second
    if n < 0 then fail .valueError "n must be a non-negative integer"
    if k < 0 then fail .valueError "k must be a non-negative integer"
    if n < k then newInt 0 else newInt (choose n.toNat (min k.toNat (n - k).toNat))
  | "perm" =>
    if second.isNull ∨ second = Fixed.none then
      let n ← asIndex invoke first
      if n < 0 then fail .valueError "factorial() not defined for negative values"
      newInt (Double.factorial n.toNat)
    else
      let n ← asIndex invoke first
      let k ← asIndex invoke second
      if n < 0 then fail .valueError "n must be a non-negative integer"
      if k < 0 then fail .valueError "k must be a non-negative integer"
      if n < k then newInt 0 else newInt (arrangements n.toNat k.toNat)
  | "isnan" => return truth (← x).isNaN
  | "isinf" => return truth (← x).isInfinite
  | "isfinite" => return truth (← x).isFinite
  | "pow" => mathPower (← x) (← y)
  | "fmod" => mathRemainder Double.remainder (← x) (← y)
  | "remainder" => mathRemainder nearestRemainder (← x) (← y)
  | "copysign" =>
    let x ← x
    let y ← y
    newFloat (if x.isNegative = y.isNegative then x else x.neg)
  | "atan2" => newFloat (Double.byMachine₂ Float.atan2 (← x) (← y))
  | "nextafter" => newFloat (nextDouble (← x) (← y))
  | "ulp" =>
    let x := (← x).abs
    if !x.isFinite then newFloat x
    else newFloat (.ofScaled false 1 (max (-1074) x.scale))
  | "ldexp" => scaledBy (← x) second
  | "frexp" =>
    let (significand, power) := splitPower (← x)
    newTuple [← newFloat significand, ← newInt power]
  | "modf" =>
    let x ← x
    if x.isInfinite then newTuple [← newFloat (.zero x.isNegative), ← newFloat x]
    else if x.isNaN then newTuple [← newFloat x, ← newFloat x]
    else
      let whole := Double.ofInt x.truncate
      let whole := if whole.isZero then Double.zero x.isNegative else whole
      let rest := x.sub whole
      newTuple [← newFloat (if rest.isZero then .zero x.isNegative else rest), ← newFloat whole]
  | "log" =>
    let top ← logOf invoke Float.log first
    if second.isNull then newFloat top
    else
      let bottom ← logOf invoke Float.log second
      if bottom.isZero then fail .zeroDivisionError "float division by zero"
      newFloat (top.div bottom)
  | "log2" => newFloat (← logOf invoke Float.log2 first)
  | "log10" => newFloat (← logOf invoke Float.log10 first)
  | "gcd" =>
    let numbers ← integers invoke name arguments
    newInt (numbers.foldl (fun common n => Nat.gcd common n.natAbs) 0 : Nat)
  | "lcm" =>
    let numbers ← integers invoke name arguments
    newInt (numbers.foldl (fun common n => Nat.lcm common n.natAbs) 1 : Nat)
  | "hypot" =>
    unless arguments.keywords.isEmpty do
      fail .typeError "math.hypot() takes no keyword arguments"
    newFloat (Double.hypotenuse (← arguments.positional.mapM (realArgument invoke)))
  | "dist" =>
    let p ← coordinates invoke first
    let q ← coordinates invoke second
    if p.length ≠ q.length then
      fail .valueError "both points must have the same number of dimensions"
    newFloat (Double.hypotenuse ((p.zip q).map fun (a, b) => a.sub b))
  | "fsum" => exactSum (← coordinates invoke first)
  | "prod" =>
    let start ← if second.isNull then newInt 1 else pure second
    (← iterate invoke first).foldlM (operate invoke .mul) start
  | "isclose" =>
    let relative ← if arguments.third.isNull then pure (Double.ofDecimal 1 (-9))
      else realArgument invoke arguments.third
    let absolute ← if (arguments.nth 3).isNull then pure (Double.zero false)
      else realArgument invoke (arguments.nth 3)
    if (relative.isNegative && !relative.isZero) || (absolute.isNegative && !absolute.isZero) then
      fail .valueError "tolerances must be non-negative"
    return truth (areNear (← x) (← y) relative absolute)
  | _ =>
    match realFunction? name with
    | some (function, grows) =>
      let x ← x
      if name = "gamma" ∧ x.gamma?.isNone ∨ name = "lgamma" ∧ x.logGamma?.isNone then domainFault
      realResult x (function x) grows
    | none => return Fixed.none

end Run

end ForeignBridge.Foreign
