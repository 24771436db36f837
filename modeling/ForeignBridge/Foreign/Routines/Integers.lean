import ForeignBridge.Foreign.Operations.Iterate
import ForeignBridge.Foreign.Routines.Arguments
import ForeignBridge.Foreign.Routines.Formats
import ForeignBridge.Foreign.Routines.Spelling

/-! # Routines of integers

Integers have no bound. Division rounds down, a remainder has the sign of the divisor, and operators
on bits take a negative integer as having ones without end in front.
-/

namespace ForeignBridge.Foreign

/-- The value of an operator on the two's complement of integers. -/
def onBits (combine : Nat → Nat → Nat) (a b : Int) : Int :=
  let width := max a.natAbs.log2 b.natAbs.log2 + 2
  let top : Int := twoTo width
  let value : Int := combine (a % top).toNat (b % top).toNat
  if 2 * value < top then value else value - top

/-- A power modulo a number, by squares of the base. -/
def powerModulo (modulus : Nat) : Nat → Nat → Nat → Nat
  | 0, _, _ => 1 % modulus
  | fuel + 1, base, exponent =>
    if exponent = 0 then 1 % modulus
    else
      let rest := powerModulo modulus fuel (base * base % modulus) (exponent / 2)
      if exponent % 2 = 1 then base * rest % modulus else rest

/-- What the first of two numbers is multiplied with to give their common divisor, modulo the
second. -/
def bezout : Nat → Int → Int → Int → Int → Int × Int
  | 0, a, _, x, _ => (a, x)
  | fuel + 1, a, b, x, y =>
    if b = 0 then (a, x)
    else
      let quotient := Int.fdiv a b
      bezout fuel b (a - quotient * b) y (x - quotient * y)

/-- The number whose product with another is one, modulo a third. -/
def inverseModulo? (a : Int) (modulus : Nat) : Option Nat :=
  let (common, inverse) := bezout (2 * modulus.log2 + 8) (a % modulus) modulus 1 0
  if common = 1 then some (inverse % modulus).toNat else none

/-- How many bits an integer has. -/
def bitLength (n : Int) : Nat := if n = 0 then 0 else n.natAbs.log2 + 1

/-- The bytes of a number, the last one first. -/
def bytesOf : Nat → Nat → List Nat
  | 0, _ => []
  | count + 1, n => n % 256 :: bytesOf count (n / 256)

/-- The number of some bytes, the last one first. -/
def ofBytes (bytes : List Nat) : Nat := bytes.foldr (fun byte rest => byte + 256 * rest) 0

namespace Run

/-- What has been made of a value, or else a fault of values. -/
def orValueFault {α : Type} : Except String α → Run α
  | .ok made => return made
  | .error message => fail .valueError message

/-- The double of an integer, if there is one. -/
def toDouble (n : Int) : Run Double :=
  let x := Double.ofInt n
  if x.isInfinite then fail .overflowError "int too large to convert to float" else return x

/-- A number too large for the machine. -/
def failMemory {α : Type} : Run α := do raise (← newException .memoryError [])

/-- The integer that an object stands for; one that does not fit into a word becomes the nearest
that does. -/
def asClamped (invoke : Invoke) (handle : Handle) : Run Int := do
  let n ← asIndex invoke handle
  return max (-(twoTo 63 : Int)) (min n (twoTo 63 - 1))

/-- Whether an argument counts as true; one that is missing does not. -/
def isSet (invoke : Invoke) (handle : Handle) : Run Bool :=
  if handle.isNull then return false else isTrue invoke handle

/-- The integer that an object stands for, which must fit into half a word. -/
def asSmall (invoke : Invoke) (handle : Handle) : Run Int := do
  let n ← asIndex invoke handle
  if -(twoTo 31 : Int) ≤ n ∧ n < twoTo 31 then return n
  else fail .overflowError "Python int too large to convert to C int"

/-- Whether an argument that must be an integer is not zero; one that is missing is. -/
def isNonzero (invoke : Invoke) (handle : Handle) : Run Bool := do
  if handle.isNull then return false else return (← asSmall invoke handle) != 0

/-- A power of doubles. -/
def doublePower (x y : Double) : Run Handle := do
  if x.isZero ∧ y.isNegative ∧ !y.isZero ∧ !y.isNaN then
    fail .zeroDivisionError "0.0 cannot be raised to a negative power"
  let result : Double := ⟨(Float.pow (Float.ofBits x.bits) (Float.ofBits y.bits)).toBits⟩
  if result.isInfinite ∧ x.isFinite ∧ y.isFinite then
    raise (← newException .overflowError
      [← newInt 34, ← newString "Numerical result out of range"])
  newFloat result

/-- Two integers combined by an operator. -/
def intOperate (operator : BinaryOperator) (a b : Int) : Run Handle := do
  match operator with
  | .add => newInt (a + b)
  | .sub => newInt (a - b)
  | .mul => newInt (a * b)
  | .div =>
    if b = 0 then fail .zeroDivisionError "division by zero"
    let x := Double.ofQuotient (decide (a < 0) != decide (b < 0)) a.natAbs b.natAbs
    if x.isInfinite then
      fail .overflowError "integer division result too large for a float"
    newFloat (if a = 0 then .zero (decide (b < 0)) else x)
  | .floorDiv =>
    if b = 0 then fail .zeroDivisionError "integer division or modulo by zero"
    newInt (Int.fdiv a b)
  | .mod =>
    if b = 0 then fail .zeroDivisionError "integer modulo by zero"
    newInt (Int.fmod a b)
  | .pow =>
    if b < 0 then doublePower (← toDouble a) (← toDouble b)
    else if 1 < a.natAbs ∧ (twoTo 33 : Int) < b then failMemory
    else newInt (Int.pow a b.toNat)
  | .shiftLeft =>
    if b < 0 then fail .valueError "negative shift count"
    if a = 0 then newInt 0
    else if (twoTo 63 : Int) ≤ b then fail .overflowError "too many digits in integer"
    else if (twoTo 36 : Int) ≤ b then failMemory
    else newInt (a * twoTo b.toNat)
  | .shiftRight =>
    if b < 0 then fail .valueError "negative shift count"
    if bitLength a < b then newInt (if a < 0 then -1 else 0)
    else newInt (Int.fdiv a (twoTo b.toNat))
  | .or => newInt (onBits (· ||| ·) a b)
  | .xor => newInt (onBits (· ^^^ ·) a b)
  | .and => newInt (onBits (· &&& ·) a b)
  | .matMul => return Fixed.notImplemented

/-- A power of an integer modulo another. The result has the sign of the modulus. -/
def intPower (a b modulus : Int) : Run Handle := do
  if modulus = 0 then fail .valueError "pow() 3rd argument cannot be 0"
  let size := modulus.natAbs
  if size = 1 then newInt 0
  else
    let base ←
      if b < 0 then
        match inverseModulo? a size with
        | some inverse => pure inverse
        | none => fail .valueError "base is not invertible for the given modulus"
      else pure (a % size).toNat
    let found : Int := powerModulo size (bitLength b) base b.natAbs
    newInt (if modulus < 0 ∧ found ≠ 0 then found + modulus else found)

/-- Quotient and remainder of integers. -/
def intDivMod (a b : Int) : Run Handle := do
  if b = 0 then fail .zeroDivisionError "integer division or modulo by zero"
  newTuple [← newInt (Int.fdiv a b), ← newInt (Int.fmod a b)]

/-- The answer of a comparison of what two objects hold, if both hold scalars with an order. -/
def compareBodies (comparison : Comparison) (a b : Body) : Handle :=
  match Scalar.ofBody? a, Scalar.ofBody? b with
  | some x, some y =>
    match x.compare? y with
    | some order => truth (satisfies comparison order)
    | none => Fixed.notImplemented
  | _, _ => Fixed.notImplemented

/-- The fault of a text that spells no integer. -/
def notAnInt {α : Type} (invoke : Invoke) (base : Nat) (value : Handle) : Run α := do
  let text ← reprText invoke value
  failText .valueError ((CodePoints.ofString ("invalid literal for int() with base " ++
    toString base ++ ": ")).append ⟨text.codes.take 200⟩)

/-- The integer that characters spell in a base, for an object that holds them. -/
def spelledInt (invoke : Invoke) (value : Handle) (chars : List Char) (base : Nat) : Run Int := do
  let digits := Spelling.limitedDigits base chars
  if 4300 < digits then
    fail .valueError ("Exceeds the limit (4300 digits) for integer string conversion: value has "
      ++ toString digits ++ " digits; use sys.set_int_max_str_digits() to increase the limit")
  match Spelling.int? base chars with
  | some n => return n
  | none => notAnInt invoke base value

/-- The characters that an object holds, if it is a text or bytes. -/
def spelling? (value : Handle) : Run (Option (List Char)) := do
  match ← body value with
  | .text text => return some (Spelling.ofText text)
  | .bytes bytes => return some (bytes.map Char.ofNat)
  | _ => return none

/-- The integer that an attribute of an object answers. -/
def answeredInt (invoke : Invoke) (entry value : Handle) (wrong : String) : Run Int := do
  let answer ← callEntry invoke entry value []
  match ← body answer with
  | .int n => return n
  | _ => fail .typeError (wrong ++ " (type " ++ (← typeName answer) ++ ")")

/-- The integer that an argument of the constructor of integers stands for. -/
def intArgument (invoke : Invoke) (value : Handle) : Run Int := do
  match ← typeAttribute value "__int__" with
  | some entry => answeredInt invoke entry value "__int__ returned non-int"
  | none =>
    match ← givenIndex? invoke value with
    | some n => return n
    | none =>
      match ← typeAttribute value "__trunc__" with
      | some entry =>
        let answer ← callEntry invoke entry value []
        match ← givenIndex? invoke answer with
        | some n => return n
        | none =>
          fail .typeError ("__trunc__ returned non-Integral (type " ++ (← typeName answer) ++ ")")
      | none =>
        match ← spelling? value with
        | some chars => spelledInt invoke value chars 10
        | none =>
          fail .typeError
            ("int() argument must be a string, a bytes-like object or a real number, not '" ++
              (← typeName value) ++ "'")

/-- The integer that a text spells in a base that an object stands for. -/
def intInBase (invoke : Invoke) (value base : Handle) : Run Int := do
  let n ← asClamped invoke base
  if (n ≠ 0 ∧ n < 2) ∨ 36 < n then
    fail .valueError "int() base must be >= 2 and <= 36, or 0"
  match ← spelling? value with
  | some chars => spelledInt invoke value chars n.toNat
  | none => fail .typeError "int() can't convert non-string with explicit base"

/-- A new integer of a class. -/
def newIntOf (cls : Handle) (n : Int) : Run Handle :=
  if cls = Core.int.handle then newInt n else newInstance cls (.int n)

/-- The constructor of integers. -/
def makeInt (invoke : Invoke) (cls : Handle) (arguments : Arguments) : Run Handle := do
  let arguments ← arrangeNamed "int" ⟨["", "base"], 1, 0, 0⟩ arguments
  let value := arguments.first
  let base := arguments.second
  if value.isNull then
    if base.isNull then newIntOf cls 0 else fail .typeError "int() missing string argument"
  else if base.isNull then
    if cls = Core.int.handle ∧ (← core? value) = some .int then return value
    else newIntOf cls (← intArgument invoke value)
  else newIntOf cls (← intInBase invoke value base)

/-- An integer object as a plain one. -/
def plainInt (self : Handle) (n : Int) : Run Handle := do
  if (← core? self) = some .int then return self else newInt n

/-- Whether bytes have the last one first, as an argument says. -/
def isLittle (name : String) (order : Handle) : Run Bool := do
  if order.isNull then return false
  match ← body order with
  | .text text =>
    if text = .ofString "little" then return true
    else if text = .ofString "big" then return false
    else fail .valueError "byteorder must be either 'little' or 'big'"
  | _ => badArgument name "argument 'byteorder'" "str" order

/-- The bytes of an integer. -/
def intBytes (invoke : Invoke) (n : Int) (arguments : Arguments) : Run Handle := do
  let length ← if arguments.first.isNull then pure 1 else asSize invoke arguments.first
  let little ← isLittle "to_bytes" arguments.second
  let signed ← isSet invoke arguments.third
  if length < 0 then fail .valueError "length argument must be non-negative"
  if n < 0 ∧ !signed then fail .overflowError "can't convert negative int to unsigned"
  let room : Int := twoTo (8 * length.toNat)
  let fits := if signed then decide (-room ≤ 2 * n ∧ 2 * n < room) else decide (n < room)
  unless fits || (length == 0 && n == 0) do fail .overflowError "int too big to convert"
  let bytes := bytesOf length.toNat (n % room).toNat
  newBytes (if little then bytes else bytes.reverse)

/-- The bytes that an object gives for itself. -/
def givenBytes (invoke : Invoke) (value : Handle) : Run (List Nat) := do
  match ← body value with
  | .bytes bytes => return bytes
  | _ =>
    match ← callSpecial? invoke value "__bytes__" [] with
    | some answer =>
      match ← body answer with
      | .bytes bytes => return bytes
      | _ =>
        fail .typeError ("__bytes__ returned non-bytes (type " ++ (← typeName answer) ++ ")")
    | none =>
      if (← text? value).isSome || !(← isIterable value) then
        fail .typeError ("cannot convert '" ++ (← typeName value) ++ "' object to bytes")
      else
        (← iterate invoke value).mapM fun item => do
          let n ← asIndex invoke item
          if 0 ≤ n ∧ n < 256 then return n.toNat
          else fail .valueError "bytes must be in range(0, 256)"

/-- The integer of some bytes. -/
def intOfBytes (invoke : Invoke) (cls : Handle) (arguments : Arguments) : Run Handle := do
  let little ← isLittle "from_bytes" arguments.second
  let signed ← isSet invoke arguments.third
  let bytes ← givenBytes invoke arguments.first
  let n := ofBytes (if little then bytes else bytes.reverse)
  let room := twoTo (8 * bytes.length)
  let made ← newInt (if signed && decide (room ≤ 2 * n) then (n : Int) - room else n)
  if cls = Core.int.handle then return made else invoke cls (.of [made])

/-- An integer rounded to a number of places, which may stand in front of the point. -/
def roundInt (invoke : Invoke) (self : Handle) (n : Int) (places : Handle) : Run Handle := do
  if places.isNull then plainInt self n
  else
    let places ← asIndex invoke places
    if 0 ≤ places then plainInt self n
    else if (5000 : Int) < -places ∧ bitLength n < 10000 then newInt 0
    else
      let unit := tenTo (-places).toNat
      newInt (nearestInt n unit * (unit : Int))

/-- An integer in a format. -/
def formatInt (invoke : Invoke) (self : Handle) (n : Int) (format : CodePoints) : Run Handle := do
  if format.codes.isEmpty then asPlainText (← strOf invoke self)
  else
    let type ← typeName self
    let format ← orValueFault (Format.ofText format 'd'.toNat '>' type)
    if Format.isReal format.kind then newText ⟨format.writeReal (← toDouble n)⟩
    else if Format.isIntegral format.kind then
      if format.kind = 'c'.toNat ∧ format.precision.isNone ∧ format.sign.isNone ∧
          !format.alternate ∧ (n < 0 ∨ 0x10FFFF < n) then
        fail .overflowError "%c arg not in range(0x110000)"
      if format.kind ∈ ['d'.toNat, 'n'.toNat] ∧ format.precision.isNone then
        let _ ← intText n
      newText ⟨← orValueFault (format.writeInt n)⟩
    else fail .valueError (Format.unknown format.kind type)

/-- The text that must be a format. -/
def formatArgument (format : Handle) : Run CodePoints := do
  match ← text? format with
  | some text => return text
  | none => badArgument "__format__" "argument" "str" format

/-- The operators of integers. -/
def intOperator (operator : BinaryOperator) (reversed : Bool) (n : Int) (arguments : Arguments) :
    Run Handle := do
  match ← body arguments.first with
  | .int m =>
    let (a, b) := if reversed then (m, n) else (n, m)
    let last := arguments.second
    if last.isNull ∨ last = Fixed.none then intOperate operator a b
    else
      match ← body last with
      | .int modulus => intPower a b modulus
      | _ => return Fixed.notImplemented
  | _ => return Fixed.notImplemented

/-- The routines of integers. -/
def intRoutine (invoke : Invoke) (name : String) (self : Handle) (arguments : Arguments) :
    Run Handle := do
  let n := (← int? self).getD 0
  match slotComparison? name, slotOperator? name with
  | some comparison, _ =>
    match ← body arguments.first with
    | .int m => return truth (satisfies comparison (some (Ord.compare n m)))
    | _ => return Fixed.notImplemented
  | none, some (operator, reversed) => intOperator operator reversed n arguments
  | none, none =>
    match name with
    | "__new__" => makeInt invoke self arguments
    | "__repr__" => newText (← intText n)
    | "__hash__" => newInt (Scalar.intHash n)
    | "__neg__" => newInt (-n)
    | "__pos__" | "__int__" | "__index__" | "__trunc__" | "__floor__" | "__ceil__" | "conjugate"
    | "real" | "numerator" => plainInt self n
    | "imag" => newInt 0
    | "denominator" => newInt 1
    | "__abs__" => if n < 0 then newInt (-n) else plainInt self n
    | "__bool__" => return truth (n != 0)
    | "__invert__" => newInt (-n - 1)
    | "__float__" => newFloat (← toDouble n)
    | "__divmod__" | "__rdivmod__" =>
      match ← body arguments.first with
      | .int m => if name = "__divmod__" then intDivMod n m else intDivMod m n
      | _ => return Fixed.notImplemented
    | "__round__" => roundInt invoke self n arguments.first
    | "__format__" => formatInt invoke self n (← formatArgument arguments.first)
    | "__getnewargs__" => newTuple [← newInt n]
    | "__sizeof__" => newInt (24 + 4 * ((bitLength n + 29) / 30) : Nat)
    | "bit_length" => newInt (bitLength n)
    | "bit_count" => newInt ((Nat.toDigits 2 n.natAbs).filter (· == '1')).length
    | "as_integer_ratio" => newTuple [← plainInt self n, ← newInt 1]
    | "to_bytes" => intBytes invoke n arguments
    | "from_bytes" => intOfBytes invoke self arguments
    | _ => return Fixed.notImplemented

/-- The routines of truth values. -/
def boolRoutine (invoke : Invoke) (name : String) (self : Handle) (arguments : Arguments) :
    Run Handle := do
  match name with
  | "__new__" =>
    refuseKeywords "bool" arguments
    checkBetween "bool" 0 1 arguments
    return truth (← isSet invoke arguments.first)
  | "__repr__" => newString (if self = Fixed.true then "True" else "False")
  | _ =>
    match slotOperator? name, ← core? arguments.first, ← body self, ← body arguments.first with
    | some (operator, _), some .bool, .int n, .int m =>
      let result ← intOperate operator n m
      return truth ((← int? result) == some 1)
    | some (operator, _), _, .int n, .int m => intOperate operator n m
    | _, _, _, _ => return Fixed.notImplemented

end Run

end ForeignBridge.Foreign
