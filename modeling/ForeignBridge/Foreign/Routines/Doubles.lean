import ForeignBridge.Foreign.Routines.Integers
import ForeignBridge.Number.Complex

/-! # Routines of doubles and complex numbers

Doubles take part in all operations with integers; an integer beyond the range of doubles does not
convert. A power of a negative double that is no integer is complex.
-/

namespace ForeignBridge.Foreign

namespace Run

/-- A new complex number. -/
def newComplexOf (a : Complex.Number) : Run Handle := newComplex a.1 a.2

/-- A power of complex numbers. -/
def complexPower (a b : Complex.Number) : Run Handle := do
  match Complex.pow? a b with
  | none => fail .zeroDivisionError "0.0 to a negative or complex power"
  | some made =>
    if made.1.isInfinite ∨ made.2.isInfinite then fail .overflowError "complex exponentiation"
    newComplexOf made

/-- A power of doubles, which may be complex. -/
def realPower (x y : Double) : Run Handle := do
  if x.isNegative ∧ x.isFinite ∧ !x.isZero ∧ y.isFinite ∧ y.toInt?.isNone then
    complexPower (x, .zero false) (y, .zero false)
  else doublePower x y

/-- Two doubles combined by an operator. -/
def floatOperate (operator : BinaryOperator) (x y : Double) : Run Handle := do
  match operator with
  | .add => newFloat (x.add y)
  | .sub => newFloat (x.sub y)
  | .mul => newFloat (x.mul y)
  | .div =>
    if y.isZero then fail .zeroDivisionError "float division by zero"
    newFloat (x.div y)
  | .floorDiv =>
    if y.isZero then fail .zeroDivisionError "float floor division by zero"
    newFloat (x.divMod y).1
  | .mod =>
    if y.isZero then fail .zeroDivisionError "float modulo"
    newFloat (x.divMod y).2
  | .pow => realPower x y
  | _ => return Fixed.notImplemented

/-- The integer part of a double that is a number. -/
def truncated (x : Double) : Run Int :=
  if x.isNaN then fail .valueError "cannot convert float NaN to integer"
  else if x.isInfinite then fail .overflowError "cannot convert float infinity to integer"
  else return x.truncate

/-- Refuses named arguments for a class, unless it makes its instances ready in its own way. -/
def refuseKeywordsFor (core : Core) (cls : Handle) (arguments : Arguments) : Run Unit := do
  if arguments.keywords.isEmpty then return
  let same := (← classEntry? cls "__init__") == (← classEntry? core.handle "__init__")
  if cls = core.handle || same then refuseKeywords core.title arguments

/-- Refuses named arguments for a new instance whose class is built in, or makes instances as the
built-in class does. -/
def refuseKeywordsMade (core : Core) (self : Handle) (arguments : Arguments) : Run Unit := do
  if arguments.keywords.isEmpty then return
  let same := (← typeAttribute self "__new__") == (← classEntry? core.handle "__new__")
  if same then refuseKeywords core.title arguments

/-- The double that an attribute of an object answers. -/
def answeredFloat (invoke : Invoke) (entry value : Handle) : Run Double := do
  let answer ← callEntry invoke entry value []
  match ← body answer with
  | .float x => return x
  | _ =>
    fail .typeError ((← typeName value) ++ ".__float__ returned non-float (type " ++
      (← typeName answer) ++ ")")

/-- The double that a number stands for, if the object is a number. -/
def realNumber? (invoke : Invoke) (value : Handle) : Run (Option Double) := do
  match ← typeAttribute value "__float__" with
  | some entry => some <$> answeredFloat invoke entry value
  | none => (← givenIndex? invoke value).mapM toDouble

/-- The double that an argument of the constructor of doubles stands for. -/
def floatArgument (invoke : Invoke) (value : Handle) : Run Double := do
  match ← if (← core? value) = some .str then pure none else realNumber? invoke value with
  | some x => return x
  | none =>
    match ← spelling? value with
    | some chars =>
      match Spelling.wholeDouble? chars with
      | some x => return x
      | none => failAbout invoke .valueError "could not convert string to float: " value ""
    | none =>
      fail .typeError ("float() argument must be a string or a real number, not '" ++
        (← typeName value) ++ "'")

/-- A new double of a class. -/
def newFloatOf (cls : Handle) (x : Double) : Run Handle := newInstance cls (.float x)

/-- The constructor of doubles. -/
def makeFloat (invoke : Invoke) (cls : Handle) (arguments : Arguments) : Run Handle := do
  refuseKeywordsFor .float cls arguments
  checkBetween "float" 0 1 arguments
  let value := arguments.first
  if value.isNull then newFloatOf cls (.zero false)
  else if cls = Core.float.handle ∧ (← core? value) = some .float then return value
  else newFloatOf cls (← floatArgument invoke value)

/-- The double of an operand. -/
def operand? (handle : Handle) : Run (Option Double) := do
  match ← body handle with
  | .float x => return some x
  | .int n => return some (← toDouble n)
  | _ => return none

/-- A double object as a plain one. -/
def plainFloat (self : Handle) (x : Double) : Run Handle := do
  if (← core? self) = some .float then return self else newFloat x

/-- A double rounded to a number of places, or to an integer. -/
def roundFloat (invoke : Invoke) (x : Double) (places : Handle) : Run Handle := do
  if places.isNull ∨ places = Fixed.none then
    let _ ← truncated x
    newInt (nearestInt x.ratio.1 x.ratio.2)
  else
    let rounded := x.roundPlaces (← asClamped invoke places)
    if rounded.isInfinite ∧ x.isFinite then
      fail .overflowError "rounded value too large to represent"
    newFloat rounded

/-- A double in a format. -/
def formatFloat (invoke : Invoke) (self : Handle) (x : Double) (format : CodePoints) :
    Run Handle := do
  if format.codes.isEmpty then asPlainText (← strOf invoke self)
  else
    let type ← typeName self
    let format ← orValueFault (Format.ofText format 0 '>' type)
    if format.kind = 0 ∨ format.kind = 'n'.toNat ∨ Format.isReal format.kind then
      newText ⟨format.writeReal x⟩
    else fail .valueError (Format.unknown format.kind type)

/-- The operators of doubles. -/
def floatOperator (operator : BinaryOperator) (reversed : Bool) (x : Double)
    (arguments : Arguments) : Run Handle := do
  let last := arguments.second
  unless last.isNull ∨ last = Fixed.none do
    fail .typeError "pow() 3rd argument not allowed unless all arguments are integers"
  match ← operand? arguments.first with
  | some y => if reversed then floatOperate operator y x else floatOperate operator x y
  | none => return Fixed.notImplemented

/-- The double that a text spells in base sixteen. -/
def floatOfHex (invoke : Invoke) (cls text : Handle) : Run Handle := do
  match ← text? text with
  | none => fail .typeError "bad argument type for built-in operation"
  | some text =>
    match Spelling.hexDouble? (text.codes.map Char.ofNat) with
    | none => fail .valueError "invalid hexadecimal floating-point string"
    | some none =>
      fail .overflowError "hexadecimal value too large to represent as a float"
    | some (some x) =>
      let made ← newFloat x
      if cls = Core.float.handle then return made else invoke cls (.of [made])

/-- Words for how doubles are stored. -/
def storage (kind : Handle) : Run Handle := do
  match ← text? kind with
  | none => badArgument "__getformat__" "argument" "str" kind
  | some kind =>
    if kind = .ofString "double" ∨ kind = .ofString "float" then
      newString "IEEE, little-endian"
    else fail .valueError "__getformat__() argument 1 must be 'double' or 'float'"

/-- The routines of doubles. -/
def floatRoutine (invoke : Invoke) (name : String) (self : Handle) (arguments : Arguments) :
    Run Handle := do
  let x := match ← body self with
    | .float x => x
    | _ => .zero false
  match slotComparison? name, slotOperator? name with
  | some comparison, _ => return compareBodies comparison (.float x) (← body arguments.first)
  | none, some (operator, reversed) => floatOperator operator reversed x arguments
  | none, none =>
    match name with
    | "__new__" => makeFloat invoke self arguments
    | "__repr__" => newString (sourceLayout.write x)
    | "__hash__" => newInt (floatHashOf self x)
    | "__neg__" => newFloat x.neg
    | "__pos__" | "__float__" | "conjugate" | "real" => plainFloat self x
    | "imag" => newFloat (.zero false)
    | "__abs__" => newFloat x.abs
    | "__bool__" => return truth (!x.isZero)
    | "__int__" | "__trunc__" => newInt (← truncated x)
    | "__floor__" =>
      let _ ← truncated x
      newInt x.floor
    | "__ceil__" =>
      let _ ← truncated x
      newInt x.ceil
    | "__round__" => roundFloat invoke x arguments.first
    | "__divmod__" | "__rdivmod__" =>
      match ← operand? arguments.first with
      | none => return Fixed.notImplemented
      | some y =>
        let (a, b) := if name = "__rdivmod__" then (y, x) else (x, y)
        if b.isZero then fail .zeroDivisionError "float divmod()"
        let (quotient, rest) := a.divMod b
        newTuple [← newFloat quotient, ← newFloat rest]
    | "__format__" => formatFloat invoke self x (← formatArgument arguments.first)
    | "__getnewargs__" => newTuple [← newFloat x]
    | "is_integer" => return truth x.toInt?.isSome
    | "hex" => newString x.hexText
    | "fromhex" => floatOfHex invoke self arguments.first
    | "__getformat__" => storage arguments.first
    | "as_integer_ratio" =>
      if x.isNaN then fail .valueError "cannot convert NaN to integer ratio"
      if x.isInfinite then fail .overflowError "cannot convert Infinity to integer ratio"
      let (num, den) := x.ratio
      let common := Nat.gcd num.natAbs den
      newTuple [← newInt (num / (common : Int)), ← newInt (den / common : Nat)]
    | _ => return Fixed.notImplemented

/-- The two parts of a complex operand. -/
def complexOperand? (handle : Handle) : Run (Option Complex.Number) := do
  match ← body handle with
  | .complex real imaginary => return some (real, imaginary)
  | _ => return (← operand? handle).map fun x => (x, .zero false)

/-- The parts of an argument of the constructor of complex numbers, and whether it is one. -/
def complexPart (invoke : Invoke) (value : Handle) (wrong : String) :
    Run (Complex.Number × Bool) := do
  match ← body value with
  | .complex x y => return ((x, y), true)
  | _ =>
    match ← realNumber? invoke value with
    | some x => return ((x, .zero false), false)
    | none => fail .typeError (wrong ++ ", not '" ++ (← typeName value) ++ "'")

/-- What the rule of an object for complex numbers answers, if it has one. -/
def asComplex (invoke : Invoke) (value : Handle) : Run Handle := do
  if (← core? value).isSome then return value
  match ← callSpecial? invoke value "__complex__" [] with
  | none => return value
  | some answer =>
    match ← body answer with
    | .complex .. => return answer
    | _ =>
      fail .typeError
        ("__complex__ returned non-complex (type " ++ (← typeName answer) ++ ")")

/-- The constructor of complex numbers. -/
def makeComplex (invoke : Invoke) (cls : Handle) (arguments : Arguments) : Run Handle := do
  let arguments ← arrangeNamed "complex" ⟨["real", "imag"], 0, 0, 0⟩ arguments
  let first := arguments.first
  let second := arguments.second
  if second.isNull ∧ cls = Core.complex.handle ∧ !first.isNull ∧ (← core? first) = some .complex then
    return first
  match ← if first.isNull then pure none else text? first with
  | some text =>
    unless second.isNull do
      fail .typeError "complex() can't take second arg if first is a string"
    match Spelling.complex? (Spelling.ofText text) with
    | some (x, y) => newInstance cls (.complex x y)
    | none => fail .valueError "complex() arg is a malformed string"
  | none =>
    if !second.isNull && (← text? second).isSome then
      fail .typeError "complex() second arg can't be a string"
    let zero : Complex.Number × Bool := ((.zero false, .zero false), false)
    let (real, _) ← if first.isNull then pure zero
      else do
        complexPart invoke (← asComplex invoke first)
          "complex() first argument must be a string or a number"
    let (imaginary, both) ← if second.isNull then pure zero
      else complexPart invoke second "complex() second argument must be a number"
    let x := if both then real.1.sub imaginary.2 else real.1
    let y := if second.isNull then real.2 else real.2.add imaginary.1
    newInstance cls (.complex x y)

/-- Whether a complex number equals what another object holds. -/
def complexEquals (a : Complex.Number) : Body → Option Bool
  | .complex x y => some (a.1.equal x && a.2.equal y)
  | .float x => some (a.1.equal x && a.2.isZero)
  | .int n => some (a.2.isZero && Double.compareInt? n a.1 == some .eq)
  | _ => none

/-- The operators of complex numbers. -/
def complexOperator (operator : BinaryOperator) (a b : Complex.Number) : Run Handle := do
  match operator with
  | .add => newComplexOf (Complex.add a b)
  | .sub => newComplexOf (Complex.sub a b)
  | .mul => newComplexOf (Complex.mul a b)
  | .div =>
    match Complex.div? a b with
    | some made => newComplexOf made
    | none => fail .zeroDivisionError "complex division by zero"
  | .pow => complexPower a b
  | _ => return Fixed.notImplemented

/-- A complex number in a format. -/
def formatComplex (invoke : Invoke) (self : Handle) (a : Complex.Number) (format : CodePoints) :
    Run Handle := do
  if format.codes.isEmpty then asPlainText (← strOf invoke self)
  else
    let type ← typeName self
    let format ← orValueFault (Format.ofText format 0 '>' type)
    if format.kind = 0 ∨ format.kind ∈ "eEfFgGn".toList.map Char.toNat then
      newText ⟨← orValueFault (format.writeComplex a.1 a.2)⟩
    else fail .valueError (Format.unknown format.kind type)

/-- The routines of complex numbers. -/
def complexRoutine (invoke : Invoke) (name : String) (self : Handle) (arguments : Arguments) :
    Run Handle := do
  let a : Complex.Number := match ← body self with
    | .complex real imaginary => (real, imaginary)
    | _ => (.zero false, .zero false)
  let plain : Run Handle := do
    if (← core? self) = some .complex then return self else newComplexOf a
  match slotComparison? name, slotOperator? name with
  | some comparison, _ =>
    match comparison, complexEquals a (← body arguments.first) with
    | .equal, some answer => return truth answer
    | .notEqual, some answer => return truth (!answer)
    | _, _ => return Fixed.notImplemented
  | none, some (operator, reversed) =>
    match ← complexOperand? arguments.first with
    | none => return Fixed.notImplemented
    | some b =>
      let last := arguments.second
      unless last.isNull ∨ last = Fixed.none do fail .valueError "complex modulo"
      if reversed then complexOperator operator b a else complexOperator operator a b
  | none, none =>
    match name with
    | "__new__" => makeComplex invoke self arguments
    | "__repr__" => newString (Complex.text a)
    | "__hash__" => newInt (Mixing.ofPair (floatHashOf self a.1) (floatHashOf self a.2))
    | "__neg__" => newComplexOf (Complex.neg a)
    | "__pos__" | "__complex__" => plain
    | "conjugate" => newComplexOf (a.1, a.2.neg)
    | "real" => newFloat a.1
    | "imag" => newFloat a.2
    | "__bool__" => return truth (!(a.1.isZero && a.2.isZero))
    | "__abs__" =>
      let size := Double.hypotenuse [a.1, a.2]
      if size.isInfinite ∧ a.1.isFinite ∧ a.2.isFinite then
        fail .overflowError "absolute value too large"
      newFloat size
    | "__getnewargs__" => newTuple [← newFloat a.1, ← newFloat a.2]
    | "__format__" => formatComplex invoke self a (← formatArgument arguments.first)
    | _ => return Fixed.notImplemented

end Run

end ForeignBridge.Foreign
