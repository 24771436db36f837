import ForeignBridge.Number.Arithmetic

/-! # Complex numbers

A complex number is a pair of doubles.
-/

namespace ForeignBridge

namespace Complex

abbrev Number := Double × Double

def add (a b : Number) : Number := (a.1.add b.1, a.2.add b.2)
def sub (a b : Number) : Number := (a.1.sub b.1, a.2.sub b.2)
def neg (a : Number) : Number := (a.1.neg, a.2.neg)

def mul (a b : Number) : Number :=
  ((a.1.mul b.1).sub (a.2.mul b.2), (a.1.mul b.2).add (a.2.mul b.1))

/-- Whether a part of a divisor is at least as large as the other. -/
def atLeast (x y : Double) : Bool :=
  match x.abs.compare? y.abs with
  | some .gt | some .eq => true
  | _ => false

/-- The quotient of complex numbers. There is none by zero. -/
def div? (a b : Number) : Option Number :=
  if atLeast b.1 b.2 then
    if b.1.isZero then none
    else
      let ratio := b.2.div b.1
      let bottom := b.1.add (b.2.mul ratio)
      some ((a.1.add (a.2.mul ratio)).div bottom, (a.2.sub (a.1.mul ratio)).div bottom)
  else if atLeast b.2 b.1 then
    let ratio := b.1.div b.2
    let bottom := (b.1.mul ratio).add b.2
    some (((a.1.mul ratio).add a.2).div bottom, ((a.2.mul ratio).sub a.1).div bottom)
  else some (.nan, .nan)

/-- The product of as many copies of a complex number as an exponent says. -/
def powerOf : Nat → Number → Number → Nat → Number
  | 0, made, _, _ => made
  | fuel + 1, made, square, exponent =>
    if exponent = 0 then made
    else
      powerOf fuel (if exponent % 2 = 1 then mul made square else made) (mul square square)
        (exponent / 2)

/-- A power of a complex number. There is none of zero to an exponent that is not positive. -/
def pow? (a b : Number) : Option Number :=
  let whole := if b.2.isZero then b.1.toInt?.filter fun n => decide (n.natAbs ≤ 100) else none
  let unit : Number := (.one, .zero false)
  match whole with
  | some n =>
    if 0 < n then some (powerOf 8 unit a n.toNat) else div? unit (powerOf 8 unit a n.natAbs)
  | none =>
    if b.1.isZero ∧ b.2.isZero then some unit
    else if a.1.isZero ∧ a.2.isZero then
      if !b.2.isZero ∨ b.1.isNegative then none else some (.zero false, .zero false)
    else
      let size := Double.hypotenuse [a.1, a.2]
      let angle := Double.byMachine₂ Float.atan2 a.2 a.1
      let length := Double.byMachine₂ Float.pow size b.1
      let phase := angle.mul b.1
      let (length, phase) :=
        if b.2.isZero then (length, phase)
        else
          (length.mul (Double.byMachine Float.exp (angle.neg.mul b.2)),
            phase.add (b.2.mul (Double.byMachine Float.log size)))
      some (length.mul (Double.byMachine Float.cos phase),
        length.mul (Double.byMachine Float.sin phase))

/-- A double without a fraction of zero. -/
def shortText (x : Double) : String :=
  let text := sourceLayout.write x
  if text.endsWith ".0" then (text.dropEnd 2).toString else text

/-- The text of a complex number. -/
def text (a : Number) : String :=
  let sign := if a.2.isNegative ∧ !a.2.isNaN then "" else "+"
  if a.1.isZero ∧ !a.1.isNegative then shortText a.2 ++ "j"
  else "(" ++ shortText a.1 ++ sign ++ shortText a.2 ++ "j)"

end Complex

end ForeignBridge
