import ForeignBridge.Number.Shortest

/-! # Layouts of doubles

A layout says how the digits of a double are set out as text: which magnitudes are written without
an exponent, whether an integral value keeps a fraction, and how the exponent is spelt.
-/

namespace ForeignBridge

/-- How a double is written. A first digit at a power of ten in `[least, bound)` is written
positionally, any other with an exponent. -/
structure Layout where
  least : Int
  bound : Int
  /-- The sign of a positive exponent. -/
  plus : String
  /-- The least number of digits of an exponent. -/
  exponentWidth : Nat
  notANumber : String
  infinite : String
  tie : Tie

namespace Layout

/-- A natural number with zeros in front up to a width. -/
def padded (width n : Nat) : String :=
  let digits := Nat.toDigits 10 n
  String.ofList (List.replicate (width - digits.length) '0' ++ digits)

/-- The digits without an exponent; an integral value ends in a zero fraction. -/
def positional (d : Decimal) : String :=
  let digits := Nat.toDigits 10 d.digits
  if 0 ≤ d.power then String.ofList (digits ++ List.replicate d.power.toNat '0') ++ ".0"
  else
    let places := (-d.power).toNat
    let whole := digits.length - places
    let filled := List.replicate (places - digits.length) '0' ++ digits.drop whole
    let front := if whole = 0 then ['0'] else digits.take whole
    String.ofList (front ++ '.' :: filled)

/-- The first digit, the others as a fraction, and the exponent. -/
def scientific (layout : Layout) (d : Decimal) : String :=
  let digits := Nat.toDigits 10 d.digits
  let mantissa := match digits with
    | [] => []
    | [first] => [first]
    | first :: rest => first :: '.' :: rest
  let sign := if d.leading < 0 then "-" else layout.plus
  String.ofList mantissa ++ "e" ++ sign ++ padded layout.exponentWidth d.leading.natAbs

/-- The text of a positive decimal. -/
def decimal (layout : Layout) (d : Decimal) : String :=
  if layout.least ≤ d.leading ∧ d.leading < layout.bound then positional d
  else layout.scientific d

/-- The text of a double. -/
def write (layout : Layout) (x : Double) : String :=
  if x.isNaN then layout.notANumber
  else
    let sign := if x.isNegative then "-" else ""
    if x.isInfinite then sign ++ layout.infinite
    else if x.isZero then sign ++ "0.0"
    else sign ++ layout.decimal (x.shortest layout.tie)

end Layout

end ForeignBridge
