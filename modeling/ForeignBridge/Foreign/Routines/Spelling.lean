import ForeignBridge.Foreign.Characters.Classes
import ForeignBridge.Foreign.Token

/-! # Numbers in texts

The numbers that texts spell when a program converts them: integers in a base, doubles in base ten and
in base sixteen, and complex numbers. Blanks around a number do not count, a digit may come from any
alphabet, and an underscore may stand between two digits.
-/

namespace ForeignBridge.Foreign.Spelling

/-- A blank around a number. -/
def isGap (c : Char) : Bool := c == ' ' || ('\x09' ≤ c && c ≤ '\x0d')

/-- Characters without blanks at their ends. -/
def trimmed (chars : List Char) : List Char :=
  ((chars.dropWhile isGap).reverse.dropWhile isGap).reverse

/-- The character that a code point of a number counts as. -/
def plainChar (code : Nat) : Char :=
  if code < 127 then Char.ofNat code
  else if Characters.isSpace code then ' '
  else
    match Characters.decimalValue? code with
    | some digit => Char.ofNat (0x30 + digit)
    | none => '?'

/-- The characters of a text as those of a number. -/
def ofText (text : CodePoints) : List Char :=
  if text.codes.all (· < 128) then text.codes.map Char.ofNat else text.codes.map plainChar

/-- The value of a digit in any base. -/
def digit? (c : Char) : Option Nat :=
  if c.isDigit then some (c.toNat - 0x30)
  else if 'a' ≤ c ∧ c ≤ 'z' then some (c.toNat - 0x61 + 10)
  else if 'A' ≤ c ∧ c ≤ 'Z' then some (c.toNat - 0x41 + 10)
  else none

/-- Whether a character is a digit of a base. -/
def isDigitOf (base : Nat) (c : Char) : Bool := (digit? c).any (· < base)

/-- A sign in front of characters, and the rest. -/
def signed : List Char → Bool × List Char
  | '-' :: rest => (true, rest)
  | '+' :: rest => (false, rest)
  | rest => (false, rest)

/-- The value of digits in a base; an underscore may stand between two of them. -/
def digitsIn? (base : Nat) : List Char → Nat → Bool → Option Nat
  | [], value, afterDigit => if afterDigit then some value else none
  | c :: rest, value, afterDigit =>
    if c = '_' then if afterDigit then digitsIn? base rest value false else none
    else
      match digit? c with
      | some digit =>
        if digit < base then digitsIn? base rest (value * base + digit) true else none
      | none => none

/-- The base that a letter after a zero stands for. -/
def lettered : Char → Nat
  | 'x' | 'X' => 16
  | 'o' | 'O' => 8
  | 'b' | 'B' => 2
  | _ => 0

/-- The base of an integer, and its digits. Base zero goes by the letter after a leading zero. -/
def basedDigits (base : Nat) : List Char → Nat × List Char
  | '0' :: letter :: rest =>
    let named := lettered letter
    if named ≠ 0 ∧ (base = named ∨ base = 0) then
      (named, match rest with
        | '_' :: rest => rest
        | rest => rest)
    else (if base = 0 then 10 else base, '0' :: letter :: rest)
  | rest => (if base = 0 then 10 else base, rest)

/-- How many digits lead some characters, if their number is limited: it is not in a base that is a
power of two. -/
def limitedDigits (base : Nat) (chars : List Char) : Nat :=
  let (base, digits) := basedDigits base (signed (trimmed chars)).2
  if base ∈ [2, 4, 8, 16, 32] then 0
  else ((digits.takeWhile fun c => c == '_' || isDigitOf base c).filter (· != '_')).length

/-- The integer that characters spell in a base. A leading zero is no part of a number in base
zero. -/
def int? (base : Nat) (chars : List Char) : Option Int := do
  let (negative, chars) := signed (trimmed chars)
  let (found, digits) := basedDigits base chars
  let value ← digitsIn? found digits 0 false
  if base = 0 ∧ found = 10 ∧ digits.head? = some '0' ∧ value ≠ 0 then none
  else some (if negative then -(value : Int) else value)

/-- Characters without the underscores between their digits; `none` if one stands elsewhere. -/
def ungrouped (before : Char) : List Char → Option (List Char)
  | [] => if before = '_' then none else some []
  | c :: rest =>
    if c = '_' then if before.isDigit then ungrouped c rest else none
    else if before = '_' ∧ !c.isDigit then none
    else (ungrouped c rest).map (c :: ·)

/-- The small letters of characters. -/
def lowered (chars : List Char) : String := String.ofList (chars.map Char.toLower)

/-- A number without a sign at the front of characters, and the rest. -/
def unsignedDouble? (chars : List Char) : Option (Double × List Char) :=
  if lowered (chars.take 8) = "infinity" then some (.infinity false, chars.drop 8)
  else if lowered (chars.take 3) = "inf" then some (.infinity false, chars.drop 3)
  else if lowered (chars.take 3) = "nan" then some (.nan, chars.drop 3)
  else
    let (whole, rest) := chars.span Char.isDigit
    let (fraction, rest) := match rest with
      | '.' :: more => more.span Char.isDigit
      | rest => ([], rest)
    if whole.isEmpty ∧ fraction.isEmpty then none
    else
      let (power, rest) := (Token.exponent? rest).getD (0, rest)
      let digits := (whole ++ fraction).dropWhile (· == '0')
      some (Token.decimalDouble (Token.digitsValue 10 digits) digits.length
        (power - fraction.length), rest)

/-- A number with a sign at the front of characters, and the rest. -/
def double? (chars : List Char) : Option (Double × List Char) := do
  let (negative, chars) := signed chars
  let (x, rest) ← unsignedDouble? chars
  return (if negative then x.neg else x, rest)

/-- The double that characters spell. -/
def wholeDouble? (chars : List Char) : Option Double := do
  let chars ← ungrouped ' ' (trimmed chars)
  match ← double? chars with
  | (x, []) => return x
  | _ => none

/-- The parts of the complex number that characters without blanks around them spell. -/
def complexParts? (chars : List Char) : Option (Double × Double) := do
  let unit (c : Char) : Bool := c == 'j' || c == 'J'
  /- an imaginary part, whose number may be missing -/
  let imaginary (chars : List Char) : Option (Double × List Char) :=
    match double? chars with
    | some found => some found
    | none =>
      let (negative, rest) := signed chars
      some (if negative then (Double.ofInt 1).neg else .ofInt 1, rest)
  let ending : List Char → Option Unit
    | [c] => if unit c then some () else none
    | _ => none
  match double? chars with
  | some (x, rest) =>
    match rest with
    | [] => return (x, .zero false)
    | c :: _ =>
      if c = '+' ∨ c = '-' then
        let (y, rest) ← imaginary rest
        ending rest
        return (x, y)
      else
        ending rest
        return (.zero false, x)
  | none =>
    let (y, rest) ← imaginary chars
    ending rest
    return (.zero false, y)

/-- The parts of the complex number that characters spell; it may stand in parentheses. -/
def complex? (chars : List Char) : Option (Double × Double) := do
  let chars ← ungrouped ' ' (trimmed chars)
  match chars with
  | '(' :: rest =>
    match (trimmed rest).reverse with
    | ')' :: inside => complexParts? (trimmed inside.reverse)
    | _ => none
  | _ => complexParts? chars

/-- The exponent of a number in base sixteen, if one is spelt. -/
def binaryExponent? : List Char → Option (Int × List Char)
  | mark :: rest =>
    if mark = 'p' ∨ mark = 'P' then
      let (negative, rest) := signed rest
      let (digits, rest) := rest.span Char.isDigit
      if digits.isEmpty then none
      else
        let value : Int := Token.digitsValue 10 digits
        some (if negative then -value else value, rest)
    else some (0, mark :: rest)
  | [] => some (0, [])

/-- A double of a significand and a power of two; far exponents are cut short. -/
def binaryDouble (significand : Nat) (power : Int) : Double :=
  if significand = 0 then .zero false
  else if 1100 < power + significand.log2 then .infinity false
  else if power + significand.log2 < -1200 then .zero false
  else .ofScaled false significand power

/-- The double that characters spell in base sixteen; a number too large has no double. -/
def hexDouble? (chars : List Char) : Option (Option Double) := do
  let (negative, chars) := signed (trimmed chars)
  let sign (x : Double) : Double := if negative then x.neg else x
  let word := lowered chars
  if word = "inf" ∨ word = "infinity" then return some (sign (.infinity false))
  else if word = "nan" then return some (sign .nan)
  else
    let chars := match chars with
      | '0' :: 'x' :: rest | '0' :: 'X' :: rest => rest
      | rest => rest
    let (whole, rest) := chars.span (isDigitOf 16)
    let (fraction, rest) := match rest with
      | '.' :: more => more.span (isDigitOf 16)
      | rest => ([], rest)
    if whole.isEmpty ∧ fraction.isEmpty then none
    match ← binaryExponent? rest with
    | (power, []) =>
      let x := binaryDouble (Token.digitsValue 16 (whole ++ fraction))
        (power - 4 * (fraction.length : Int))
      return if x.isInfinite then none else some (sign x)
    | _ => none

end ForeignBridge.Foreign.Spelling
