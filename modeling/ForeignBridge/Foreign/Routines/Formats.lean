import ForeignBridge.Foreign.Characters.Classes
import ForeignBridge.Foreign.CodePoints
import ForeignBridge.Number.Digits

/-! # Formats

A format is a text that says how a value is written: the width, where the value stands in it, what
fills the rest, and for numbers the sign, the base, the digits and the marks between them.
-/

namespace ForeignBridge.Foreign

/-- A format as it is read from its text. -/
structure Format where
  fill : Nat
  /-- Where the value stands: one of the four signs for it. -/
  align : Char
  sign : Option Char
  /-- Whether a negative zero loses its sign. -/
  plainZero : Bool
  alternate : Bool
  width : Option Nat
  /-- The mark between groups of digits. -/
  separator : Option Char
  precision : Option Nat
  kind : Nat
deriving Repr, Inhabited

namespace Format

/-- Whether a code point is a sign for where a value stands. -/
def isAlignment (code : Nat) : Bool := code ∈ [0x3C, 0x3E, 0x3D, 0x5E]

/-- Whether a code point is a digit of a width. -/
def isDigit (code : Nat) : Bool := 0x30 ≤ code && code ≤ 0x39

/-- A number in front of code points, and the rest. -/
def number (codes : List Nat) : Except String (Option Nat × List Nat) :=
  let (digits, rest) := codes.span fun code => (Characters.decimalValue? code).isSome
  if digits.isEmpty then .ok (none, rest)
  else
    let value := digits.foldl
      (fun value code => value * 10 + (Characters.decimalValue? code).getD 0) 0
    if twoTo 63 ≤ value then .error "Too many decimal digits in format string"
    else .ok (some value, rest)

/-- The words for a code point in a fault. -/
def shown (code : Nat) : String :=
  if 32 < code ∧ code < 128 then String.ofList [Char.ofNat code]
  else "\\x" ++ String.ofList (Nat.toDigits 16 code)

/-- The fault of a code that a class does not know. -/
def unknown (kind : Nat) (type : String) : String :=
  "Unknown format code '" ++ shown kind ++ "' for object of type '" ++ type ++ "'"

/-- The mark between groups of digits in front of code points, and the rest. -/
def separatorOf (codes : List Nat) : Except String (Option Char × List Nat) :=
  let both : Except String (Option Char × List Nat) := .error "Cannot specify both ',' and '_'."
  match codes with
  | 0x2C :: 0x5F :: _ => both
  | 0x5F :: 0x2C :: _ => both
  | 0x2C :: rest => .ok (some ',', rest)
  | 0x5F :: rest => .ok (some '_', rest)
  | rest => .ok (none, rest)

/-- The format that a text asks for, given the kind and the alignment it has otherwise, and the name
of the class for which it is. -/
def ofText (text : CodePoints) (kind : Nat) (align : Char) (type : String) :
    Except String Format := do
  let codes := text.codes
  let (fill, given, codes) := match codes with
    | fill :: mark :: rest =>
      if isAlignment mark then (some fill, some (Char.ofNat mark), rest)
      else if isAlignment fill then (none, some (Char.ofNat fill), mark :: rest)
      else (none, none, codes)
    | [mark] => if isAlignment mark then (none, some (Char.ofNat mark), []) else (none, none, codes)
    | [] => (none, none, [])
  let (sign, codes) := match codes with
    | 0x2B :: rest => (some '+', rest)
    | 0x2D :: rest => (some '-', rest)
    | 0x20 :: rest => (some ' ', rest)
    | rest => (none, rest)
  let (plainZero, codes) := match codes with
    | 0x7A :: rest => (true, rest)
    | rest => (false, rest)
  let (alternate, codes) := match codes with
    | 0x23 :: rest => (true, rest)
    | rest => (false, rest)
  let (fill, given, codes) := match fill, codes with
    | none, 0x30 :: rest =>
      (some 0x30, if given.isNone && align == '>' then some '=' else given, rest)
    | fill, rest => (fill, given, rest)
  let (width, codes) ← number codes
  let (separator, codes) ← separatorOf codes
  let (precision, codes) ← match codes with
    | 0x2E :: rest =>
      match ← number rest with
      | (some value, rest) => pure (some value, rest)
      | (none, _) => throw "Format specifier missing precision"
    | rest => pure (none, rest)
  let kind ← match codes with
    | [] => pure kind
    | [found] => pure found
    | _ =>
      throw ("Invalid format specifier '" ++ text.lossy ++ "' for object of type '" ++ type ++ "'")
  match separator with
  | some mark =>
    let isPlain := kind == 0 || kind ∈ "defgEG%F".toList.map Char.toNat
    let inBase := kind ∈ "boxX".toList.map Char.toNat
    unless isPlain || (inBase && mark == '_') do
      throw ("Cannot specify '" ++ String.singleton mark ++ "' with '" ++ shown kind ++ "'.")
  | none => pure ()
  return { fill := fill.getD 0x20, align := given.getD align, sign, plainZero, alternate, width,
           separator, precision, kind }

/-- Code points in a width. -/
def pad (format : Format) (codes : List Nat) : List Nat :=
  let room := format.width.getD 0 - codes.length
  let left := match format.align with
    | '<' => 0
    | '^' => room / 2
    | _ => room
  List.replicate left format.fill ++ codes ++ List.replicate (room - left) format.fill

/-- A text in a format. -/
def writeText (format : Format) (text : List Nat) : Except String (List Nat) := do
  match format.sign with
  | some ' ' => throw "Space not allowed in string format specifier"
  | some _ => throw "Sign not allowed in string format specifier"
  | none => pure ()
  if format.plainZero then
    throw "Negative zero coercion (z) not allowed in string format specifier"
  if format.alternate then throw "Alternate form (#) not allowed in string format specifier"
  if format.align = '=' then throw "'=' alignment not allowed in string format specifier"
  let text := match format.precision with
    | some most => text.take most
    | none => text
  return format.pad text

/-- Digits in groups, the last one first, with zeros up to a least width. -/
def groups (size : Nat) (mark : Option Char) : Nat → List Char → Nat → List Char
  | 0, digits, _ => digits
  | fuel + 1, digits, least =>
    match mark with
    | none => digits ++ List.replicate (max least 1 - digits.length) '0'
    | some mark =>
      let count := min size (max (max digits.length least) 1)
      let group := digits.take count ++ List.replicate (count - digits.length) '0'
      let rest := digits.drop count
      if rest.isEmpty ∧ least ≤ count then group
      else group ++ mark :: groups size (some mark) fuel rest (least - count - 1)

/-- A number in a format, given its sign, what stands between the sign and the digits, the digits
before the point, and all that follows. -/
def writeNumber (format : Format) (negative : Bool) (front whole rest : List Char) : List Nat :=
  let sign := if negative then ['-'] else match format.sign with
    | some '+' => ['+']
    | some ' ' => [' ']
    | _ => []
  let width := format.width.getD 0
  let others := sign.length + front.length + rest.length
  let least := if format.fill = 0x30 ∧ format.align = '=' then width - others else 0
  let size := if format.kind ∈ "boxX".toList.map Char.toNat then 4 else 3
  let grouped := if whole.isEmpty then []
    else (groups size format.separator (whole.length + least + 1) whole.reverse least).reverse
  let codes (chars : List Char) : List Nat := chars.map Char.toNat
  if format.align = '=' then
    let room := width - (others + grouped.length)
    codes sign ++ codes front ++ List.replicate room format.fill ++ codes grouped ++ codes rest
  else format.pad (codes (sign ++ front ++ grouped ++ rest))

/-- The kinds of formats that integers have as doubles. -/
def isReal (kind : Nat) : Bool := kind ∈ "eEfFgG%".toList.map Char.toNat

/-- The kinds of formats of integers. -/
def isIntegral (kind : Nat) : Bool := kind ∈ "bcdoxXn".toList.map Char.toNat

/-- The base that a kind of format stands for, and the letter that marks it. -/
def baseOf (kind : Nat) : Nat × List Char :=
  match Char.ofNat kind with
  | 'b' => (2, ['0', 'b'])
  | 'o' => (8, ['0', 'o'])
  | 'x' => (16, ['0', 'x'])
  | 'X' => (16, ['0', 'X'])
  | _ => (10, [])

/-- An integer in a format. -/
def writeInt (format : Format) (n : Int) : Except String (List Nat) := do
  if format.precision.isSome then throw "Precision not allowed in integer format specifier"
  if format.plainZero then
    throw "Negative zero coercion (z) not allowed in integer format specifier"
  if format.kind = 'c'.toNat then
    if format.sign.isSome then
      throw "Sign not allowed with integer format specifier 'c'"
    if format.alternate then
      throw "Alternate form (#) not allowed with integer format specifier 'c'"
    let format := { format with align := if format.align = '=' then '>' else format.align }
    return format.pad [n.toNat]
  else
    let (base, mark) := baseOf format.kind
    let digits := Nat.toDigits base n.natAbs
    let digits := if format.kind = 'X'.toNat then digits.map Char.toUpper else digits
    return format.writeNumber (decide (n < 0)) (if format.alternate then mark else []) digits []

/-- The digits before the point of a number, and all that follows. -/
def splitWhole (text : List Char) : List Char × List Char := text.span Char.isDigit

/-- The layout of doubles in a format. -/
def layoutOf (format : Format) : NumberLayout :=
  let kind := (Char.ofNat format.kind).toLower
  let isPlain := format.kind == 0
  let precision := match format.precision with
    | some precision => precision
    | none => 6
  let kind :=
    if isPlain then (if format.precision.isSome then 'g' else 'r')
    else if kind = '%' then 'f'
    else if kind = 'n' then 'g'
    else kind
  ⟨kind, precision, format.alternate, isPlain⟩

/-- The text of a double in a format without its sign, and whether it has one. -/
def realText (format : Format) (x : Double) : Bool × List Char :=
  let percent := format.kind == '%'.toNat
  let x := if percent then x.mul (.ofInt 100) else x
  let text := format.layoutOf.write x
  let isNothing := text.all fun c => !c.isDigit || c == '0'
  let negative := x.isNegative && !x.isNaN &&
    !(format.plainZero && x.isFinite && isNothing)
  let text := if (Char.ofNat format.kind).isUpper then text.map Char.toUpper else text
  (negative, text ++ (if percent then ['%'] else []))

/-- A double in a format. -/
def writeReal (format : Format) (x : Double) : List Nat :=
  let (negative, text) := format.realText x
  let (whole, rest) := splitWhole text
  format.writeNumber negative [] whole rest

/-- A complex number in a format. -/
def writeComplex (format : Format) (x y : Double) : Except String (List Nat) := do
  if format.fill = 0x30 then
    throw "Zero padding is not allowed in complex format specifier"
  if format.align = '=' then
    throw "'=' alignment flag is not allowed in complex format specifier"
  let bare := { format with width := none, align := '>' }
  let bare := if format.kind = 0 then { bare with kind := 'g'.toNat } else bare
  let layout : NumberLayout :=
    if format.kind = 0 then
      match format.precision with
      | some precision => ⟨'g', precision, format.alternate, false⟩
      | none => ⟨'r', 0, format.alternate, false⟩
    else bare.layoutOf
  let part (format : Format) (x : Double) : List Nat :=
    let text := layout.write x
    let text := if (Char.ofNat format.kind).isUpper then text.map Char.toUpper else text
    let (whole, rest) := splitWhole text
    format.writeNumber (x.isNegative && !x.isNaN) [] whole rest
  let imaginary := part { bare with sign := some '+' } y ++ ['j'.toNat]
  if format.kind = 0 ∧ x.isZero ∧ !x.isNegative then
    return format.pad (part bare y ++ ['j'.toNat])
  else
    let both := part bare x ++ imaginary
    return format.pad (if format.kind = 0 then 0x28 :: both ++ [0x29] else both)

end Format

end ForeignBridge.Foreign
