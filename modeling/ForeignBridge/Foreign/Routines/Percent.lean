import ForeignBridge.Foreign.Routines.Doubles
import ForeignBridge.Foreign.Routines.Encodings

/-! # Percent patterns

A pattern whose fields begin with a percent sign. A field says what kind of text is made of its
argument, in which width, and with which signs and digits. The arguments are the items of a tuple, one
object, or a mapping that fields name keys of.
-/

namespace ForeignBridge.Foreign

/-- The marks of a field. -/
structure PercentFlags where
  left : Bool
  sign : Bool
  blank : Bool
  alternate : Bool
  zero : Bool
deriving Repr, Inhabited

/-- A field of a pattern. -/
structure PercentField where
  flags : PercentFlags
  width : Nat
  precision : Option Nat
  kind : Nat
deriving Repr, Inhabited

namespace PercentField

/-- The marks in front of a field, and the rest. -/
def readFlags (flags : PercentFlags) : List Nat → PercentFlags × List Nat
  | 0x2D :: rest => readFlags { flags with left := true } rest
  | 0x2B :: rest => readFlags { flags with sign := true } rest
  | 0x20 :: rest => readFlags { flags with blank := true } rest
  | 0x23 :: rest => readFlags { flags with alternate := true } rest
  | 0x30 :: rest => readFlags { flags with zero := true } rest
  | rest => (flags, rest)

/-- The key in parentheses behind an opening one, and the rest. -/
def key (depth : Nat) : List Nat → Option (List Nat × List Nat)
  | [] => none
  | code :: rest =>
    if code = 0x29 ∧ depth = 0 then some ([], rest)
    else
      let depth := if code = 0x28 then depth + 1 else if code = 0x29 then depth - 1 else depth
      (key depth rest).map fun (inside, rest) => (code :: inside, rest)

/-- A text in the width of a field: its sign and mark of a base, and its digits. -/
def pad (field : PercentField) (numeric : Bool) (front text : List Nat) : List Nat :=
  let room := field.width - front.length - text.length
  if field.flags.left then front ++ text ++ List.replicate room 0x20
  else if numeric && field.flags.zero then front ++ List.replicate room 0x30 ++ text
  else List.replicate room 0x20 ++ front ++ text

/-- The sign of a number in a field. -/
def signOf (field : PercentField) (negative : Bool) : List Nat :=
  if negative then [0x2D] else if field.flags.sign then [0x2B]
  else if field.flags.blank then [0x20] else []

/-- An integer in a field. -/
def writeInt (field : PercentField) (n : Int) : List Nat :=
  let (base, mark) := match Char.ofNat field.kind with
    | 'o' => (8, ['0', 'o'])
    | 'x' => (16, ['0', 'x'])
    | 'X' => (16, ['0', 'X'])
    | _ => (10, [])
  let digits := Nat.toDigits base n.natAbs
  let digits := if field.kind = 'X'.toNat then digits.map Char.toUpper else digits
  let digits := List.replicate (field.precision.getD 0 - digits.length) '0' ++ digits
  let mark := if field.flags.alternate then mark else []
  field.pad true (field.signOf (decide (n < 0)) ++ mark.map Char.toNat) (digits.map Char.toNat)

/-- A double in a field. -/
def writeReal (field : PercentField) (x : Double) : List Nat :=
  let letter := Char.ofNat field.kind
  let layout : NumberLayout :=
    ⟨letter.toLower, field.precision.getD 6, field.flags.alternate, false⟩
  let text := layout.write x
  let text := if letter.isUpper then text.map Char.toUpper else text
  field.pad true (field.signOf (x.isNegative && !x.isNaN)) (text.map Char.toNat)

end PercentField

/-- What is left of the arguments of a pattern. -/
structure PercentArguments where
  rest : List Handle
  mapping : Option Handle
  /-- Whether the one argument is no tuple. -/
  single : Bool

/-- How texts or bytes are made by a pattern. -/
structure PercentRule where
  /-- Whether the pattern is made of bytes. -/
  inBytes : Bool
  /-- The words for what a single character must be. -/
  single : String

namespace Run

/-- The next argument of a pattern. -/
def nextArgument (arguments : PercentArguments) : Run (Handle × PercentArguments) :=
  match arguments.rest with
  | first :: rest => return (first, { arguments with rest })
  | [] => fail .typeError "not enough arguments for format string"

/-- A number in a pattern, which an argument may give, and the rest. -/
def percentNumber (arguments : PercentArguments) (tooBig : String) :
    List Nat → Run (Option Int × PercentArguments × List Nat)
  | 0x2A :: rest => do
    let (given, arguments) ← nextArgument arguments
    match ← int? given with
    | some n => return (some n, arguments, rest)
    | none => fail .typeError "* wants int"
  | codes => do
    let (digits, rest) := codes.span fun code => 0x30 ≤ code && code ≤ 0x39
    if digits.isEmpty then return (none, arguments, rest)
    let n := digits.foldl (fun value code => value * 10 + (code - 0x30)) 0
    if twoTo 63 ≤ n then fail .valueError tooBig
    return (some (n : Int), arguments, rest)

/-- A field behind its percent sign, the rest of the pattern, and the arguments that are left. -/
def percentField (arguments : PercentArguments) (codes : List Nat) :
    Run (PercentField × PercentArguments × List Nat) := do
  let (flags, codes) := PercentField.readFlags ⟨false, false, false, false, false⟩ codes
  let (width, arguments, codes) ← percentNumber arguments "width too big" codes
  let flags := if width.any (· < 0) then { flags with left := true } else flags
  let (precision, arguments, codes) ← match codes with
    | 0x2E :: rest => do
      let (found, arguments, rest) ← percentNumber arguments "precision too big" rest
      pure (some (found.getD 0), arguments, rest)
    | rest => pure (none, arguments, rest)
  let codes := match codes with
    | 0x68 :: rest | 0x6C :: rest | 0x4C :: rest => rest
    | rest => rest
  match codes with
  | [] => fail .valueError "incomplete format"
  | kind :: rest =>
    return (⟨flags, (width.getD 0).natAbs, precision.map Int.toNat, kind⟩, arguments, rest)

/-- The integer that an argument of a field for integers stands for. -/
def percentInt (invoke : Invoke) (kind : Char) (value : Handle) : Run Int := do
  let isHex := kind == 'x' || kind == 'X' || kind == 'o'
  let wrong {α : Type} : Run α := do
    fail .typeError ("%" ++ String.singleton kind ++ " format: " ++
      (if isHex then "an integer" else "a real number") ++ " is required, not " ++
      (← typeName value))
  match ← int? value with
  | some n => return n
  | none =>
    if isHex then
      match ← unlessRaised .typeError (asIndex invoke value) with
      | some n => return n
      | none => wrong
    else
      let isNumber := (← typeAttribute value "__int__").isSome ||
        (← typeAttribute value "__index__").isSome || (← typeAttribute value "__float__").isSome
      if !isNumber then wrong
      match ← unlessRaised .typeError (intArgument invoke value) with
      | some n => return n
      | none => wrong

/-- The double that an argument of a field for doubles stands for. -/
def percentReal (invoke : Invoke) (rule : PercentRule) (value : Handle) : Run Double := do
  match ← body value with
  | .float x => return x
  | _ =>
    match ← realNumber? invoke value with
    | some x => return x
    | none =>
      if rule.inBytes then
        fail .typeError ("float argument required, not " ++ (← typeName value))
      else fail .typeError ("must be real number, not " ++ (← typeName value))

/-- The code of a single character or byte. -/
def percentSingle (invoke : Invoke) (rule : PercentRule) (value : Handle) : Run Nat := do
  let bound : Int := if rule.inBytes then 256 else 0x110000
  let wrong {α : Type} : Run α := fail .typeError rule.single
  match ← body value with
  | .text text =>
    match rule.inBytes, text.codes with
    | false, [code] => return code
    | _, _ => wrong
  | .bytes bytes =>
    match rule.inBytes, bytes with
    | true, [byte] => return byte
    | _, _ => wrong
  | _ =>
    match ← unlessRaised .typeError (asIndex invoke value) with
    | none => wrong
    | some n =>
      if 0 ≤ n ∧ n < bound then return n.toNat
      else
        fail .overflowError (if rule.inBytes then "%c arg not in range(256)"
          else "%c arg not in range(0x110000)")

/-- The bytes of an argument of a field for bytes. -/
def percentBytes (invoke : Invoke) (value : Handle) : Run (List Nat) := do
  match ← body value with
  | .bytes bytes => return bytes
  | _ =>
    match ← callSpecial? invoke value "__bytes__" [] with
    | some answer =>
      match ← body answer with
      | .bytes bytes => return bytes
      | _ => fail .typeError ("__bytes__ returned non-bytes (type " ++ (← typeName answer) ++ ")")
    | none =>
      fail .typeError ("%b requires a bytes-like object, or an object that implements " ++
        "__bytes__, not '" ++ (← typeName value) ++ "'")

/-- What a field makes of its argument; a text that stays as it is keeps its object. -/
def percentText (invoke : Invoke) (rule : PercentRule) (field : PercentField) (value : Handle)
    (place : Nat) : Run (List Nat × Option Handle) := do
  let kind := Char.ofNat field.kind
  let cut (codes : List Nat) : List Nat :=
    match field.precision with
    | some most => codes.take most
    | none => codes
  let asText (made : Handle) : Run (List Nat × Option Handle) := do
    let text ← codePoints made
    let laid := field.pad false [] (cut text.codes)
    return (laid, if laid == text.codes then some made else none)
  let plain (codes : List Nat) : List Nat × Option Handle := (field.pad false [] (cut codes), none)
  if kind ∈ ['d', 'i', 'u', 'o', 'x', 'X'] then
    let n ← percentInt invoke kind value
    if kind ∈ ['d', 'i', 'u'] then
      let _ ← intText n
    return (field.writeInt n, none)
  else if kind ∈ ['e', 'E', 'f', 'F', 'g', 'G'] then
    return (field.writeReal (← percentReal invoke rule value), none)
  else if kind = 'c' then
    return (field.pad false [] [← percentSingle invoke rule value], none)
  else if kind = 'a' ∨ (kind = 'r' ∧ rule.inBytes) then
    if rule.inBytes then return plain (← codePoints (← asciiOf invoke value)).codes
    else asText (← asciiOf invoke value)
  else if kind = 'r' then asText (← reprOf invoke value)
  else if kind = 's' ∧ !rule.inBytes then asText (← strOf invoke value)
  else if rule.inBytes ∧ (kind = 's' ∨ kind = 'b') then
    return plain (← percentBytes invoke value)
  else
    let shown := if 31 ≤ field.kind ∧ field.kind ≤ 126 then kind else '?'
    fail .valueError ("unsupported format character '" ++ String.singleton shown ++ "' (0x" ++
      String.ofList (Nat.toDigits 16 field.kind) ++ ") at index " ++ toString place)

/-- The parts of a pattern filled with arguments, and the arguments that are left. -/
def percentParts (invoke : Invoke) (rule : PercentRule) (length : Nat) :
    Nat → PercentArguments → List Nat →
      Run (List (List Nat × Option Handle) × PercentArguments)
  | 0, arguments, _ => return ([], arguments)
  | _, arguments, [] => return ([], arguments)
  | fuel + 1, arguments, 0x25 :: codes => do
    let (arguments, codes) ← match codes with
      | 0x28 :: rest =>
        match arguments.mapping with
        | none => fail .typeError "format requires a mapping"
        | some mapping =>
          match PercentField.key 0 rest with
          | none => fail .valueError "incomplete format key"
          | some (key, rest) => do
            let key ← if rule.inBytes then newBytes key else newText ⟨key⟩
            let value ← getItem invoke mapping key
            pure ({ arguments with rest := [value], single := false }, rest)
      | rest => pure (arguments, rest)
    let (field, arguments, rest) ← percentField arguments codes
    if field.kind = 0x25 then
      let (others, arguments) ← percentParts invoke rule length fuel arguments rest
      return (([0x25], none) :: others, arguments)
    let (value, arguments) ← nextArgument arguments
    let first ← percentText invoke rule field value (length - rest.length - 1)
    let (others, arguments) ← percentParts invoke rule length fuel arguments rest
    return (first :: others, arguments)
  | fuel + 1, arguments, codes => do
    let (front, rest) := codes.span (· != 0x25)
    let (others, arguments) ← percentParts invoke rule length fuel arguments rest
    return ((front, none) :: others, arguments)

/-- What a pattern is filled with, given the object behind the percent sign. -/
def percentArguments (rule : PercentRule) (value : Handle) : Run PercentArguments := do
  match ← body value, rule.inBytes with
  | .tuple items, _ => return ⟨items, none, false⟩
  | .text _, _ | .bytes _, true => return ⟨[value], none, true⟩
  | _, _ =>
    let isMapping := (← typeAttribute value "__getitem__").isSome
    return ⟨[value], if isMapping then some value else none, true⟩

/-- The parts of a pattern filled with the arguments in an object, all of which must be used. -/
def percentFilled (invoke : Invoke) (rule : PercentRule) (codes : List Nat) (value : Handle) :
    Run (List (List Nat × Option Handle)) := do
  let arguments ← percentArguments rule value
  let (parts, left) ← percentParts invoke rule codes.length (codes.length + 1) arguments codes
  if !left.rest.isEmpty ∧ left.mapping.isNone then
    fail .typeError (if rule.inBytes
      then "not all arguments converted during bytes formatting"
      else "not all arguments converted during string formatting")
  return parts

/-- A text pattern filled with the arguments in an object. -/
def percentOfText (invoke : Invoke) (pattern : CodePoints) (value : Handle) : Run Handle := do
  let parts ← percentFilled invoke ⟨false, "%c requires int or char"⟩ pattern.codes value
  match parts with
  | [(_, some made)] => asPlainText made
  | parts => newText ⟨parts.flatMap (·.1)⟩

end Run

end ForeignBridge.Foreign
