import ForeignBridge.Foreign.Routines.Integers
import ForeignBridge.Text.Utf8

/-! # Encodings

A text has a form in bytes in several encodings. What has no form is a fault, unless a rule for such
cases is named.
-/

namespace ForeignBridge.Foreign

/-- An encoding of texts as bytes. -/
inductive Encoding where
  | utf8
  /-- With a mark in front. -/
  | marked8
  | ascii
  | latin1
  /-- In units of two or four bytes, the last byte of each first or not, with a mark in front that
  tells which if none is asked for. -/
  | units (width : Nat) (little : Option Bool)
deriving DecidableEq, Repr, Inhabited

namespace Encoding

/-- A name with one mark for all that is no letter and no digit. -/
def plainName (name : String) : String :=
  let chars := name.toList.map fun c => if c.isAlphanum then c.toLower else '_'
  String.ofList (chars.foldr (fun c rest => match c, rest with
    | '_', '_' :: _ => rest
    | c, rest => c :: rest) [])

/-- The encoding of a name. -/
def ofName? (name : String) : Option Encoding :=
  match plainName name with
  | "utf_8" | "utf8" | "u8" | "utf" | "cp65001" => some utf8
  | "utf_8_sig" => some marked8
  | "ascii" | "us_ascii" | "646" | "iso646_us" | "ansi_x3_4_1968" | "cp367" => some ascii
  | "latin_1" | "latin1" | "iso_8859_1" | "iso8859_1" | "8859" | "cp819" | "l1" | "latin" |
    "iso8859" => some latin1
  | "utf_16" | "utf16" | "u16" => some (units 2 none)
  | "utf_16_le" | "utf_16le" => some (units 2 (some true))
  | "utf_16_be" | "utf_16be" => some (units 2 (some false))
  | "utf_32" | "utf32" | "u32" => some (units 4 none)
  | "utf_32_le" | "utf_32le" => some (units 4 (some true))
  | "utf_32_be" | "utf_32be" => some (units 4 (some false))
  | _ => none

/-- The name of an encoding in a fault. -/
def title : Encoding → String
  | utf8 => "utf-8"
  | marked8 => "utf-8"
  | ascii => "ascii"
  | latin1 => "latin-1"
  | units width little =>
    "utf-" ++ toString (8 * width) ++ (match little with
      | none => ""
      | some true => "-le"
      | some false => "-be")

/-- The bytes of a unit. -/
def unitBytes (width : Nat) (little : Bool) (n : Nat) : List Nat :=
  let bytes := bytesOf width n
  if little then bytes else bytes.reverse

/-- The bytes of a code point, if it has some. -/
def bytes? (encoding : Encoding) (code : Nat) : Option (List Nat) :=
  match encoding with
  | utf8 | marked8 => if code.isValidChar then some (CodePoints.utf8 code) else none
  | ascii => if code < 128 then some [code] else none
  | latin1 => if code < 256 then some [code] else none
  | units width little =>
    let unit := unitBytes width (little.getD true)
    if !code.isValidChar then none
    else if width = 4 ∨ code < 0x10000 then some (unit code)
    else
      let rest := code - 0x10000
      some (unit (0xD800 + rest / 0x400) ++ unit (0xDC00 + rest % 0x400))

/-- The bytes of a surrogate where surrogates pass. -/
def surrogateBytes (encoding : Encoding) (code : Nat) : List Nat :=
  match encoding with
  | units width little => unitBytes width (little.getD true) code
  | _ => CodePoints.utf8 code

/-- What is said of a code point that has no bytes. -/
def encodeFault : Encoding → String
  | ascii => "ordinal not in range(128)"
  | latin1 => "ordinal not in range(256)"
  | _ => "surrogates not allowed"

/-- The bytes in front of a text. -/
def markOf : Encoding → List Nat
  | marked8 => [0xEF, 0xBB, 0xBF]
  | units width none => unitBytes width true 0xFEFF
  | _ => []

/-- A piece of bytes: a code point of so many of them, or so many that are none. -/
inductive Piece where
  | code (code width : Nat)
  | fault (width : Nat) (reason : String)

/-- The bytes of a character beyond the first, within bounds of their own. -/
def followers : List (Nat × Nat) → List Nat → Nat → Nat → Piece
  | [], _, code, width => .code code width
  | _ :: _, [], _, width => .fault width "unexpected end of data"
  | (low, high) :: owed, byte :: rest, code, width =>
    if low ≤ byte ∧ byte ≤ high then followers owed rest (code * 64 + byte % 64) (width + 1)
    else .fault width "invalid continuation byte"

/-- The first piece of some bytes that are not empty. -/
def piece (encoding : Encoding) (little : Bool) (bytes : List Nat) : Piece :=
  let first := bytes.headD 0
  match encoding with
  | utf8 | marked8 =>
    match Utf8.lead? first with
    | none => .fault 1 "invalid start byte"
    | some (code, owed) => followers owed bytes.tail code 1
  | ascii =>
    if first < 128 then .code first 1 else .fault 1 "ordinal not in range(128)"
  | latin1 => .code first 1
  | units width _ =>
    let unit (bytes : List Nat) : Nat :=
      ofBytes (if little then bytes.take width else (bytes.take width).reverse)
    if bytes.length < width then .fault bytes.length "truncated data"
    else
      let code := unit bytes
      if width = 4 then
        if code.isValidChar then .code code 4
        else if 0x110000 ≤ code then .fault 4 "code point not in range(0x110000)"
        else .fault 4 "code point in surrogate code point range(0xd800, 0xe000)"
      else if code < 0xD800 ∨ 0xDFFF < code then .code code 2
      else if 0xDC00 ≤ code then .fault 2 "illegal encoding"
      else
        let rest := bytes.drop 2
        if rest.length < 2 then .fault bytes.length "unexpected end of data"
        else
          let low := unit rest
          if 0xDC00 ≤ low ∧ low ≤ 0xDFFF then
            .code (0x10000 + (code - 0xD800) * 0x400 + (low - 0xDC00)) 4
          else .fault 2 "illegal UTF-16 surrogate"

/-- Whether the last byte of a unit comes first, as a mark in front of bytes says, and the bytes
behind the mark. -/
def unmarked (encoding : Encoding) (bytes : List Nat) : Bool × List Nat :=
  match encoding with
  | marked8 => (true, if [0xEF, 0xBB, 0xBF].isPrefixOf bytes then bytes.drop 3 else bytes)
  | units width none =>
    if (unitBytes width true 0xFEFF).isPrefixOf bytes then (true, bytes.drop width)
    else if (unitBytes width false 0xFEFF).isPrefixOf bytes then (false, bytes.drop width)
    else (true, bytes)
  | units _ (some little) => (little, bytes)
  | _ => (true, bytes)

end Encoding

namespace Run

/-- Raises that a part of a text has no bytes. -/
def failEncode {α : Type} (title : String) (text : CodePoints) (start stop : Nat)
    (reason : String) : Run α := do
  let encoding ← newString title
  let object ← newText text
  let first ← newInt start
  let last ← newInt stop
  let reason ← newString reason
  raise (← newExceptionWith .unicodeEncodeError [encoding, object, first, last, reason]
    [("encoding", encoding), ("object", object), ("start", first), ("end", last),
     ("reason", reason)])

/-- Raises that some bytes are no text. -/
def failDecode {α : Type} (title : String) (bytes : List Nat) (start stop : Nat)
    (reason : String) : Run α := do
  let encoding ← newString title
  let object ← newBytes bytes
  let first ← newInt start
  let last ← newInt stop
  let reason ← newString reason
  raise (← newExceptionWith .unicodeDecodeError [encoding, object, first, last, reason]
    [("encoding", encoding), ("object", object), ("start", first), ("end", last),
     ("reason", reason)])

/-- Raises that a text with a lone surrogate has no form in UTF-8. -/
def unencodable {α : Type} (text : CodePoints) : Run α := do
  match text.firstSurrogate? with
  | none => fail .valueError "surrogates not allowed"
  | some (place, _) =>
    let width := ((text.codes.drop place).takeWhile fun code => !code.isValidChar).length
    failEncode "utf-8" text place (place + width) "surrogates not allowed"

/-- The fault of a rule that is not known. -/
def unknownRule {α : Type} (rule : String) : Run α :=
  fail .lookupError ("unknown error handler name '" ++ rule ++ "'")

/-- A code point spelt by number between marks. -/
def referenced (code : Nat) : List Nat :=
  0x26 :: 0x23 :: (Nat.toDigits 10 code).map Char.toNat ++ [0x3B]

/-- What stands for a code point without bytes under a rule. -/
def substitute (encoding : Encoding) (rule : String) (text : CodePoints) (start stop code : Nat) :
    Run (List Nat) := do
  let plain (codes : List Nat) : List Nat :=
    codes.flatMap fun code => (encoding.bytes? code).getD []
  let strict {α : Type} : Run α :=
    failEncode encoding.title text start stop encoding.encodeFault
  match rule with
  | "strict" => strict
  | "ignore" => return []
  | "replace" => return plain [0x3F]
  | "backslashreplace" => return plain (CodePoints.numbered code)
  | "xmlcharrefreplace" => return plain (referenced code)
  | "surrogatepass" =>
    match encoding with
    | .ascii | .latin1 => strict
    | _ => if code.isValidChar then strict else return encoding.surrogateBytes code
  | "surrogateescape" =>
    if 0xDC80 ≤ code ∧ code ≤ 0xDCFF then return [code - 0xDC00] else strict
  | _ => unknownRule rule

/-- The bytes of the code points of a text from a place on. -/
def encodeFrom (encoding : Encoding) (rule : String) (text : CodePoints) :
    Nat → List Nat → Run (List Nat)
  | _, [] => return []
  | place, code :: rest => do
    let bytes ← match encoding.bytes? code with
      | some bytes => pure bytes
      | none =>
        let width := ((code :: rest).takeWhile fun code => (encoding.bytes? code).isNone).length
        substitute encoding rule text place (place + width) code
    return bytes ++ (← encodeFrom encoding rule text (place + 1) rest)

/-- The encoding of a name. -/
def encodingOf (name : String) : Run Encoding := do
  match Encoding.ofName? name with
  | some encoding => return encoding
  | none => fail .lookupError ("unknown encoding: " ++ name)

/-- The bytes of a text. -/
def encodeText (text : CodePoints) (encoding rule : Option String) : Run (List Nat) := do
  let encoding ← encodingOf (encoding.getD "utf-8")
  return encoding.markOf ++ (← encodeFrom encoding (rule.getD "strict") text 0 text.codes)

/-- What stands for some bytes that are no text under a rule. -/
def replacement (encoding : Encoding) (rule : String) (bytes : List Nat) (start width : Nat)
    (reason : String) : Run (List Nat × Nat) := do
  let wrong := (bytes.drop start).take width
  let strict {α : Type} : Run α :=
    failDecode encoding.title bytes start (start + width) reason
  match rule with
  | "strict" => strict
  | "ignore" => return ([], width)
  | "replace" => return ([0xFFFD], width)
  | "backslashreplace" =>
    return (wrong.flatMap fun byte => 0x5C :: 0x78 :: CodePoints.hexPadded 2 byte, width)
  | "surrogateescape" =>
    let escaped := wrong.takeWhile (128 ≤ ·)
    if escaped.isEmpty then strict else return (escaped.map (0xDC00 + ·), escaped.length)
  | "surrogatepass" =>
    match encoding, bytes.drop start with
    | .utf8, a :: b :: c :: _ =>
      let code := a % 16 * 4096 + b % 64 * 64 + c % 64
      if a / 16 = 14 ∧ b / 64 = 2 ∧ c / 64 = 2 ∧ 0xD800 ≤ code ∧ code ≤ 0xDFFF then
        return ([code], 3)
      else strict
    | _, _ => strict
  | _ => unknownRule rule

/-- The code points of bytes from a place on. -/
def decodeFrom (encoding : Encoding) (rule : String) (little : Bool) (bytes : List Nat) :
    Nat → Nat → List Nat → Run (List Nat)
  | 0, _, _ => return []
  | _, _, [] => return []
  | fuel + 1, place, rest => do
    match encoding.piece little rest with
    | .code code width =>
      return code :: (← decodeFrom encoding rule little bytes fuel (place + width) (rest.drop width))
    | .fault width reason =>
      let (codes, width) ← replacement encoding rule bytes place width reason
      return codes ++
        (← decodeFrom encoding rule little bytes fuel (place + width) (rest.drop width))

/-- The text of some bytes. -/
def decodeBytes (bytes : List Nat) (encoding rule : Option String) : Run CodePoints := do
  if bytes.isEmpty then return ⟨[]⟩
  let encoding ← encodingOf (encoding.getD "utf-8")
  let (little, rest) := encoding.unmarked bytes
  return ⟨← decodeFrom encoding (rule.getD "strict") little bytes (bytes.length + 1)
    (bytes.length - rest.length) rest⟩

/-- A name in an argument, if it is there; it must be a text. -/
def nameArgument? (title parameter : String) (value : Handle) : Run (Option String) := do
  if value.isNull then return none
  match ← text? value with
  | some text =>
    if text.codes.contains 0 then fail .valueError "embedded null character"
    return some text.lossy
  | none => badArgument title ("argument '" ++ parameter ++ "'") "str" value

end Run

end ForeignBridge.Foreign
