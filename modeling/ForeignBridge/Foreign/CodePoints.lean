import ForeignBridge.Foreign.Characters.Printable

/-! # Code points

A text of the interpreter is a sequence of code points and may hold lone surrogates, which no
`String` can. A text has a `String` exactly when it holds none.
-/

namespace ForeignBridge.Foreign

/-- A text of the interpreter. -/
structure CodePoints where
  codes : List Nat
deriving DecidableEq, Repr, Inhabited

namespace CodePoints

/-- The code points of a string. -/
def ofString (text : String) : CodePoints := ⟨text.toList.map Char.toNat⟩

/-- The character of a code point that is one. -/
def char? (code : Nat) : Option Char := if code.isValidChar then some (Char.ofNat code) else none

/-- The string of a text without lone surrogates. -/
def string? (text : CodePoints) : Option String := (text.codes.mapM char?).map String.ofList

/-- The string of a text, with a replacement for each lone surrogate. -/
def lossy (text : CodePoints) : String := String.ofList (text.codes.map Char.ofNat)

/-- The first lone surrogate and where it stands. -/
def firstSurrogate? (text : CodePoints) : Option (Nat × Nat) :=
  (text.codes.zipIdx.find? fun (code, _) => !code.isValidChar).map fun (code, index) => (index, code)

def length (text : CodePoints) : Nat := text.codes.length

def append (a b : CodePoints) : CodePoints := ⟨a.codes ++ b.codes⟩

/-- Digits in base sixteen, with zeros in front up to a width. -/
def hexPadded (width n : Nat) : List Nat :=
  let digits := (Nat.toDigits 16 n).map Char.toNat
  List.replicate (width - digits.length) 0x30 ++ digits

/-- A code point that does not show by itself, spelt by number. -/
def numbered (code : Nat) : List Nat :=
  if code ≤ 0xFF then 0x5C :: 0x78 :: hexPadded 2 code
  else if code ≤ 0xFFFF then 0x5C :: 0x75 :: hexPadded 4 code
  else 0x5C :: 0x55 :: hexPadded 8 code

/-- A code point as it stands between a pair of a quotation mark. -/
def escaped (mark code : Nat) : List Nat :=
  if code = mark ∨ code = 0x5C then [0x5C, code]
  else if code = 0x09 then [0x5C, 0x74]
  else if code = 0x0A then [0x5C, 0x6E]
  else if code = 0x0D then [0x5C, 0x72]
  else if Characters.isPrintable code then [code]
  else numbered code

/-- The mark that a text is quoted with: the single one unless only that one stands in the text. -/
def mark (codes : List Nat) : Nat := if 0x27 ∈ codes ∧ 0x22 ∉ codes then 0x22 else 0x27

/-- A text in quotes. -/
def quoted (text : CodePoints) : CodePoints :=
  let mark := mark text.codes
  ⟨mark :: text.codes.flatMap (escaped mark) ++ [mark]⟩

/-- Bytes in quotes, after the letter that marks them. -/
def quotedBytes (bytes : List Nat) : CodePoints :=
  let mark := mark bytes
  ⟨0x62 :: mark :: bytes.flatMap (fun byte =>
    if byte < 0x7F then escaped mark byte else numbered byte) ++ [mark]⟩

/-- The bytes of the UTF-8 form of a code point. -/
def utf8 (code : Nat) : List Nat :=
  if code < 0x80 then [code]
  else if code < 0x800 then [0xC0 + code / 0x40, 0x80 + code % 0x40]
  else if code < 0x10000 then
    [0xE0 + code / 0x1000, 0x80 + code / 0x40 % 0x40, 0x80 + code % 0x40]
  else
    [0xF0 + code / 0x40000, 0x80 + code / 0x1000 % 0x40, 0x80 + code / 0x40 % 0x40,
      0x80 + code % 0x40]

/-- Texts with a separator between each two. -/
def join (separator : CodePoints) (parts : List CodePoints) : CodePoints :=
  ⟨separator.codes.intercalate (parts.map (·.codes))⟩

end CodePoints

end ForeignBridge.Foreign
