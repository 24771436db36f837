import ForeignBridge.Json.Basic

/-! # Reading JSON

The reader walks over the characters of a text and keeps the line and the column, in bytes, of what
it has read. A fault names either the place after the last character read or, if the next character
is to blame, the place after that one's first byte.

A number's digits are gathered into a significand of 64 bits. A digit that no longer fits only
raises the exponent in the integer part and is dropped in the fraction. The value of a number with
a fraction, an exponent or too many digits is the significand as a double, multiplied or divided
once by a power of ten, which is not always the nearest double to the decimal.
-/

namespace ForeignBridge.Json

/-- Why a text is not a JSON document. -/
inductive FaultCause where
  | endInList
  | endInObject
  | endInString
  | endInValue
  | missingColon
  | missingListComma
  | missingObjectComma
  | badWord
  | missingValue
  | badEscape
  | badNumber
  | numberTooLarge
  | controlCharacter
  | keyNotString
  | loneSurrogate
  | trailingComma
  | trailingCharacters
  | shortEscape
  | tooDeep
deriving DecidableEq, Repr

/-- The words for a cause. -/
def FaultCause.text : FaultCause → String
  | endInList => "EOF while parsing a list"
  | endInObject => "EOF while parsing an object"
  | endInString => "EOF while parsing a string"
  | endInValue => "EOF while parsing a value"
  | missingColon => "expected `:`"
  | missingListComma => "expected `,` or `]`"
  | missingObjectComma => "expected `,` or `\x7d`"
  | badWord => "expected ident"
  | missingValue => "expected value"
  | badEscape => "invalid escape"
  | badNumber => "invalid number"
  | numberTooLarge => "number out of range"
  | controlCharacter => "control character (\\u0000-\\u001F) found while parsing a string"
  | keyNotString => "key must be a string"
  | loneSurrogate => "lone leading surrogate in hex escape"
  | trailingComma => "trailing comma"
  | trailingCharacters => "trailing characters"
  | shortEscape => "unexpected end of hex escape"
  | tooDeep => "recursion limit exceeded"

/-- A cause and where it was noticed. -/
structure Fault where
  cause : FaultCause
  line : Nat
  column : Nat
deriving DecidableEq, Repr

/-- The full text of a fault. -/
def Fault.message (fault : Fault) : String :=
  fault.cause.text ++ " at line " ++ toString fault.line ++ " column " ++ toString fault.column

/-- What is left of a text, and the place reached in it. -/
structure Cursor where
  rest : List Char
  line : Nat
  column : Nat

namespace Cursor

/-- The start of a text. -/
def ofString (text : String) : Cursor := ⟨text.toList, 1, 0⟩

/-- The place after one more character. -/
def past (cursor : Cursor) (c : Char) (rest : List Char) : Cursor :=
  if c = '\n' then ⟨rest, cursor.line + 1, 0⟩ else ⟨rest, cursor.line, cursor.column + c.utf8Size⟩

/-- The next character, or the null character at the end. -/
def next (cursor : Cursor) : Char := cursor.rest.headD (Char.ofNat 0)

/-- Past the next character, if there is one. -/
def skip (cursor : Cursor) : Cursor :=
  match cursor.rest with
  | [] => cursor
  | c :: rest => cursor.past c rest

/-- A fault at the place reached. -/
def fault (cursor : Cursor) (cause : FaultCause) : Fault := ⟨cause, cursor.line, cursor.column⟩

/-- A fault at the first byte of the next character. -/
def faultAhead (cursor : Cursor) (cause : FaultCause) : Fault :=
  match cursor.rest with
  | [] => cursor.fault cause
  | c :: _ =>
    if c = '\n' then ⟨cause, cursor.line + 1, 0⟩ else ⟨cause, cursor.line, cursor.column + 1⟩

end Cursor

/-- A result and what is left to read, or a fault. -/
abbrev Reading (α : Type) := Except Fault (α × Cursor)

/-- One of the four blanks that may stand between tokens. -/
def isBlank (c : Char) : Bool := c == ' ' || c == '\n' || c == '\t' || c == '\r'

/-- Past the blanks at the front of some characters. -/
def dropBlanks : List Char → Cursor → Cursor
  | [], cursor => cursor
  | c :: rest, cursor => if isBlank c then dropBlanks rest (cursor.past c rest) else cursor

/-- Past all blanks. -/
def skipBlanks (cursor : Cursor) : Cursor := dropBlanks cursor.rest cursor

/-- Past the given characters, which must come next. -/
def readWord : List Char → Cursor → Except Fault Cursor
  | [], cursor => .ok cursor
  | expected :: more, cursor =>
    match cursor.rest with
    | [] => .error (cursor.fault .endInValue)
    | c :: rest =>
      if c = expected then readWord more (cursor.past c rest)
      else .error (cursor.faultAhead .badWord)

/-! ## Numbers -/

/-- The largest significand. -/
def significandBound : Nat := twoTo 64

/-- The significand with one more digit, if it still fits. -/
def pushDigit? (significand : Nat) (c : Char) : Option Nat :=
  let pushed := significand * 10 + (c.toNat - '0'.toNat)
  if pushed < significandBound then some pushed else none

/-- Digits taken into a significand as long as it fits: the significand, how many digits were
taken, and what is left. -/
def takeDigits : List Char → Nat → Nat → Cursor → Nat × Nat × Cursor
  | [], significand, count, cursor => (significand, count, cursor)
  | c :: rest, significand, count, cursor =>
    match if c.isDigit then pushDigit? significand c else none with
    | some pushed => takeDigits rest pushed (count + 1) (cursor.past c rest)
    | none => (significand, count, cursor)

/-- Past all digits, and how many there were. -/
def skipDigits : List Char → Nat → Cursor → Nat × Cursor
  | [], count, cursor => (count, cursor)
  | c :: rest, count, cursor =>
    if c.isDigit then skipDigits rest (count + 1) (cursor.past c rest) else (count, cursor)

/-- The largest exponent that is kept. -/
def exponentBound : Int := twoTo 31

/-- An exponent kept within 32 bits. -/
def clampExponent (exponent : Int) : Int := max (-exponentBound) (min (exponentBound - 1) exponent)

/-- A double times a power of ten: one multiplication or division by the nearest double to the
power, after as many divisions by `1e308` as bring a small exponent into range. No result means
overflow. -/
def scaleDouble? : Nat → Double → Int → Option Double
  | 0, x, _ => some x
  | fuel + 1, x, exponent =>
    if exponent.natAbs ≤ 308 then
      let power := Double.ofDecimal 1 exponent.natAbs
      if 0 ≤ exponent then
        let scaled := x.mul power
        if scaled.isInfinite then none else some scaled
      else some (x.div power)
    else if x.isZero then some x
    else if 0 ≤ exponent then none
    else scaleDouble? fuel (x.div (Double.ofDecimal 1 308)) (exponent + 308)

/-- The double of a significand and an exponent. Four rounds of division reach zero. -/
def finishDouble (negative : Bool) (significand : Nat) (exponent : Int) (cursor : Cursor) :
    Reading Json :=
  match scaleDouble? 4 (Double.ofNat significand) exponent with
  | some x => .ok (.float (if negative then x.neg else x), cursor)
  | none => .error (cursor.fault .numberTooLarge)

/-- The digits of an exponent, as long as they fit into 32 bits: the value so far, whether all fit,
and what is left. -/
def takeExponent : List Char → Int → Cursor → Int × Bool × Cursor
  | [], value, cursor => (value, true, cursor)
  | c :: rest, value, cursor =>
    if c.isDigit then
      let pushed := value * 10 + (c.toNat - '0'.toNat : Nat)
      let after := cursor.past c rest
      if pushed < exponentBound then takeExponent rest pushed after else (value, false, after)
    else (value, true, cursor)

/-- A number from its exponent mark on. -/
def readExponent (negative : Bool) (significand : Nat) (start : Int) (cursor : Cursor) :
    Reading Json :=
  let marked := cursor.skip
  let lowers := marked.next == '-'
  let signed := if marked.next == '+' || marked.next == '-' then marked.skip else marked
  match signed.rest with
  | [] => .error (signed.fault .endInValue)
  | c :: rest =>
    let after := signed.past c rest
    if !c.isDigit then .error (signed.faultAhead .badNumber)
    else
      match takeExponent rest ((c.toNat - '0'.toNat : Nat) : Int) after with
      | (value, true, cursor) =>
        finishDouble negative significand
          (clampExponent (if lowers then start - value else start + value)) cursor
      | (_, false, cursor) =>
        if significand ≠ 0 ∧ !lowers then .error (cursor.fault .numberTooLarge)
        else .ok (.float (Double.zero negative), (skipDigits cursor.rest 0 cursor).2)

/-- Whether an exponent comes next. -/
def atExponent (cursor : Cursor) : Bool := cursor.next == 'e' || cursor.next == 'E'

/-- A number from its decimal point on. -/
def readFraction (negative : Bool) (significand : Nat) (start : Int) (cursor : Cursor) :
    Reading Json :=
  let pointed := cursor.skip
  let (significand, count, cursor) := takeDigits pointed.rest significand 0 pointed
  let exponent := start - count
  if cursor.next.isDigit then
    let cursor := (skipDigits cursor.rest 0 cursor).2
    if atExponent cursor then readExponent negative significand exponent cursor
    else finishDouble negative significand exponent cursor
  else if count = 0 then
    .error (if cursor.rest.isEmpty then cursor.fault .endInValue else cursor.faultAhead .badNumber)
  else if atExponent cursor then readExponent negative significand exponent cursor
  else finishDouble negative significand exponent cursor

/-- A number after its integer digits, some of which may not have fitted into the significand. -/
def readAfterInteger (negative : Bool) (significand dropped : Nat) (cursor : Cursor) :
    Reading Json :=
  if cursor.next == '.' then readFraction negative significand dropped cursor
  else if atExponent cursor then readExponent negative significand dropped cursor
  else if dropped ≠ 0 then finishDouble negative significand dropped cursor
  else if !negative then .ok (.integer significand, cursor)
  else if significand ≠ 0 ∧ significand ≤ twoTo 63 then .ok (.integer (-(significand : Int)), cursor)
  else .ok (.float (Double.ofNat significand).neg, cursor)

/-- A number after its sign. -/
def readNumber (negative : Bool) (cursor : Cursor) : Reading Json :=
  match cursor.rest with
  | [] => .error (cursor.fault .endInValue)
  | c :: rest =>
    let after := cursor.past c rest
    if c = '0' then
      if after.next.isDigit then .error (after.faultAhead .badNumber)
      else readAfterInteger negative 0 0 after
    else if c.isDigit then
      let (significand, _, cursor) := takeDigits cursor.rest 0 0 cursor
      let (dropped, cursor) := skipDigits cursor.rest 0 cursor
      readAfterInteger negative significand dropped cursor
    else .error (cursor.faultAhead .badNumber)

/-! ## Strings -/

/-- The value of a hexadecimal digit. -/
def hexValue? (c : Char) : Option Nat :=
  if c.isDigit then some (c.toNat - '0'.toNat)
  else if 'a' ≤ c ∧ c ≤ 'f' then some (c.toNat - 'a'.toNat + 10)
  else if 'A' ≤ c ∧ c ≤ 'F' then some (c.toNat - 'A'.toNat + 10)
  else none

/-- The place four bytes on, or at the end of the text if it is nearer. The flag says which. -/
def fourBytesOn : Nat → List Char → Cursor → Bool × Cursor
  | bytes, [], cursor => (decide (4 ≤ bytes), cursor)
  | bytes, c :: rest, cursor =>
    if 4 ≤ bytes then (true, cursor)
    else if 4 < bytes + c.utf8Size then (true, ⟨rest, cursor.line, cursor.column + (4 - bytes)⟩)
    else fourBytesOn (bytes + c.utf8Size) rest (cursor.past c rest)

/-- Four hexadecimal digits. -/
def readHex (cursor : Cursor) : Reading Nat :=
  match fourBytesOn 0 cursor.rest cursor with
  | (false, after) => .error (after.fault .endInString)
  | (true, after) =>
    match (cursor.rest.take 4).mapM hexValue? with
    | some [a, b, c, d] => .ok (((a * 16 + b) * 16 + c) * 16 + d, after)
    | _ => .error (after.fault .badEscape)

/-- Past a character that must come next within an escape of two halves. -/
def readEscapeMark (expected : Char) (cursor : Cursor) : Except Fault Cursor :=
  match cursor.rest with
  | [] => .error (cursor.fault .endInString)
  | c :: rest =>
    if c = expected then .ok (cursor.past c rest)
    else .error (cursor.faultAhead .shortEscape)

/-- The character of an escape by number. Numbers of the upper half of a pair need the lower half
after them. -/
def readUnicodeEscape (cursor : Cursor) : Except Fault (Char × Cursor) := do
  let (high, cursor) ← readHex cursor
  if 0xDC00 ≤ high ∧ high ≤ 0xDFFF then .error (cursor.fault .loneSurrogate)
  else if high < 0xD800 ∨ 0xDBFF < high then pure (Char.ofNat high, cursor)
  else
    let cursor ← readEscapeMark '\\' cursor
    let cursor ← readEscapeMark 'u' cursor
    let (low, cursor) ← readHex cursor
    if low < 0xDC00 ∨ 0xDFFF < low then .error (cursor.fault .loneSurrogate)
    else pure (Char.ofNat (0x10000 + (high - 0xD800) * 1024 + (low - 0xDC00)), cursor)

/-- The character that a letter after a backslash stands for. -/
def simpleEscape? (c : Char) : Option Char :=
  [('"', '"'), ('\\', '\\'), ('/', '/'), ('b', '\x08'), ('f', '\x0c'), ('n', '\n'), ('r', '\r'),
    ('t', '\t')].lookup c

/-- The characters of a string up to its closing quote, in reverse. Each round reads at least one
character, so the length of the text bounds the rounds. -/
def readString : Nat → List Char → Cursor → Reading String
  | 0, _, cursor => .error (cursor.fault .endInString)
  | fuel + 1, read, cursor =>
    match cursor.rest with
    | [] => .error (cursor.fault .endInString)
    | c :: rest =>
      let after := cursor.past c rest
      if c = '"' then .ok (String.ofList read.reverse, after)
      else if c = '\\' then
        match after.rest with
        | [] => .error (after.fault .endInString)
        | letter :: rest =>
          let escaped := after.past letter rest
          if letter = 'u' then
            match readUnicodeEscape escaped with
            | .error fault => .error fault
            | .ok (value, cursor) => readString fuel (value :: read) cursor
          else
            match simpleEscape? letter with
            | some value => readString fuel (value :: read) escaped
            | none => .error (after.faultAhead .badEscape)
      else if c.toNat < 0x20 then .error (after.fault .controlCharacter)
      else readString fuel (c :: read) after

/-! ## Documents -/

/-- The most containers that may stand inside one another. -/
def depthLimit : Nat := 127

mutual

/-- A document, with `depth` containers still allowed. -/
def readValue : Nat → Nat → Cursor → Reading Json
  | 0, _, cursor => .error (cursor.fault .endInValue)
  | fuel + 1, depth, cursor =>
    let cursor := skipBlanks cursor
    match cursor.rest with
    | [] => .error (cursor.faultAhead .endInValue)
    | c :: rest =>
      let after := cursor.past c rest
      if c = 'n' then (readWord ['u', 'l', 'l'] after).map (.null, ·)
      else if c = 't' then (readWord ['r', 'u', 'e'] after).map (.bool true, ·)
      else if c = 'f' then (readWord ['a', 'l', 's', 'e'] after).map (.bool false, ·)
      else if c = '-' then readNumber true after
      else if c.isDigit then readNumber false cursor
      else if c = '"' then
        (readString (after.rest.length + 1) [] after).map fun (text, cursor) => (.string text, cursor)
      else if c = '[' then
        match depth with
        | 0 => .error (cursor.faultAhead .tooDeep)
        | depth + 1 => readItems fuel depth true [] after
      else if c = '\x7b' then
        match depth with
        | 0 => .error (cursor.faultAhead .tooDeep)
        | depth + 1 => readMembers fuel depth true [] after
      else .error (cursor.faultAhead .missingValue)

/-- The items of an array up to its bracket, in reverse. -/
def readItems : Nat → Nat → Bool → List Json → Cursor → Reading Json
  | 0, _, _, _, cursor => .error (cursor.fault .endInList)
  | fuel + 1, depth, first, read, cursor =>
    let cursor := skipBlanks cursor
    match cursor.rest with
    | [] => .error (cursor.faultAhead .endInList)
    | c :: rest =>
      if c = ']' then .ok (.array read.reverse, cursor.past c rest)
      else if !first ∧ c ≠ ',' then .error (cursor.faultAhead .missingListComma)
      else
        let start := if first then cursor else skipBlanks (cursor.past c rest)
        if start.rest.isEmpty then .error (start.faultAhead .endInValue)
        else if !first ∧ start.next = ']' then .error (start.faultAhead .trailingComma)
        else
          match readValue fuel depth start with
          | .error fault => .error fault
          | .ok (item, cursor) => readItems fuel depth false (item :: read) cursor

/-- The members of an object up to its brace. -/
def readMembers : Nat → Nat → Bool → List (String × Json) → Cursor → Reading Json
  | 0, _, _, _, cursor => .error (cursor.fault .endInObject)
  | fuel + 1, depth, first, read, cursor =>
    let cursor := skipBlanks cursor
    match cursor.rest with
    | [] => .error (cursor.faultAhead .endInObject)
    | c :: rest =>
      if c = '\x7d' then .ok (.object read, cursor.past c rest)
      else if !first ∧ c ≠ ',' then .error (cursor.faultAhead .missingObjectComma)
      else
        let start := if first then cursor else skipBlanks (cursor.past c rest)
        match start.rest with
        | [] => .error (start.faultAhead .endInValue)
        | quote :: rest =>
          if !first ∧ quote = '\x7d' then .error (start.faultAhead .trailingComma)
          else if quote ≠ '"' then .error (start.faultAhead .keyNotString)
          else
            match readString (rest.length + 1) [] (start.past quote rest) with
            | .error fault => .error fault
            | .ok (name, cursor) =>
              let cursor := skipBlanks cursor
              match cursor.rest with
              | [] => .error (cursor.faultAhead .endInObject)
              | colon :: rest =>
                if colon ≠ ':' then .error (cursor.faultAhead .missingColon)
                else
                  match readValue fuel depth (cursor.past colon rest) with
                  | .error fault => .error fault
                  | .ok (value, cursor) =>
                    readMembers fuel depth false (Fields.insert name value read) cursor

end

/-- The document that a text holds. Two rounds of the reader read at least one character. -/
def read (text : String) : Except Fault Json := do
  let start := Cursor.ofString text
  let (document, cursor) ← readValue (2 * start.rest.length + 2) depthLimit start
  let cursor := skipBlanks cursor
  if cursor.rest.isEmpty then pure document else .error (cursor.faultAhead .trailingCharacters)

end ForeignBridge.Json
