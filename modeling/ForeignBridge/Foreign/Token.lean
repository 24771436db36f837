import ForeignBridge.Foreign.Characters.Identifier
import ForeignBridge.Foreign.Characters.Names
import ForeignBridge.Foreign.Tree

/-! # Tokens

A source text is cut into tokens. Blocks show as indents and dedents, and a line ends with a token
of its own unless a bracket is open. A bracket that is never closed stands in for the end.
-/

namespace ForeignBridge.Foreign

/-- A unit of a source text. -/
inductive Token where
  | name (text : String)
  | literal (value : Literal)
  /-- A text with values in it: its characters as they are written, and whether it has no escapes. -/
  | template (raw : Bool) (body : List Char)
  | symbol (text : String)
  | newline
  | indent
  | dedent
  /-- The end of the text inside a bracket that was opened on some line. -/
  | unclosed (bracket : Char) (line : Nat)
  | finish
deriving DecidableEq, Repr, Inhabited

/-- A token and the line on which it begins. -/
structure Placed where
  token : Token
  line : Nat
deriving Repr, Inhabited

/-- Why a text is not a program, and on which line. -/
structure SyntaxFault where
  message : String
  line : Nat
  /-- The fault is in the indentation. -/
  indentation : Bool
  /-- The fault is in a value inside a text. -/
  inText : Bool
deriving Repr, Inhabited

namespace Token

/-- The words that are no names. -/
def keywords : List String :=
  ["False", "None", "True", "and", "as", "assert", "async", "await", "break", "class", "continue",
   "def", "del", "elif", "else", "except", "finally", "for", "from", "global", "if", "import", "in",
   "is", "lambda", "nonlocal", "not", "or", "pass", "raise", "return", "try", "while", "with",
   "yield"]

/-- Symbols of more than one character, longer ones first. -/
def longSymbols : List String :=
  ["**=", "//=", ">>=", "<<=", "...", "!=", "->", ":=", "==", "<=", ">=", "<<", ">>", "**", "//",
   "+=", "-=", "*=", "/=", "%=", "&=", "|=", "^=", "@="]

/-- The symbols of one character. -/
def shortSymbols : List Char :=
  ['+', '-', '*', '/', '%', '@', '&', '|', '^', '~', '<', '>', '(', ')', '[', ']', '\x7b', '\x7d',
   ',', ':', '.', ';', '=']

/-- A character that begins a word: every one beyond ASCII is taken for a part of a word at first. -/
def beginsWord (c : Char) : Bool := c.isAlpha || c == '_' || 0x80 ≤ c.toNat

/-- A character that goes on a word. -/
def continuesWord (c : Char) : Bool := beginsWord c || c.isDigit

/-- The first character of a word that may not stand where it does. -/
def misfit? : List Char → Option Char
  | [] => none
  | first :: rest =>
    if Characters.beginsName first.toNat then
      rest.find? fun c => !Characters.continuesName c.toNat
    else some first

/-- A number read from digits in a base; underscores are passed over. -/
def digitsValue (base : Nat) (digits : List Char) : Nat :=
  digits.foldl (fun value c => match Char.toNat c with
    | 0x5F => value
    | n => value * base +
        (if c.isDigit then n - 0x30 else if c.isUpper then n - 0x41 + 10 else n - 0x61 + 10)) 0

/-- The leading characters that are digits of a base or underscores. -/
def spanDigits (base : Nat) (chars : List Char) : List Char × List Char :=
  chars.span fun c =>
    c == '_' || (c.isDigit && c.toNat - 0x30 < base) ||
      (base == 16 && (('a' ≤ c && c ≤ 'f') || ('A' ≤ c && c ≤ 'F')))

/-- The exponent of a number, if one follows. -/
def exponent? (chars : List Char) : Option (Int × List Char) :=
  match chars with
  | mark :: rest =>
    if mark == 'e' || mark == 'E' then
      let (negative, rest) := match rest with
        | '-' :: rest => (true, rest)
        | '+' :: rest => (false, rest)
        | rest => (false, rest)
      match spanDigits 10 rest with
      | ([], _) => none
      | (digits, rest) =>
        let value : Int := digitsValue 10 digits
        some (if negative then -value else value, rest)
    else none
  | [] => none

/-- The double of a decimal; far exponents are cut short, since all of them give zero or
infinity. -/
def decimalDouble (significand : Nat) (digits : Nat) (power : Int) : Double :=
  if significand = 0 then .zero false
  else if 400 < power + digits then .infinity false
  else if power + digits < -400 then .zero false
  else .ofDecimal significand power

/-- Whether every underscore among digits has a digit after it. -/
def areGrouped : List Char → Bool
  | [] => true
  | ['_'] => false
  | '_' :: '_' :: _ => false
  | _ :: rest => areGrouped rest

/-- The words that may follow a number without a blank between them. -/
def followers : List String := ["and", "else", "for", "if", "in", "is", "or", "not"]

/-- The fault of a number that has more digits than the interpreter converts. -/
def tooLong (digits : Nat) : String :=
  "Exceeds the limit (4300 digits) for integer string conversion: value has " ++
    toString digits ++ " digits; use sys.set_int_max_str_digits() to increase the limit" ++
    " - Consider hexadecimal for huge integer literals to avoid decimal conversion limits."

/-- A number in a base after its mark. -/
def basedNumber (base : Nat) (kind : String) (chars : List Char) :
    Except String (Literal × List Char) :=
  let (digits, rest) := spanDigits base chars
  match rest.head? with
  | some next =>
    if next.isDigit then .error ("invalid digit '" ++ next.toString ++ "' in " ++ kind ++ " literal")
    else if digits.isEmpty || !areGrouped digits then .error ("invalid " ++ kind ++ " literal")
    else .ok (.int (digitsValue base digits), rest)
  | none =>
    if digits.isEmpty || !areGrouped digits then .error ("invalid " ++ kind ++ " literal")
    else .ok (.int (digitsValue base digits), rest)

/-- A number in base ten: whole, with a fraction, with an exponent, or imaginary. -/
def decimalNumber (chars : List Char) : Except String (Literal × List Char) :=
  let (whole, rest) := spanDigits 10 chars
  let (fraction, rest, pointed) := match rest with
    | '.' :: rest => let (fraction, rest) := spanDigits 10 rest; (fraction, rest, true)
    | rest => ([], rest, false)
  let (power, rest, powered) := match exponent? rest with
    | some (power, rest) => (power, rest, true)
    | none => (0, rest, false)
  let digits := (whole ++ fraction).filter (· != '_')
  let places := (fraction.filter (· != '_')).length
  let counted := digits.dropWhile (· == '0')
  let value := decimalDouble (digitsValue 10 counted) counted.length (power - places)
  if !areGrouped whole || fraction.head? == some '_' || !areGrouped fraction then
    .error "invalid decimal literal"
  else
    match rest with
    | 'j' :: rest | 'J' :: rest => .ok (.imaginary value, rest)
    | rest =>
      if pointed || powered then .ok (.float value, rest)
      else if 1 < whole.length && whole.head? == some '0' && digitsValue 10 whole != 0 then
        .error ("leading zeros in decimal integer literals are not permitted; " ++
          "use an 0o prefix for octal integers")
      else if 4300 < digits.length then .error (tooLong digits.length)
      else .ok (.int (digitsValue 10 whole), rest)

/-- A number at the front of the characters, unless something follows it that cannot follow a
number. -/
def number (chars : List Char) : Except String (Literal × List Char) := do
  let (read, kind) := match chars with
    | '0' :: 'x' :: rest | '0' :: 'X' :: rest => (basedNumber 16 "hexadecimal" rest, "hexadecimal")
    | '0' :: 'o' :: rest | '0' :: 'O' :: rest => (basedNumber 8 "octal" rest, "octal")
    | '0' :: 'b' :: rest | '0' :: 'B' :: rest => (basedNumber 2 "binary" rest, "binary")
    | _ => (decimalNumber chars, "decimal")
  let (value, rest) ← read
  let kind := match value with
    | .imaginary _ => "imaginary"
    | _ => kind
  match rest with
  | next :: _ =>
    if continuesWord next && !followers.any (fun word => word.toList.isPrefixOf rest) then
      throw ("invalid " ++ kind ++ " literal")
    else return (value, rest)
  | [] => return (value, rest)

/-- Why an escape names no character, and how many of its characters were read. -/
structure EscapeFault where
  message : String
  read : Nat

/-- An escape of a letter and a fixed number of digits. -/
def hexEscape (letter : String) (width : Nat) (chars : List Char) :
    Except EscapeFault (List Nat × List Char) :=
  let digits := (chars.take width).takeWhile fun c => (spanDigits 16 [c]).2.isEmpty && c != '_'
  let code := digitsValue 16 digits
  if digits.length < width then
    .error ⟨"truncated \\" ++ letter ++ String.ofList (List.replicate width 'X') ++ " escape",
      2 + digits.length⟩
  else if 0x10FFFF < code then .error ⟨"illegal Unicode character", 2 + width⟩
  else .ok ([code], chars.drop width)

/-- An escape of a character by its name. -/
def namedEscape (chars : List Char) : Except EscapeFault (List Nat × List Char) :=
  match chars with
  | '\x7b' :: rest =>
    let name := rest.takeWhile (· != '\x7d')
    if name.length < rest.length && !name.isEmpty then
      match Characters.named? name with
      | some code => .ok ([code], rest.drop (name.length + 1))
      | none => .error ⟨"unknown Unicode character name", 4 + name.length⟩
    else .error ⟨"malformed \\N character escape", 3 + name.length⟩
  | _ => .error ⟨"malformed \\N character escape", 2⟩

/-- The code points for an escape after its backslash, in a text of characters or one of bytes; an
unknown escape stands for itself. -/
def escape (wide : Bool) (chars : List Char) : Except EscapeFault (List Nat × List Char) :=
  match chars with
  | [] => .ok ([0x5C], [])
  | 'n' :: rest => .ok ([10], rest)
  | 't' :: rest => .ok ([9], rest)
  | 'r' :: rest => .ok ([13], rest)
  | 'a' :: rest => .ok ([7], rest)
  | 'b' :: rest => .ok ([8], rest)
  | 'f' :: rest => .ok ([12], rest)
  | 'v' :: rest => .ok ([11], rest)
  | '\n' :: rest => .ok ([], rest)
  | '\\' :: rest => .ok ([0x5C], rest)
  | '\'' :: rest => .ok ([0x27], rest)
  | '"' :: rest => .ok ([0x22], rest)
  | 'x' :: rest => hexEscape "x" 2 rest
  | c :: rest =>
    if '0' ≤ c ∧ c ≤ '7' then
      let digits := (chars.take 3).takeWhile fun c => '0' ≤ c && c ≤ '7'
      let code := digitsValue 8 digits
      .ok ([if wide then code else code % 256], chars.drop digits.length)
    else if wide && c == 'u' then hexEscape "u" 4 rest
    else if wide && c == 'U' then hexEscape "U" 8 rest
    else if wide && c == 'N' then namedEscape rest
    else .ok ([0x5C, c.toNat], rest)

/-- The message for an escape that cannot be read at a place. In a text of characters those beyond
ASCII take ten places, the length of their own escapes. -/
def EscapeFault.text (wide : Bool) (place : Nat) (fault : EscapeFault) : String :=
  if wide then
    "(unicode error) 'unicodeescape' codec can't decode bytes in position " ++ toString place ++
      "-" ++ toString (place + fault.read - 1) ++ ": " ++ fault.message
  else "(value error) invalid \\x escape at position " ++ toString place

/-- The code points of a text whose escapes are read, from a place on. The code points read so far
are in reverse. -/
def unescape (wide : Bool) : Nat → Nat → List Nat → List Char → Except String (List Nat)
  | 0, _, codes, _ => .ok codes.reverse
  | _, _, codes, [] => .ok codes.reverse
  | fuel + 1, place, codes, '\\' :: rest =>
    match escape wide rest with
    | .error fault => .error (fault.text wide place)
    | .ok (found, after) =>
      unescape wide fuel (place + 1 + (rest.length - after.length)) (found.reverse ++ codes) after
  | fuel + 1, place, codes, c :: rest =>
    unescape wide fuel (place + if c.toNat < 128 then 1 else 10) (c.toNat :: codes) rest

/-- How the body of a text is written: its mark, whether the mark is written three times, and what
its escapes are. -/
structure TextStyle where
  mark : Char
  long : Bool
  raw : Bool
  /-- A text of characters; otherwise one of bytes. -/
  wide : Bool
  /-- A text with values in it. -/
  filled : Bool

/-- The body of a text as it is written, and what follows its closing mark. -/
def textBody (style : TextStyle) (body : List Char) :
    List Char → Option (List Char × List Char)
  | [] => none
  | '\\' :: c :: rest => textBody style (c :: '\\' :: body) rest
  | c :: rest =>
    if c = style.mark ∧ (!style.long ∨ rest.take 2 = [c, c]) then
      some (body.reverse, if style.long then rest.drop 2 else rest)
    else if c = '\n' ∧ !style.long then none
    else textBody style (c :: body) rest

/-- The style of a text whose letters and mark stand at the front, and what follows the mark. -/
def textStart? (chars : List Char) : Option (TextStyle × List Char) :=
  let (letters, rest) := chars.span fun c => c.isAlpha
  let lower := letters.map Char.toLower
  if lower ∈ [[], ['r'], ['b'], ['u'], ['f'], ['r', 'b'], ['b', 'r'], ['r', 'f'], ['f', 'r']] then
    match rest with
    | mark :: rest =>
      if mark = '\'' ∨ mark = '"' then
        let raw := 'r' ∈ lower
        let wide := 'b' ∉ lower
        let filled := 'f' ∈ lower
        match rest with
        | second :: third :: after =>
          if second = mark ∧ third = mark then some (⟨mark, true, raw, wide, filled⟩, after)
          else some (⟨mark, false, raw, wide, filled⟩, rest)
        | _ => some (⟨mark, false, raw, wide, filled⟩, rest)
      else none
    | [] => none
  else none

/-- The constant that a text is. -/
def textValue (style : TextStyle) (body : List Char) : Except String Literal := do
  if !style.wide && body.any (128 ≤ Char.toNat ·) then
    throw "bytes can only contain ASCII literal characters"
  let codes ← if style.raw then .ok (body.map Char.toNat)
    else unescape style.wide body.length 0 [] body
  return if style.wide then .text ⟨codes⟩ else .bytes codes

/-- The code of a character as faults spell it. -/
def codeText (c : Char) : String :=
  "U+" ++ String.ofList ((CodePoints.hexPadded 4 c.toNat).map fun n => (Char.ofNat n).toUpper)

/-- The closing bracket of an opening one. -/
def closer (c : Char) : Char :=
  if c = '(' then ')' else if c = '[' then ']' else '\x7d'

/-- What the reader of tokens keeps. -/
structure Scan where
  /-- The tokens so far, the last one first. -/
  tokens : List Placed
  line : Nat
  /-- The brackets that are open, with their lines, the innermost first. -/
  brackets : List (Char × Nat)
  /-- The indentations of the blocks that are open, the innermost first. -/
  indents : List Nat
deriving Inhabited

namespace Scan

def push (scan : Scan) (token : Token) : Scan :=
  { scan with tokens := ⟨token, scan.line⟩ :: scan.tokens }

def fault {α : Type} (scan : Scan) (message : String) : Except SyntaxFault α :=
  .error ⟨message, scan.line, false, false⟩

/-- The tokens that a line's indentation opens or closes. -/
def indentTo (scan : Scan) (width : Nat) : Except SyntaxFault Scan :=
  let current := scan.indents.headD 0
  if width = current then .ok scan
  else if current < width then .ok { scan.push .indent with indents := width :: scan.indents }
  else
    let closed := scan.indents.takeWhile fun indent => width < indent
    let left := scan.indents.drop closed.length
    if left.headD 0 = width then
      .ok { closed.foldl (fun scan _ => scan.push .dedent) scan with indents := left }
    else .error ⟨"unindent does not match any outer indentation level", scan.line, true, false⟩

/-- A bracket or another symbol of one character. At most 200 brackets are open at once. -/
def symbol (scan : Scan) (c : Char) : Except SyntaxFault Scan :=
  let next := scan.push (.symbol c.toString)
  if c = '(' ∨ c = '[' ∨ c = '\x7b' then
    if 200 ≤ scan.brackets.length then scan.fault "too many nested parentheses"
    else .ok { next with brackets := (c, scan.line) :: scan.brackets }
  else if c = ')' ∨ c = ']' ∨ c = '\x7d' then
    match scan.brackets with
    | [] => scan.fault ("unmatched '" ++ c.toString ++ "'")
    | (opening, line) :: brackets =>
      if closer opening = c then .ok { next with brackets }
      else scan.fault ("closing parenthesis '" ++ c.toString ++
        "' does not match opening parenthesis '" ++ opening.toString ++ "'" ++
        (if line = scan.line then "" else " on line " ++ toString line))
  else .ok next

/-- The tokens at the end of a text. -/
def close (scan : Scan) : Scan :=
  match scan.brackets with
  | (bracket, line) :: _ => scan.push (.unclosed bracket line)
  | [] =>
    let scan := match scan.tokens with
      | [] => scan
      | ⟨.newline, _⟩ :: _ => scan
      | _ => scan.push .newline
    (scan.indents.foldl (fun scan _ => scan.push .dedent) scan).push .finish

end Scan

/-- The tokens of the characters of a text. At the start of a line its indentation is read
first. -/
def scan : Nat → Bool → Scan → List Char → Except SyntaxFault Scan
  | 0, _, state, _ => .ok state.close
  | fuel + 1, true, state, chars =>
    let (blank, rest) := chars.span fun c => c == ' ' || c == '\t' || c == '\x0c'
    match rest with
    | [] => .ok state.close
    | '\n' :: rest => scan fuel true { state with line := state.line + 1 } rest
    | '#' :: _ => scan fuel true state (rest.dropWhile (· != '\n'))
    | _ => do
      let width := blank.foldl (fun width c =>
        if c == '\t' then (width / 8 + 1) * 8 else if c == '\x0c' then 0 else width + 1) 0
      scan fuel false (← state.indentTo width) rest
  | fuel + 1, false, state, chars =>
    match chars with
    | [] => .ok state.close
    | '\n' :: rest =>
      let next := { state with line := state.line + 1 }
      if state.brackets.isEmpty then
        scan fuel true { state.push .newline with line := state.line + 1 } rest
      else scan fuel false next rest
    | '#' :: _ => scan fuel false state (chars.dropWhile (· != '\n'))
    | ['\\', '\n'] => state.fault "unexpected EOF while parsing"
    | '\\' :: '\n' :: rest => scan fuel false { state with line := state.line + 1 } rest
    | '\\' :: _ => state.fault "unexpected character after line continuation character"
    | c :: rest =>
      if c == ' ' || c == '\t' || c == '\x0c' then scan fuel false state rest
      else
        match textStart? chars with
        | some (style, written) =>
          match textBody style [] written with
          | none =>
            state.fault ("unterminated " ++ (if style.long then "triple-quoted " else "") ++
              "string literal (detected at line " ++
              toString (if style.long then state.line + written.count '\n' else state.line) ++ ")")
          | some (body, rest) =>
            let value := if style.filled then Except.ok (Token.template style.raw body)
              else (textValue style body).map Token.literal
            match value with
            | .error message => state.fault message
            | .ok token =>
              scan fuel false
                { state.push token with line := state.line + body.count '\n' } rest
        | none =>
          if beginsWord c then
            let (word, rest) := chars.span continuesWord
            match misfit? word with
            | none => scan fuel false (state.push (.name (String.ofList word))) rest
            | some wrong =>
              if Characters.isPrintable wrong.toNat then
                state.fault ("invalid character '" ++ wrong.toString ++ "' (" ++ codeText wrong ++
                  ")")
              else state.fault ("invalid non-printable character " ++ codeText wrong)
          else if c.isDigit || (c == '.' && (rest.headD ' ').isDigit) then
            match number chars with
            | .error message => state.fault message
            | .ok (value, rest) => scan fuel false (state.push (.literal value)) rest
          else
            match longSymbols.find? fun long => long.toList.isPrefixOf chars with
            | some long => scan fuel false (state.push (.symbol long)) (chars.drop long.length)
            | none => do
              if c ∈ shortSymbols then scan fuel false (← state.symbol c) rest
              else if c.toNat < 32 || c.toNat = 127 then
                state.fault ("invalid non-printable character " ++ codeText c)
              else scan fuel false (state.push (.symbol c.toString)) rest

/-- The characters of a text in which every line ends with a line feed. -/
def unifyLines : List Char → List Char
  | [] => []
  | '\r' :: '\n' :: rest => '\n' :: unifyLines rest
  | '\r' :: rest => '\n' :: unifyLines rest
  | c :: rest => c :: unifyLines rest

/-- The tokens of a source text. -/
def ofSource (source : String) : Except SyntaxFault (List Placed) :=
  let chars := unifyLines source.toList
  let start : Scan := ⟨[], if chars.isEmpty then 0 else 1, [], []⟩
  (scan (2 * chars.length + 2) true start chars).map fun scan => scan.tokens.reverse

/-- The tokens of a value in a text, which stands in parentheses from some line on. -/
def ofValue (line : Nat) (chars : List Char) : Except SyntaxFault (List Placed) :=
  (scan (2 * chars.length + 6) false ⟨[], line, [], []⟩ ('(' :: chars ++ [')'])).map fun scan =>
    scan.tokens.reverse

end Token

end ForeignBridge.Foreign
