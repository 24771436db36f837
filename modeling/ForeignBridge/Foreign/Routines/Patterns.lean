import ForeignBridge.Foreign.Routines.Slices

/-! # Patterns

A pattern is a text with fields in braces. Filling it puts a text for an argument in the place of
each field. A brace that is meant as such is written twice. The format of a field may have fields of
its own.
-/

namespace ForeignBridge.Foreign

/-- A part of a pattern. -/
inductive Piece where
  | plain (codes : List Nat)
  /-- A field: the argument it names, how that is turned into a text first, and the format that is
  asked for. -/
  | field (name : List Nat) (conversion : Option Nat) (format : List Nat)
deriving Repr, Inhabited

namespace Piece

/-- The code points of a format up to the brace that closes its field, and those behind the brace. -/
def enclosed (depth : Nat) : List Nat → Option (List Nat × List Nat)
  | [] => none
  | code :: rest =>
    if code = 0x7D ∧ depth = 0 then some ([], rest)
    else
      let depth := if code = 0x7B then depth + 1 else if code = 0x7D then depth - 1 else depth
      (enclosed depth rest).map fun (inside, rest) => (code :: inside, rest)

/-- The name of a field up to the sign that ends it, and what begins with that sign. -/
def fieldName (inBrackets : Bool) : List Nat → Except String (List Nat × List Nat)
  | [] => .error "expected '\x7d' before end of string"
  | code :: rest =>
    if code = 0x7B ∧ !inBrackets then .error "unexpected '\x7b' in field name"
    else if (code = 0x7D ∨ code = 0x3A ∨ code = 0x21) ∧ !inBrackets then .ok ([], code :: rest)
    else
      let inBrackets := if code = 0x5B then true else if code = 0x5D then false else inBrackets
      (fieldName inBrackets rest).map fun (name, rest) => (code :: name, rest)

/-- The field behind an opening brace, and what follows it. -/
def fieldOf (codes : List Nat) : Except String (Piece × List Nat) := do
  let (name, rest) ← fieldName false codes
  let formatted (conversion : Option Nat) (rest : List Nat) : Except String (Piece × List Nat) :=
    match enclosed 0 rest with
    | some (format, rest) => .ok (.field name conversion format, rest)
    | none => .error "unmatched '\x7b' in format spec"
  match rest with
  | 0x3A :: rest => formatted none rest
  | 0x21 :: [] => throw "end of string while looking for conversion specifier"
  | 0x21 :: _ :: [] => throw "unmatched '\x7b' in format spec"
  | 0x21 :: conversion :: 0x7D :: rest => return (.field name (some conversion) [], rest)
  | 0x21 :: conversion :: 0x3A :: rest => formatted (some conversion) rest
  | 0x21 :: _ => throw "expected ':' after conversion specifier"
  | rest => return (.field name none [], rest.tail)

/-- The first part of a pattern, and what follows it. -/
def next (codes : List Nat) : Except String (Piece × List Nat) :=
  match codes with
  | 0x7B :: 0x7B :: rest => .ok (.plain [0x7B], rest)
  | 0x7D :: 0x7D :: rest => .ok (.plain [0x7D], rest)
  | 0x7D :: _ => .error "Single '\x7d' encountered in format string"
  | [0x7B] => .error "Single '\x7b' encountered in format string"
  | 0x7B :: rest => fieldOf rest
  | codes =>
    let (front, rest) := codes.span fun code => code != 0x7B && code != 0x7D
    .ok (.plain front, rest)

/-- A step from an argument to a part of it. -/
inductive Access where
  | attribute (name : List Nat)
  | item (key : List Nat)
deriving Repr, Inhabited

/-- The steps that a name describes behind its first part. -/
def accesses : Nat → List Nat → Except String (List Access)
  | 0, _ => .ok []
  | _, [] => .ok []
  | fuel + 1, 0x2E :: rest => do
    let (name, rest) := rest.span fun code => code != 0x2E && code != 0x5B
    if name.isEmpty then throw "Empty attribute in format string"
    return .attribute name :: (← accesses fuel rest)
  | fuel + 1, 0x5B :: rest => do
    let (key, rest) := rest.span (· != 0x5D)
    match rest with
    | [] => throw "Missing ']' in format string"
    | _ :: rest =>
      if key.isEmpty then throw "Empty attribute in format string"
      return .item key :: (← accesses fuel rest)
  | _, _ => .error "Only '.' or '[' may follow ']' in format field specifier"

/-- The number that digits spell, if there are only digits. -/
def number? (codes : List Nat) : Option Nat :=
  if codes.isEmpty then none
  else
    codes.foldlM (fun value code => do return value * 10 + (← Characters.decimalValue? code)) 0

end Piece

/-- Which arguments the fields of a pattern have named: none so far, those that follow one another,
or those at given places. -/
inductive Numbering where
  | open
  | running (next : Nat)
  | given
deriving Repr, Inhabited

/-- What a pattern is filled with. -/
structure Filling where
  /-- The positional arguments, unless names alone are looked up. -/
  positional : Option (List Handle)
  named : String → Run (Option Handle)

namespace Run

/-- The argument at a place, for a pattern. -/
def placedArgument (filling : Filling) (place : Nat) : Run Handle :=
  match filling.positional with
  | none => fail .valueError "Format string contains positional fields"
  | some found =>
    match found[place]? with
    | some argument => return argument
    | none =>
      fail .indexError ("Replacement index " ++ toString place ++
        " out of range for positional args tuple")

/-- The argument that a field names, and how the fields are numbered after it. -/
def fieldArgument (filling : Filling) (numbering : Numbering) (name : List Nat) :
    Run (Handle × Numbering) := do
  match name.isEmpty, Piece.number? name, numbering with
  | true, _, .given =>
    fail .valueError ("cannot switch from manual field specification to automatic field " ++
      "numbering")
  | true, _, .running next => return (← placedArgument filling next, .running (next + 1))
  | true, _, .open => return (← placedArgument filling 0, .running 1)
  | false, some _, .running _ =>
    fail .valueError ("cannot switch from automatic field numbering to manual field " ++
      "specification")
  | false, some place, _ => return (← placedArgument filling place, .given)
  | false, none, numbering =>
    let key : CodePoints := ⟨name⟩
    match ← filling.named key.lossy with
    | some found => return (found, numbering)
    | none => raise (← newException .keyError [← newText key])

/-- A part of an argument. -/
def accessed (invoke : Invoke) (object : Handle) : Piece.Access → Run Handle
  | .attribute name => getAttribute invoke object (CodePoints.mk name).lossy
  | .item key => do
    match Piece.number? key with
    | some place => getItem invoke object (← newInt place)
    | none => getItem invoke object (← newText ⟨key⟩)

/-- The value of a field, and how the fields are numbered after it. -/
def fieldValue (invoke : Invoke) (filling : Filling) (numbering : Numbering) (name : List Nat) :
    Run (Handle × Numbering) := do
  let (first, rest) := name.span fun code => code != 0x2E && code != 0x5B
  let (argument, numbering) ← fieldArgument filling numbering first
  let steps ← orValueFault (Piece.accesses (rest.length + 1) rest)
  return (← steps.foldlM (accessed invoke) argument, numbering)

/-- A value turned into a text as a letter says. -/
def converted (invoke : Invoke) (value : Handle) : Option Nat → Run Handle
  | none => return value
  | some 0x72 => reprOf invoke value
  | some 0x73 => strOf invoke value
  | some 0x61 => asciiOf invoke value
  | some other =>
    let shown := if 32 < other ∧ other < 127 then String.ofList [Char.ofNat other]
      else "\\x" ++ String.ofList (Nat.toDigits 16 other)
    fail .valueError ("Unknown conversion specifier " ++ shown)

/-- The texts of a pattern filled with arguments, as objects. Formats may have fields down to some
depth. -/
def fillWithin (invoke : Invoke) (filling : Filling) :
    Nat → Nat → Numbering → List Nat → Run (List Handle × Numbering)
  | 0, _, _, _ => fail .valueError "Max string recursion exceeded"
  | _, 0, numbering, _ => return ([], numbering)
  | _, _, numbering, [] => return ([], numbering)
  | depth + 1, fuel + 1, numbering, codes => do
    let (piece, rest) ← orValueFault (Piece.next codes)
    let (first, numbering) ← match piece with
      | .plain codes => pure (← newText ⟨codes⟩, numbering)
      | .field name conversion format => do
        let (value, numbering) ← fieldValue invoke filling numbering name
        let shown ← converted invoke value conversion
        let (format, numbering) ←
          if format.contains 0x7B then
            let (parts, numbering) ← fillWithin invoke filling depth fuel numbering format
            let texts ← parts.mapM codePoints
            pure (texts.flatMap (·.codes), numbering)
          else pure (format, numbering)
        pure (← formatOf invoke shown ⟨format⟩, numbering)
    let (others, numbering) ← fillWithin invoke filling (depth + 1) fuel numbering rest
    return (first :: others, numbering)

/-- What is made of a pattern and arguments. -/
def fillPattern (invoke : Invoke) (pattern : CodePoints) (filling : Filling) : Run Handle := do
  let (parts, _) ← fillWithin invoke filling 2 (pattern.codes.length + 1) .open pattern.codes
  match parts with
  | [single] => asPlainText single
  | parts =>
    let texts ← parts.mapM codePoints
    newText ⟨texts.flatMap (·.codes)⟩

end Run

end ForeignBridge.Foreign
