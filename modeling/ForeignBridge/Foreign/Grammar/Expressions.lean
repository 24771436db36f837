import ForeignBridge.Foreign.Grammar.Reading

/-! # Expressions read from tokens

Operators bind by level, from `or` at level zero to names and constants at the last level. An
operation is placed on the line on which its first operand begins; an attribute is placed on the line
of its name. All readers take a bound on their depth, which the number of tokens supplies.
-/

namespace ForeignBridge.Foreign

open Reading

/-- The operators of a level between two operands. -/
def binaryOperators : Nat → List (String × BinaryOperator)
  | 4 => [("|", .or)]
  | 5 => [("^", .xor)]
  | 6 => [("&", .and)]
  | 7 => [("<<", .shiftLeft), (">>", .shiftRight)]
  | 8 => [("+", .add), ("-", .sub)]
  | 9 => [("*", .mul), ("/", .div), ("//", .floorDiv), ("%", .mod), ("@", .matMul)]
  | _ => []

/-- A comparison operator, if one is next. -/
def comparison? : Reading (Option Comparison) := do
  match (← peek).token with
  | .symbol "==" => skip; return some .equal
  | .symbol "!=" => skip; return some .notEqual
  | .symbol "<" => skip; return some .less
  | .symbol "<=" => skip; return some .lessEqual
  | .symbol ">" => skip; return some .greater
  | .symbol ">=" => skip; return some .greaterEqual
  | .name "in" => skip; return some .isIn
  | .name "is" =>
    skip
    if ← acceptWord "not" then return some .isNot
    else return some .is
  | .name "not" =>
    if (← second) = .name "in" then skip; skip; return some .notIn
    else return none
  | _ => return none

/-- Whether the first tokens are a name and a text, as in a misspelt letter before a text. -/
def isMarkedText (start : List Placed) : Bool :=
  match start with
  | ⟨.name _, _⟩ :: ⟨.literal (.text _), _⟩ :: _ => true
  | _ => false

/-- The fault of an element of a bracket that is followed by neither a comma nor the end; a further
element after it suggests that a comma is missing. -/
def afterElement {α : Type} (element : Reading Expression) (start : List Placed)
    (assigned : Option String) : Reading α := do
  let stop ← get
  let line := (start.headD ⟨.finish, 0⟩).line
  if isMarkedText start then unexpected
  else if ← at? "=" then
    match assigned, element.run stop.tail with
    | some message, .ok _ => failAt line message
    | _, _ => unexpected
  else
    match element.run stop with
    | .ok (_, rest) =>
      match rest.head? with
      | some ⟨.unclosed .., _⟩ => set rest; unexpected
      | _ => failAt line "invalid syntax. Perhaps you forgot a comma?"
    | .error fault => if fault.message.endsWith "was never closed" then throw fault else unexpected

/-- Whether a token begins an operand and cannot follow a name. -/
def beginsOperand : Token → Bool
  | .literal _ | .template .. => true
  | .name word => word ∈ ["None", "True", "False"] || word ∉ Token.keywords
  | .symbol text => text ∈ ["\x7b", "~", "..."]
  | _ => false

/-- A name that is read as a variable. Two of them once began statements. -/
def variableName : Reading Expression := do
  let line ← here
  let name ← identifier
  let next ← peek
  if (name = "print" ∨ name = "exec") ∧ beginsOperand next.token then
    failAt next.line ("Missing parentheses in call to '" ++ name ++ "'. Did you mean " ++ name ++
      "(...)?")
  return .name line .named name

/-- Where a value in a text is to be cut: what is in front of the end of its expression. -/
structure ValueScan where
  /-- The characters of the expression so far, the last one first. -/
  taken : List Char
  /-- The brackets that are open, the innermost first. -/
  brackets : List Char
  /-- The mark of the text that is open, and whether it stands three times. -/
  quote : Option (Char × Bool)

/-- The expression of a value in a text, and what follows it. -/
def valueText : Nat → ValueScan → List Char → Except String (List Char × List Char)
  | 0, _, _ => .error "f-string: expecting '\x7d'"
  | _, scan, [] =>
    if scan.quote.isSome then .error "f-string: unterminated string"
    else
      match scan.brackets with
      | bracket :: _ => .error ("f-string: unmatched '" ++ bracket.toString ++ "'")
      | [] => .error "f-string: expecting '\x7d'"
  | fuel + 1, scan, c :: rest =>
    let on (count : Nat) (scan : ValueScan) : Except String (List Char × List Char) :=
      valueText fuel { scan with taken := (rest.take (count - 1)).reverse ++ c :: scan.taken }
        (rest.drop (count - 1))
    if c = '\\' then .error "f-string expression part cannot include a backslash"
    else
      match scan.quote with
      | some (mark, long) =>
        if c = mark then
          if long then
            if rest.take 2 = [c, c] then on 3 { scan with quote := none } else on 1 scan
          else on 1 { scan with quote := none }
        else on 1 scan
      | none =>
        if c = '\'' ∨ c = '"' then
          if rest.take 2 = [c, c] then on 3 { scan with quote := some (c, true) }
          else on 1 { scan with quote := some (c, false) }
        else if c = '[' ∨ c = '\x7b' ∨ c = '(' then
          if 200 ≤ scan.brackets.length then .error "f-string: too many nested parenthesis"
          else on 1 { scan with brackets := c :: scan.brackets }
        else if c = '#' then .error "f-string expression part cannot include '#'"
        else if scan.brackets.isEmpty && c ∈ ['!', ':', '\x7d', '=', '>', '<'] then
          if c ∈ ['!', '=', '<', '>'] && rest.head? == some '=' then on 2 scan
          else if c = '>' ∨ c = '<' then on 1 scan
          else .ok (scan.taken.reverse, c :: rest)
        else if c = ']' ∨ c = '\x7d' ∨ c = ')' then
          match scan.brackets with
          | [] => .error ("f-string: unmatched '" ++ c.toString ++ "'")
          | opening :: brackets =>
            if Token.closer opening = c then on 1 { scan with brackets }
            else
              .error ("f-string: closing parenthesis '" ++ c.toString ++
                "' does not match opening parenthesis '" ++ opening.toString ++ "'")
        else on 1 scan

/-- The plain characters of a text with values up to the next value, and whether what follows goes on
plainly. A brace that stands twice stands for one, except in a format. -/
def plainPart (raw inFormat : Bool) : Nat → List Char → List Char →
    Except String (List Char × List Char × Bool)
  | 0, taken, rest => .ok (taken.reverse, rest, false)
  | _, taken, [] => .ok (taken.reverse, [], false)
  | fuel + 1, taken, c :: rest =>
    let brace (taken : List Char) (c : Char) (rest : List Char) :
        Except String (List Char × List Char × Bool) :=
      if inFormat then .ok (taken.reverse, c :: rest, false)
      else if rest.head? = some c then .ok ((c :: taken).reverse, rest.tail, true)
      else if c = '\x7d' then .error "f-string: single '\x7d' is not allowed"
      else .ok (taken.reverse, c :: rest, false)
    if c = '\x7b' ∨ c = '\x7d' then brace taken c rest
    else if c = '\\' ∧ !raw then
      match rest with
      | 'N' :: '\x7b' :: rest =>
        let name := rest.takeWhile (· != '\x7d')
        let after := rest.drop name.length
        plainPart raw inFormat fuel
          ((after.take 1).reverse ++ name.reverse ++ '\x7b' :: 'N' :: c :: taken) (after.drop 1)
      | next :: rest =>
        if next = '\x7b' ∨ next = '\x7d' then brace (c :: taken) next rest
        else plainPart raw inFormat fuel (next :: c :: taken) rest
      | [] => plainPart raw inFormat fuel (c :: taken) []
    else plainPart raw inFormat fuel (c :: taken) rest

/-- Adds a plain text to the parts of a text, joined to one at their end. -/
def addPlain (parts : List Expression) (codes : List Nat) : List Expression :=
  if codes.isEmpty then parts
  else
    match parts.getLast? with
    | some (.constant (.text text)) =>
      parts.dropLast ++ [.constant (.text ⟨text.codes ++ codes⟩)]
    | _ => parts ++ [.constant (.text ⟨codes⟩)]

/-- Adds parts of a text to others. -/
def addParts (parts : List Expression) : List Expression → List Expression
  | [] => parts
  | .constant (.text text) :: rest => addParts (addPlain parts text.codes) rest
  | part :: rest => addParts (parts ++ [part]) rest

/-- The text that some parts make. -/
def joinedText (parts : List Expression) : Expression :=
  match parts with
  | [] => .constant (.text ⟨[]⟩)
  | [.constant (.text text)] => .constant (.text text)
  | parts => .joined parts

/-- The tail of a parameter list that may not be: a default where there is none. -/
def noDefault (words : String) : Reading Unit := do
  if ← at? "=" then failHere (words ++ " argument cannot have default value")

/-- The kinds that parameters before a slash have. -/
def closePositional (known : List Expression) : List Expression :=
  known.map fun found => match found with
    | .parameter .positional name default annotation =>
      .parameter .positionalOnly name default annotation
    | other => other

/-- How far a list of parameters has come. -/
structure ParameterScan where
  known : List Expression
  slashed : Bool
  starred : Bool
  defaulted : Bool

mutual

/-- An expression, which may choose between two. -/
def expression : Nat → Reading Expression
  | 0 => unexpected
  | fuel + 1 => do
    let line ← here
    if ← acceptWord "lambda" then
      let parameters ← parameterList fuel false ⟨[], false, false, false⟩
      demand ":"
      return .lambda line parameters (← expression fuel)
    else
      let value ← operand fuel 0
      if (← word? "if") then
        let before ← get
        skip
        let test ← operand fuel 0
        if ← acceptWord "else" then return .choice test value (← expression fuel)
        else if ← at? ":" then
          set before
          unexpected
        else failHere "expected 'else' after 'if' expression"
      else return value

/-- An expression that may be assigned to a name. -/
def namedExpression : Nat → Reading Expression
  | 0 => unexpected
  | fuel + 1 => do
    let start ← get
    match start with
    | ⟨.name _, line⟩ :: ⟨.symbol ":=", _⟩ :: _ =>
      let name ← identifier
      skip
      return .named (.name line .named name) (← expression fuel)
    | _ =>
      let value ← expression fuel
      if (← at? ":=") then
        match (expression fuel).run (← get).tail with
        | .ok _ =>
          failAt (start.headD ⟨.finish, 0⟩).line
            ("cannot use assignment expressions with " ++ value.kindWords)
        | .error _ => unexpected
      else return value

/-- An operand of a level. -/
def operand : Nat → Nat → Reading Expression
  | 0, _ => unexpected
  | fuel + 1, level => do
    let line ← here
    if level = 2 then
      if ← acceptWord "not" then return .unary line .not (← operand fuel 2)
      else operand fuel 3
    else if level = 3 then
      let first ← operand fuel 4
      match ← links fuel with
      | [] => return first
      | found => return .chain line first found
    else if level = 10 then
      if ← accept "-" then return .unary line .negative (← operand fuel 10)
      else if ← accept "+" then return .unary line .positive (← operand fuel 10)
      else if ← accept "~" then return .unary line .invert (← operand fuel 10)
      else operand fuel 11
    else if level = 11 then
      let base ← trailers fuel line (← atom fuel)
      if ← accept "**" then return .binary line .pow base (← operand fuel 10)
      else return base
    else
      let left ← operand fuel (level + 1)
      operators fuel level line left

/-- The operators of a level and their right operands after a left one. -/
def operators : Nat → Nat → Nat → Expression → Reading Expression
  | 0, _, _, _ => unexpected
  | fuel + 1, level, line, left => do
    if level = 0 then
      if ← acceptWord "or" then operators fuel level line (.either left (← operand fuel 1))
      else return left
    else if level = 1 then
      if ← acceptWord "and" then operators fuel level line (.both left (← operand fuel 2))
      else return left
    else
      match (← peek).token with
      | .symbol text =>
        match (binaryOperators level).lookup text with
        | some operator =>
          skip
          operators fuel level line (.binary line operator left (← operand fuel (level + 1)))
        | none => return left
      | _ => return left

/-- The comparisons after a first operand. -/
def links : Nat → Reading (List Expression)
  | 0 => unexpected
  | fuel + 1 => do
    match ← comparison? with
    | none => return []
    | some comparison =>
      let right ← operand fuel 4
      return .link comparison right :: (← links fuel)

/-- The calls, attributes and subscripts after an atom. -/
def trailers : Nat → Nat → Expression → Reading Expression
  | 0, _, _ => unexpected
  | fuel + 1, line, target => do
    if ← accept "." then
      let place ← here
      trailers fuel line (.member place target (← identifier))
    else if ← accept "(" then
      let arguments ← callArguments fuel []
      let plain := arguments.all fun argument => !argument.isStarred && !argument.isUnpacked
      let place := match target with
        | .member place .. => if plain then place else line
        | _ => line
      trailers fuel line (.call place target arguments)
    else if ← at? "[" then
      skip
      let place ← here
      let (parts, comma) ← subscripts fuel
      match parts, comma with
      | [.starred starLine value], false =>
        trailers fuel line (.subscript line target (.tuple place [.starred starLine value]))
      | [part], false => trailers fuel line (.subscript line target part)
      | parts, _ => trailers fuel line (.subscript line target (.tuple place parts))
    else return target

/-- A name, a constant or a bracket. -/
def atom : Nat → Reading Expression
  | 0 => unexpected
  | fuel + 1 => do
    let next ← peek
    match next.token with
    | .literal (.text text) =>
      skip
      return joinedText (← adjacentTexts fuel (addPlain [] text.codes))
    | .template raw body =>
      skip
      let parts ← templateParts fuel next.line raw 0 body
      return joinedText (← adjacentTexts fuel (addParts [] parts.1))
    | .literal (.bytes bytes) => skip; adjacentBytes fuel bytes
    | .literal value =>
      skip
      return .constant value
    | .name "None" => skip; return .constant .none
    | .name "True" => skip; return .constant .true
    | .name "False" => skip; return .constant .false
    | .name _ => variableName
    | .symbol "..." => skip; return .constant .ellipsis
    | .symbol "(" => skip; group fuel next.line
    | .symbol "[" =>
      skip
      if ← accept "]" then return .list next.line []
      let start ← get
      let item ← element fuel
      if (← word? "for") || (← word? "async") then
        gathered fuel next.line .list "]" start item
      else return .list next.line (← elementsAfter fuel "]" start item).1
    | .symbol "\x7b" =>
      skip
      if ← accept "\x7d" then return .dict next.line []
      else
        let start ← get
        let (item, isPair) ← entry fuel none
        if (← word? "for") || (← word? "async") then
          gathered fuel next.line (if isPair then .dict else .set) "\x7d" start item
        else
          let (items, _) ← entriesAfter fuel start item isPair
          return if isPair then .dict next.line items else .set next.line items
    | _ => unexpected

/-- Texts that stand side by side are one. -/
def adjacentTexts : Nat → List Expression → Reading (List Expression)
  | 0, _ => unexpected
  | fuel + 1, parts => do
    let next ← peek
    match next.token with
    | .literal (.text text) => skip; adjacentTexts fuel (addPlain parts text.codes)
    | .template raw body =>
      skip
      let more ← templateParts fuel next.line raw 0 body
      adjacentTexts fuel (addParts parts more.1)
    | .literal (.bytes _) => failHere "cannot mix bytes and nonbytes literals"
    | _ => return parts

/-- Bytes that stand side by side are one. -/
def adjacentBytes : Nat → List Nat → Reading Expression
  | 0, _ => unexpected
  | fuel + 1, bytes => do
    match (← peek).token with
    | .literal (.bytes more) => skip; adjacentBytes fuel (bytes ++ more)
    | .literal (.text _) | .template .. => failHere "cannot mix bytes and nonbytes literals"
    | _ => return .constant (.bytes bytes)

/-- The parts of a text with values, and what follows them: nothing, or the end of a format. -/
def templateParts : Nat → Nat → Bool → Nat → List Char →
    Reading (List Expression × List Char)
  | 0, _, _, _, _ => unexpected
  | fuel + 1, line, raw, level, chars => do
    match plainPart raw (level != 0) (chars.length + 1) [] chars with
    | .error message => failAt line message
    | .ok (plain, rest, again) =>
      let codes ←
        if raw then pure (plain.map Char.toNat)
        else
          match Token.unescape true plain.length 0 [] plain with
          | .ok codes => pure codes
          | .error message => failAt line message
      let first := addPlain [] codes
      if again then
        let (parts, rest) ← templateParts fuel line raw level rest
        return (addParts first parts, rest)
      else
        match rest with
        | '\x7b' :: rest =>
          if 2 ≤ level then failAt line "f-string: expressions nested too deeply"
          let place := line + (chars.take (chars.length - rest.length)).count '\n'
          let (value, rest) ← templateValue fuel line place raw level rest
          let next := line + (chars.take (chars.length - rest.length)).count '\n'
          let (parts, rest) ← templateParts fuel next raw level rest
          return (addParts first (value ++ parts), rest)
        | rest => return (first, rest)

/-- A value in a text, behind its opening brace. -/
def templateValue : Nat → Nat → Nat → Bool → Nat → List Char →
    Reading (List Expression × List Char)
  | 0, _, _, _, _, _ => unexpected
  | fuel + 1, line, place, raw, level, chars => do
    match valueText (chars.length + 1) ⟨[], [], none⟩ chars with
    | .error message => failAt line message
    | .ok (written, rest) =>
      if written.all (fun c => c.isWhitespace || c == '\x0c') then
        failAt line "f-string: empty expression not allowed"
      let value ← templateExpression fuel place written
      let (shown, rest) := match rest with
        | '=' :: rest =>
          let blank := rest.takeWhile Char.isWhitespace
          (some (written ++ '=' :: blank), rest.drop blank.length)
        | rest => (none, rest)
      let (conversion, rest) ← match rest with
        | ['!'] => failAt line "f-string: expecting '\x7d'"
        | '!' :: letter :: rest =>
          if letter ∈ ['s', 'r', 'a'] then pure (some letter, rest)
          else
            failAt line "f-string: invalid conversion character: expected 's', 'r', or 'a'"
        | rest => pure (none, rest)
      let (format, rest) ← match rest with
        | ':' :: rest => do
          let (parts, rest) ← templateParts fuel line raw (level + 1) rest
          pure (some (joinedText parts), rest)
        | rest => pure (none, rest)
      match rest with
      | '\x7d' :: rest =>
        let conversion := if shown.isSome && format.isNone && conversion.isNone then some 'r'
          else conversion
        let front := match shown with
          | some shown => addPlain [] (shown.map Char.toNat)
          | none => []
        return (front ++ [.formatted line value conversion format], rest)
      | _ => failAt line "f-string: expecting '\x7d'"

/-- The expression of a value in a text. -/
def templateExpression : Nat → Nat → List Char → Reading Expression
  | 0, _, _ => unexpected
  | fuel + 1, place, written => do
    let inner (fault : SyntaxFault) : SyntaxFault :=
      { fault with message := "f-string: " ++ fault.message, inText := true }
    match Token.ofValue place written with
    | .error fault => throw (inner fault)
    | .ok tokens =>
      let reading : Reading Expression := do
        let value ← atom fuel
        match (← peek).token with
        | .newline => return value
        | _ => unexpected
      match reading.run tokens with
      | .ok (value, _) => return value
      | .error fault => throw (inner fault)

/-- What stands in parentheses. -/
def group : Nat → Nat → Reading Expression
  | 0, _ => unexpected
  | fuel + 1, line => do
    if ← accept ")" then return .tuple line []
    if ← word? "yield" then
      let value ← yieldExpression fuel
      expect ")"
      return value
    if ← at? "**" then
      let starLine ← here
      skip
      let _ ← expression fuel
      if ← at? ")" then failAt starLine "cannot use double starred expression here" else unexpected
    let start ← get
    let item ← element fuel
    if (← word? "for") || (← word? "async") then gathered fuel line .generator ")" start item
    else
      match ← elementsAfter fuel ")" start item with
      | ([.starred starLine _], false) => failAt starLine "cannot use starred expression here"
      | ([item], false) => return item
      | (items, _) => return .tuple line items

/-- A comprehension behind its element. -/
def gathered : Nat → Nat → Gathering → String → List Placed → Expression → Reading Expression
  | 0, _, _, _, _, _ => unexpected
  | fuel + 1, line, gathering, closing, start, item => do
    let found ← clauses fuel
    match item with
    | .starred starLine _ => failAt starLine "iterable unpacking cannot be used in comprehension"
    | .doubleStarred _ => failAt line "dict unpacking cannot be used in dict comprehension"
    | _ =>
      if ← accept closing then return .gather line gathering item found
      else afterElement (expression fuel) start none

/-- The clauses of a comprehension. -/
def clauses : Nat → Reading (List Expression)
  | 0 => unexpected
  | fuel + 1 => do
    if ← acceptWord "for" then
      let target ← loopTarget fuel
      unless ← acceptWord "in" do unexpected
      let source ← operand fuel 0
      let tests ← conditions fuel
      return .clause target source tests :: (← clauses fuel)
    else return []

/-- The conditions of a clause. -/
def conditions : Nat → Reading (List Expression)
  | 0 => unexpected
  | fuel + 1 => do
    if ← acceptWord "if" then
      let test ← operand fuel 0
      return test :: (← conditions fuel)
    else return []

/-- The target of a loop, up to the word after it. -/
def loopTarget : Nat → Reading Expression
  | 0 => unexpected
  | fuel + 1 => do
    let line ← here
    let (items, comma) ← loopTargets fuel
    let target := match items, comma with
      | [item], false => item
      | items, _ => .tuple line items
    match target.misfit? .looped with
    | some wrong =>
      if ← word? "in" then failAt line ("cannot assign to " ++ wrong.kindWords) else unexpected
    | none => return target

/-- The targets of a loop with commas between them, and whether there is a comma. -/
def loopTargets : Nat → Reading (List Expression × Bool)
  | 0 => unexpected
  | fuel + 1 => do
    let line ← here
    let target ←
      if ← accept "*" then do pure (Expression.starred line (← operand fuel 4))
      else operand fuel 4
    if ← accept "," then
      if ← word? "in" then return ([target], true)
      let (rest, _) ← loopTargets fuel
      return (target :: rest, true)
    else return ([target], false)

/-- The elements of a bracket up to its closing symbol, and whether there was a comma. -/
def elements : Nat → String → Reading (List Expression × Bool)
  | 0, _ => unexpected
  | fuel + 1, closing => do
    if ← accept closing then return ([], false)
    let start ← get
    elementsAfter fuel closing start (← element fuel)

/-- The same, given the first element and where it began. -/
def elementsAfter : Nat → String → List Placed → Expression → Reading (List Expression × Bool)
  | 0, _, _, _ => unexpected
  | fuel + 1, closing, start, item => do
    if ← accept "," then
      if (← word? "for") && closing != ")" then
        match (clauses fuel).run (← get) with
        | .ok _ =>
          failAt (start.headD ⟨.finish, 0⟩).line
            "did you forget parentheses around the comprehension target?"
        | .error _ => unexpected
      let (rest, _) ← elements fuel closing
      return (item :: rest, true)
    else if ← accept closing then return ([item], false)
    else afterElement (expression fuel) start item.assignedWords?

/-- An expression that may be starred. -/
def element : Nat → Reading Expression
  | 0 => unexpected
  | fuel + 1 => do
    let line ← here
    if ← accept "*" then return .starred line (← operand fuel 4)
    else namedExpression fuel

/-- An element of a set or a pair of a dictionary, and which of them it is. What comes before it in
the same braces may have decided that. -/
def entry : Nat → Option Bool → Reading (Expression × Bool)
  | 0, _ => unexpected
  | fuel + 1, pairs => do
    let mapped ← at? "**"
    if mapped && pairs == some false then unexpected
    let item ←
      if mapped then do
        skip
        pure (Expression.doubleStarred (← operand fuel 4))
      else element fuel
    let paired ← at? ":"
    if paired && (mapped || pairs == some false) then unexpected
    if paired then
      skip
      let next ← peek
      if next.token = .symbol "\x7d" ∨ next.token = .symbol "," then
        failAt next.line "expression expected after dictionary key and ':'"
      if next.token = .symbol "*" then
        failAt next.line "cannot use a starred expression in a dictionary value"
      return (.pair item (← expression fuel), true)
    else return (item, mapped)

/-- The elements of a set or the pairs of a dictionary up to the closing brace, given the first one
and where it began. -/
def entriesAfter : Nat → List Placed → Expression → Bool → Reading (List Expression × Bool)
  | 0, _, _, _ => unexpected
  | fuel + 1, start, item, pairs => do
    if ← accept "," then
      if ← accept "\x7d" then return ([item], pairs)
      let next ← get
      let (second, isPair) ← entry fuel (some pairs)
      if pairs && !isPair && ((← at? ",") || (← at? "\x7d")) then
        failHere "':' expected after dictionary key"
      let (rest, _) ← entriesAfter fuel next second isPair
      return (item :: rest, pairs)
    else if ← accept "\x7d" then return ([item], pairs)
    else afterElement (expression fuel) start (if pairs then none else item.assignedWords?)

/-- The arguments of a call up to the closing parenthesis, after those that were read before, the
last of them first. No argument without a name stands behind one with a name. -/
def callArguments : Nat → List Expression → Reading (List Expression)
  | 0, _ => unexpected
  | fuel + 1, before => do
    let finish : Reading (List Expression) := do
      match Expression.repeatedKeyword? before.reverse with
      | some name => failHere ("keyword argument repeated: " ++ name)
      | none => return before.reverse
    if ← accept ")" then return ← finish
    let start ← get
    let line ← here
    let item ← do
      if ← accept "**" then do pure (Expression.doubleStarred (← expression fuel))
      else if ← accept "*" then do
        if before.any Expression.isUnpacked then
          failHere "iterable argument unpacking follows keyword argument unpacking"
        pure (Expression.starred line (← expression fuel))
      else
        match start with
        | ⟨.name name, line⟩ :: ⟨.symbol "=", _⟩ :: _ => do
          if name ∈ ["None", "True", "False"] then failAt line ("cannot assign to " ++ name)
          let name ← identifier
          skip
          let value ← expression fuel
          if ← word? "for" then
            match (clauses fuel).run (← get) with
            | .ok _ =>
              failAt line "invalid syntax. Maybe you meant '==' or ':=' instead of '='?"
            | .error _ => unexpected
          pure (Expression.keyword name value)
        | _ => do
          let value ← namedExpression fuel
          if (← word? "for") || (← word? "async") then
            let found ← clauses fuel
            if before.isEmpty && (← at? ")") then
              pure (Expression.gather line .generator value found)
            else if (← at? ")") || (← at? ",") then
              failAt line "Generator expression must be parenthesized"
            else unexpected
          else
            if before.any Expression.isNamed && ((← at? ",") || (← at? ")")) then
              failHere ("positional argument follows keyword argument" ++
                (if before.any Expression.isUnpacked then " unpacking" else ""))
            pure value
    if ← accept "," then
      match item with
      | .gather ..  =>
        if (start.headD ⟨.finish, 0⟩).token = .symbol "(" ∨
            (start.headD ⟨.finish, 0⟩).token = .symbol "[" ∨
            (start.headD ⟨.finish, 0⟩).token = .symbol "\x7b" then
          callArguments fuel (item :: before)
        else failAt line "Generator expression must be parenthesized"
      | _ => callArguments fuel (item :: before)
    else if ← at? ")" then callArguments fuel (item :: before)
    else
      afterElement (expression fuel) start
        (some "expression cannot contain assignment, perhaps you meant \"==\"?")

/-- The parts of a subscript up to the closing bracket, and whether there was a comma. -/
def subscripts : Nat → Reading (List Expression × Bool)
  | 0 => unexpected
  | fuel + 1 => do
    let start ← get
    let nothing := Expression.constant .none
    let first ← if ← at? ":" then pure nothing else element fuel
    let part ←
      if (← at? ":") && !first.isStarred then do
        skip
        let stop ← if (← at? ":") || (← at? "]") || (← at? ",") then pure nothing
          else expression fuel
        let step ←
          if ← accept ":" then
            if (← at? "]") || (← at? ",") then pure nothing else expression fuel
          else pure nothing
        pure (Expression.slice first stop step)
      else pure first
    if ← accept "," then
      if ← accept "]" then return ([part], true)
      let (rest, _) ← subscripts fuel
      return (part :: rest, true)
    else if ← accept "]" then return ([part], false)
    else afterElement (expression fuel) start part.assignedWords?

/-- A value that a generator hands out. -/
def yieldExpression : Nat → Reading Expression
  | 0 => unexpected
  | fuel + 1 => do
    let line ← here
    skip
    if ← acceptWord "from" then return .yieldFrom line (← expression fuel)
    else
      match (← peek).token with
      | .newline | .finish | .symbol ")" | .symbol "]" | .symbol "\x7d" | .symbol "="
      | .symbol ";" => return .yield line none
      | _ => return .yield line (some (← expressions fuel))

/-- Expressions with commas between them, and whether there is a comma. -/
def expressionList : Nat → Reading (List Expression × Bool)
  | 0 => unexpected
  | fuel + 1 => do
    let line ← here
    let item ← if ← accept "*" then do pure (Expression.starred line (← operand fuel 4))
      else expression fuel
    if ← accept "," then
      match (← peek).token with
      | .newline | .finish | .symbol "=" | .symbol ")" | .symbol ":" | .symbol ";"
      | .symbol "]" | .symbol "\x7d" => return ([item], true)
      | _ =>
        let (rest, _) ← expressionList fuel
        return (item :: rest, true)
    else return ([item], false)

/-- One expression, or a tuple of several. -/
def expressions : Nat → Reading Expression
  | 0 => unexpected
  | fuel + 1 => do
    let line ← here
    match ← expressionList fuel with
    | ([item], false) => return item
    | (items, _) => return .tuple line items

/-- The parameters of a function up to what closes them, which is left where it is. Those of a
definition may have annotations. -/
def parameterList : Nat → Bool → ParameterScan → Reading (List Expression)
  | 0, _, _ => unexpected
  | fuel + 1, defined, scan => do
    let closing := if defined then ")" else ":"
    let annotation : Reading (Option Expression) := do
      if !defined then return none
      else if ← accept ":" then return some (← expression fuel)
      else return none
    let next (scan : ParameterScan) : Reading (List Expression) := do
      if ← accept "," then parameterList fuel defined scan
      else if ← at? closing then return scan.known
      else unexpected
    let last := scan.known.getLast?
    match last with
    | some (.parameter .keywords ..) =>
      if ← at? closing then return scan.known
      else failHere "arguments cannot follow var-keyword argument"
    | _ => pure ()
    if ← at? closing then return scan.known
    else if ← accept "**" then
      let name ← identifier
      let note ← annotation
      noDefault "var-keyword"
      next { scan with known := scan.known ++ [.parameter .keywords name none note] }
    else if ← at? "*" then
      if scan.starred then failHere "* argument may appear only once"
      let line ← here
      skip
      if ← at? "," then
        match (← get).tail with
        | ⟨.symbol text, _⟩ :: _ =>
          if text = closing ∨ text = "**" then failAt line "named arguments must follow bare *"
        | _ => pure ()
        next { scan with starred := true }
      else if ← at? closing then failAt line "named arguments must follow bare *"
      else
        let name ← identifier
        let note ← do
          if !defined then pure none
          else if ← accept ":" then do
            let starLine ← here
            if ← accept "*" then pure (some (Expression.starred starLine (← operand fuel 4)))
            else pure (some (← expression fuel))
          else pure none
        noDefault "var-positional"
        next { scan with starred := true, known := scan.known ++ [.parameter .rest name none note] }
    else if ← at? "/" then
      if scan.slashed then failHere "/ may appear only once"
      if scan.starred then failHere "/ must be ahead of *"
      if scan.known.isEmpty then failHere "at least one argument must precede /"
      skip
      next { scan with slashed := true, known := closePositional scan.known }
    else if (← at? "(") && defined then failHere "Function parameters cannot be parenthesized"
    else if ← at? "(" then failHere "Lambda expression parameters cannot be parenthesized"
    else
      let line ← here
      let name ← identifier
      let note ← annotation
      let default ←
        if ← accept "=" then
          if (← at? ",") || (← at? closing) then failHere "expected default value expression"
          pure (some (← expression fuel))
        else pure none
      if scan.starred then
        next { scan with known := scan.known ++ [.parameter .keywordOnly name default note] }
      else
        if default.isNone && scan.defaulted then
          failAt line "non-default argument follows default argument"
        next { scan with
          defaulted := scan.defaulted || default.isSome
          known := scan.known ++ [.parameter .positional name default note] }

end

end ForeignBridge.Foreign
