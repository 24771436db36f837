import ForeignBridge.Foreign.Grammar.Expressions

/-! # Statements read from tokens

A line holds statements with semicolons between them; a statement with a block stands on lines of its
own. A block that is missing is a fault that names the statement it belongs to.
-/

namespace ForeignBridge.Foreign

open Reading

/-- The operators that combine with an assignment. -/
def updateOperators : List (String × BinaryOperator) :=
  [("+=", .add), ("-=", .sub), ("*=", .mul), ("@=", .matMul), ("/=", .div), ("//=", .floorDiv),
   ("%=", .mod), ("**=", .pow), ("<<=", .shiftLeft), (">>=", .shiftRight), ("|=", .or),
   ("^=", .xor), ("&=", .and)]

/-- Passes over ends of lines. -/
def skipNewlines : Nat → Reading Unit
  | 0 => return
  | fuel + 1 => do
    match (← peek).token with
    | .newline => skip; skipNewlines fuel
    | _ => return

/-- A dotted name after its first word. -/
def dottedRest : Nat → String → Reading String
  | 0, name => return name
  | fuel + 1, name => do
    if ← accept "." then dottedRest fuel (name ++ "." ++ (← identifier))
    else return name

/-- The modules of an import with the names to bind. -/
def moduleNames (fuel : Nat) : Nat → Reading (List (String × Expression × Bool))
  | 0 => unexpected
  | count + 1 => do
    let line ← here
    let name ← dottedRest fuel (← identifier)
    let (target, apart) ←
      if ← acceptWord "as" then do pure (← identifier, true)
      else pure ((name.splitOn ".").headD name, false)
    let first := (name, Expression.name line .named target, apart)
    if ← accept "," then return first :: (← moduleNames fuel count) else return [first]

/-- The names that are taken from a module. -/
def importedNames (bracket : Bool) : Nat → Reading (List (String × Expression))
  | 0 => unexpected
  | fuel + 1 => do
    let line ← here
    let name ← identifier
    let target ← if ← acceptWord "as" then identifier else pure name
    let first := (name, Expression.name line .named target)
    if ← accept "," then
      if bracket && (← at? ")") then return [first]
      else if ← atNewline then
        failHere "trailing comma not allowed without surrounding parentheses"
      else return first :: (← importedNames bracket fuel)
    else return [first]

/-- The dots in front of the name of a module. -/
def leadingDots : Nat → Reading Nat
  | 0 => return 0
  | fuel + 1 => do
    if ← accept "." then return 1 + (← leadingDots fuel)
    else if ← accept "..." then return 3 + (← leadingDots fuel)
    else return 0

/-- The rest of an import of names from a module. -/
def importFrom (fuel : Nat) : Reading Statement := do
  let level ← leadingDots fuel
  let module ← if 0 < level && (← word? "import") then pure ""
    else do dottedRest fuel (← identifier)
  expectWord "import"
  let line ← here
  if ← accept "*" then return .loadFrom level module [("*", .name line .named "*")]
  else if ← accept "(" then
    let names ← importedNames true fuel
    expect ")"
    return .loadFrom level module names
  else return .loadFrom level module (← importedNames false fuel)

/-- Names with commas between them. -/
def nameList : Nat → Reading (List String)
  | 0 => unexpected
  | fuel + 1 => do
    let name ← identifier
    if ← accept "," then return name :: (← nameList fuel) else return [name]

/-- The value of an assignment. -/
def assignedValue (fuel : Nat) : Reading Expression := do
  if ← word? "yield" then yieldExpression fuel else expressions fuel

/-- The targets and the value of an assignment after its first expression. -/
def assignment (fuel : Nat) : Nat → Nat → List Expression → Expression → Reading Statement
  | 0, _, _, _ => unexpected
  | count + 1, line, targets, value => do
    if ← at? "=" then
      match value.misfit? .assigned with
      | some wrong =>
        match value with
        | .yield .. | .yieldFrom .. => failAt line "assignment to yield expression not possible"
        | _ =>
          let behind ← ahead? (do skip; operand fuel 4)
          let single := match behind with
            | some (_, ⟨.symbol "=", _⟩ :: _) | some (_, ⟨.symbol ":=", _⟩ :: _) => false
            | some _ => true
            | none => false
          match value.assignedWords? with
          | some message =>
            if targets.isEmpty && single then failAt line message
            else failAt line ("cannot assign to " ++ wrong.kindWords)
          | none => failAt line ("cannot assign to " ++ wrong.kindWords)
      | none =>
        skip
        let line ← here
        assignment fuel count line (targets ++ [value]) (← assignedValue fuel)
    else if targets.isEmpty then return .expression value
    else return .assign targets value

/-- What an annotation may stand behind. -/
def annotated (fuel line : Nat) (bracketed : Bool) (target : Expression) : Reading Statement := do
  match target with
  | .name .. | .member .. | .subscript .. =>
    skip
    let note ← expression fuel
    let value ← if ← accept "=" then do pure (some (← assignedValue fuel)) else pure none
    return .annotate target note value
  | other =>
    match ← ahead? (do skip; expression fuel) with
    | none => unexpected
    | some _ =>
      match other with
      | .list .. => failAt line "only single target (not list) can be annotated"
      | .tuple .. => failAt line "only single target (not tuple) can be annotated"
      | _ =>
        if bracketed then failAt line "illegal target for annotation"
        else failAt line "illegal target for annotation"

/-- A statement that is an expression, or begins with one. -/
def expressionStatement (fuel : Nat) : Reading Statement := do
  let line ← here
  let bracketed ← at? "("
  let value ← assignedValue fuel
  match (← peek).token with
  | .symbol ":" => annotated fuel line bracketed value
  | .symbol text =>
    match updateOperators.lookup text with
    | some operator =>
      match value with
      | .name .. | .member .. | .subscript .. =>
        skip
        return .update line operator value (← assignedValue fuel)
      | other =>
        match ← ahead? (do skip; assignedValue fuel) with
        | none => unexpected
        | some _ =>
          failAt line ("'" ++ other.kindWords ++
            "' is an illegal expression for augmented assignment")
    | none => assignment fuel fuel line [] value
  | _ => return .expression value

/-- A statement within a line. -/
def simpleStatement (fuel : Nat) : Reading Statement := do
  let ends : Reading Bool := do
    match (← peek).token with
    | .newline | .finish | .symbol ";" => return true
    | _ => return false
  if ← acceptWord "pass" then return .pass
  else if ← acceptWord "break" then return .escape
  else if ← acceptWord "continue" then return .again
  else if ← acceptWord "return" then
    if ← ends then return .give none
    else return .give (some (← expressions fuel))
  else if ← acceptWord "raise" then
    if ← ends then return .raise none none
    else
      let value ← expression fuel
      let cause ← if ← acceptWord "from" then do pure (some (← expression fuel)) else pure none
      return .raise (some value) cause
  else if ← acceptWord "import" then return .load (← moduleNames fuel fuel)
  else if ← acceptWord "from" then importFrom fuel
  else if ← acceptWord "global" then return .globals (← nameList fuel)
  else if ← acceptWord "nonlocal" then return .outers (← nameList fuel)
  else if ← acceptWord "assert" then
    let test ← expression fuel
    let message ← if ← accept "," then do pure (some (← expression fuel)) else pure none
    return .check test message
  else if ← acceptWord "del" then
    let line ← here
    let (targets, _) ← expressionList fuel
    match Expression.misfitAmong? .deleted targets with
    | some wrong =>
      if ← ends then failAt line ("cannot delete " ++ wrong.kindWords) else unexpected
    | none => return .delete targets
  else expressionStatement fuel

/-- The statements of a line. -/
def simpleLine (fuel : Nat) : Nat → Reading (List Statement)
  | 0 => unexpected
  | count + 1 => do
    let line ← here
    let statement := Statement.located line (← simpleStatement fuel)
    if ← accept ";" then
      match (← peek).token with
      | .newline => skip; return [statement]
      | _ => return statement :: (← simpleLine fuel count)
    else
      match (← peek).token with
      | .newline => skip; return [statement]
      | _ => unexpected

/-- The test of a statement, which must be followed by a colon. -/
def testOf (fuel : Nat) : Reading Expression := do
  let line ← here
  let test ← namedExpression fuel
  if ← at? "=" then
    match ← ahead? (do skip; operand fuel 4), test.assignedWords? with
    | some (_, rest), some message =>
      match rest.head? with
      | some ⟨.symbol "=", _⟩ | some ⟨.symbol ":=", _⟩ => unexpected
      | _ => failAt line message
    | _, _ => unexpected
  else return test

/-- A colon that ends the head of a statement. -/
def headEnd : Reading Unit := do
  if ← at? ":" then return
  else if ← atNewline then failHere "expected ':'"
  else unexpected

/-- A managed object with the target it is bound to. -/
def managed (fuel : Nat) : Reading (Nat × Expression × Option Expression) := do
  let line ← here
  let manager ← expression fuel
  if ← acceptWord "as" then
    let targetLine ← here
    let starred ← accept "*"
    let target ← operand fuel 11
    let target := if starred then .starred targetLine target else target
    match target.misfit? .assigned with
    | some wrong =>
      if (← at? ",") || (← at? ")") || (← at? ":") then
        failAt targetLine ("cannot assign to " ++ wrong.kindWords)
      else unexpected
    | none => return (line, manager, some target)
  else return (line, manager, none)

/-- Managed objects with commas between them. -/
def managedList (fuel : Nat) (bracket : Bool) :
    Nat → Reading (List (Nat × Expression × Option Expression))
  | 0 => unexpected
  | count + 1 => do
    let first ← managed fuel
    if ← accept "," then
      if bracket && (← at? ")") then return [first]
      else return first :: (← managedList fuel bracket count)
    else return [first]

/-- All managed objects of a statement. -/
def managers (fuel : Nat) : Reading (List (Nat × Expression × Option Expression)) := do
  let start ← get
  let inBrackets : Reading (List (Nat × Expression × Option Expression)) := do
    expect "("
    let found ← managedList fuel true fuel
    expect ")"
    if ← at? ":" then return found else unexpected
  match inBrackets.run start with
  | .ok (found, rest) =>
    set rest
    return found
  | .error _ => managedList fuel false fuel

/-- A statement that manages some objects, the first of them outermost. -/
def nestManagers (body : List Statement) :
    List (Nat × Expression × Option Expression) → List Statement
  | [] => body
  | (line, manager, target) :: rest =>
    [.located line (.enter line manager target (nestManagers body rest))]

mutual

/-- A statement, or the statements of a line. -/
def statements : Nat → Reading (List Statement)
  | 0 => unexpected
  | fuel + 1 => do
    let next ← peek
    match next.token with
    | .symbol "@" =>
      let decorators ← decoratorLines fuel
      let place ← here
      return [.located place (← definition fuel place decorators)]
    | .name "def" | .name "class" => return [.located next.line (← definition fuel next.line [])]
    | .name "if" => skip; return [.located next.line (← branch fuel "'if'" next.line)]
    | .name "for" =>
      skip
      let target ← loopTarget fuel
      unless ← acceptWord "in" do unexpected
      let values ← expressions fuel
      headEnd
      let body ← block fuel "'for' statement" next.line
      return [.located next.line (.loop target values body (← otherwise fuel))]
    | .name "while" =>
      skip
      let test ← testOf fuel
      headEnd
      let body ← block fuel "'while' statement" next.line
      return [.located next.line (.whilst test body (← otherwise fuel))]
    | .name "with" =>
      skip
      let found ← managers fuel
      headEnd
      let body ← block fuel "'with' statement" next.line
      return nestManagers body found
    | .name "try" =>
      skip
      demand ":"
      let body ← blockBehind fuel "'try' statement" next.line
      let handlers ← handlerList fuel
      let final ← if handlers.isEmpty then finalBlock fuel else pure none
      match handlers, final with
      | [], none => failHere "expected 'except' or 'finally' block"
      | [], some final => return [.located next.line (.shield body [] [] final)]
      | handlers, _ =>
        let calm ← otherwise fuel
        let final ← finalBlock fuel
        return [.located next.line (.shield body handlers calm (final.getD []))]
    | _ => simpleLine fuel fuel

/-- What is done when a loop or a body comes to its end. -/
def otherwise : Nat → Reading (List Statement)
  | 0 => unexpected
  | fuel + 1 => do
    let line ← here
    if ← acceptWord "else" then
      demand ":"
      blockBehind fuel "'else' statement" line
    else return []

/-- What is done in any case. -/
def finalBlock : Nat → Reading (Option (List Statement))
  | 0 => unexpected
  | fuel + 1 => do
    let line ← here
    if ← acceptWord "finally" then
      demand ":"
      some <$> blockBehind fuel "'finally' statement" line
    else return none

/-- The decorators in front of a definition. -/
def decoratorLines : Nat → Reading (List Expression)
  | 0 => unexpected
  | fuel + 1 => do
    if ← accept "@" then
      let decorator ← namedExpression fuel
      match (← peek).token with
      | .newline => skip
      | _ => unexpected
      return decorator :: (← decoratorLines fuel)
    else return []

/-- The definition of a function or a class. -/
def definition : Nat → Nat → List Expression → Reading Statement
  | 0, _, _ => unexpected
  | fuel + 1, line, decorators => do
    if ← acceptWord "def" then
      let name ← identifier
      demand "("
      let found ← parameterList fuel true ⟨[], false, false, false⟩
      expect ")"
      let returns ← if ← accept "->" then do pure (some (← expression fuel)) else pure none
      demand ":"
      return .define name found returns decorators
        (← blockBehind fuel "function definition" line)
    else if ← acceptWord "class" then
      let name ← identifier
      let arguments ←
        if ← accept "(" then do
          let found ← callArguments fuel []
          pure found
        else pure []
      headEnd
      return .declareClass name arguments decorators (← block fuel "class definition" line)
    else unexpected

/-- What follows the word that opens a conditional statement. -/
def branch : Nat → String → Nat → Reading Statement
  | 0, _, _ => unexpected
  | fuel + 1, word, line => do
    let test ← testOf fuel
    headEnd
    let whenTrue ← block fuel (word ++ " statement") line
    let next ← here
    if ← acceptWord "elif" then
      return .branch test whenTrue [.located next (← branch fuel "'elif'" next)]
    else return .branch test whenTrue (← otherwise fuel)

/-- The handlers of a statement that shields its body. -/
def handlerList : Nat → Reading (List Statement)
  | 0 => unexpected
  | fuel + 1 => do
    let line ← here
    if ← acceptWord "except" then
      let test ← do
        if ← at? ":" then pure none
        else if ← atNewline then failHere "expected ':'"
        else do pure (some (← expression fuel))
      if test.isSome && (← at? ",") then
        match ← ahead? (do skip; expressions fuel) with
        | some _ => failAt line "multiple exception types must be parenthesized"
        | none => unexpected
      let nameLine ← here
      let name ← do
        if test.isNone then pure none
        else if ← acceptWord "as" then do
          pure (some (Expression.name nameLine .named (← identifier)))
        else pure none
      headEnd
      let body ← block fuel "'except' statement" line
      return .located line (.handler test name body) :: (← handlerList fuel)
    else return []

/-- The statements after a colon, on its line or indented below it. -/
def block : Nat → String → Nat → Reading (List Statement)
  | 0, _, _ => unexpected
  | fuel + 1, owner, line => do
    expect ":"
    blockBehind fuel owner line

/-- The statements behind a colon. -/
def blockBehind : Nat → String → Nat → Reading (List Statement)
  | 0, _, _ => unexpected
  | fuel + 1, owner, line => do
    match (← peek).token with
    | .newline =>
      skip
      let next ← peek
      match next.token with
      | .indent => skip; indented fuel
      | _ =>
        throw ⟨"expected an indented block after " ++ owner ++ " on line " ++ toString line,
          next.line, true, false⟩
    | _ => simpleLine fuel fuel

/-- The statements of a block up to its dedent. -/
def indented : Nat → Reading (List Statement)
  | 0 => unexpected
  | fuel + 1 => do
    let first ← statements fuel
    match (← peek).token with
    | .dedent => skip; return first
    | .finish => return first
    | _ => return first ++ (← indented fuel)

end

/-- The statements of a text up to its end. -/
def program (fuel : Nat) : Nat → Reading (List Statement)
  | 0 => unexpected
  | count + 1 => do
    skipNewlines fuel
    match (← peek).token with
    | .finish => return []
    | _ =>
      let first ← statements fuel
      return first ++ (← program fuel count)

/-- How deep the readers may go on some tokens. -/
def depthBound (tokens : List Placed) : Nat := 20 * tokens.length + 40

/-- The expression that a source text is. -/
def readExpression (source : String) : Except SyntaxFault Expression := do
  let tokens ← Token.ofSource source
  let fuel := depthBound tokens
  let reading : Reading Expression := do
    let value ← expressions fuel
    skipNewlines fuel
    match (← peek).token with
    | .finish => return value
    | _ => unexpected
  return (← reading.run tokens).1

/-- The statements that a source text holds. -/
def readProgram (source : String) : Except SyntaxFault (List Statement) := do
  let tokens ← Token.ofSource source
  let fuel := depthBound tokens
  return (← (program fuel fuel).run tokens).1

end ForeignBridge.Foreign
