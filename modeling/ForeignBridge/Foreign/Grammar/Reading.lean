import ForeignBridge.Foreign.Characters.Normal
import ForeignBridge.Foreign.Token

/-! # Reading tokens

A reader takes tokens from the front of a list, or finds a fault. The faults of expressions that stand
where they may not name the kind of the expression.
-/

namespace ForeignBridge.Foreign

/-- A reader of tokens. -/
abbrev Reading := StateT (List Placed) (Except SyntaxFault)

namespace Reading

/-- The next token, left where it is. -/
def peek : Reading Placed := do return (← get).headD ⟨.finish, 0⟩

/-- The line of the next token. -/
def here : Reading Nat := do return (← peek).line

/-- The token behind the next one, left where it is. -/
def second : Reading Token := do return ((← get).tail.headD ⟨.finish, 0⟩).token

/-- Passes over the next token. -/
def skip : Reading Unit := modify List.tail

/-- A fault on a line. -/
def failAt {α : Type} (line : Nat) (message : String) : Reading α :=
  throw ⟨message, line, false, false⟩

/-- A fault at the next token. -/
def failHere {α : Type} (message : String) : Reading α := do failAt (← here) message

/-- The next token does not fit. -/
def unexpected {α : Type} : Reading α := do
  let next ← peek
  match next.token with
  | .indent => throw ⟨"unexpected indent", next.line, true, false⟩
  | .dedent => throw ⟨"unexpected unindent", next.line, true, false⟩
  | .unclosed bracket line => failAt line ("'" ++ bracket.toString ++ "' was never closed")
  | _ => failAt next.line "invalid syntax"

/-- Whether the next token is a given symbol. -/
def at? (text : String) : Reading Bool := do return (← peek).token == .symbol text

/-- Whether the next token is a given word. -/
def word? (text : String) : Reading Bool := do return (← peek).token == .name text

/-- Whether the next token is the end of a line. -/
def atNewline : Reading Bool := do return (← peek).token == .newline

/-- Passes over a symbol if it is next. -/
def accept (text : String) : Reading Bool := do
  if ← at? text then skip; return true
  else return false

/-- Passes over a word if it is next. -/
def acceptWord (text : String) : Reading Bool := do
  if ← word? text then skip; return true
  else return false

/-- Passes over a symbol that must be next. -/
def expect (text : String) : Reading Unit := do
  unless ← accept text do unexpected

/-- Passes over a word that must be next. -/
def expectWord (text : String) : Reading Unit := do
  unless ← acceptWord text do unexpected

/-- Passes over a symbol that must be next, or names it. -/
def demand (text : String) : Reading Unit := do
  unless ← accept text do
    match (← peek).token with
    | .unclosed .. => unexpected
    | _ => failHere ("expected '" ++ text ++ "'")

/-- A name that is no keyword, in the form in which names are compared. -/
def identifier : Reading String := do
  match (← peek).token with
  | .name text =>
    if text ∈ Token.keywords then unexpected
    else
      skip
      return String.ofList ((Characters.normalName (text.toList.map Char.toNat)).map Char.ofNat)
  | _ => unexpected

/-- What a reader would find, without passing over anything. -/
def ahead? {α : Type} (reader : Reading α) : Reading (Option (α × List Placed)) := do
  match reader.run (← get) with
  | .ok found => return some found
  | .error _ => return none

end Reading

namespace Expression

/-- What an expression is called when it stands where a target should. -/
def kindWords : Expression → String
  | .constant .none => "None"
  | .constant .true => "True"
  | .constant .false => "False"
  | .constant .ellipsis => "ellipsis"
  | .constant _ => "literal"
  | .name .. => "name"
  | .list .. => "list"
  | .tuple .. => "tuple"
  | .set .. => "set display"
  | .dict .. => "dict literal"
  | .starred .. => "starred"
  | .call .. => "function call"
  | .member .. => "attribute"
  | .subscript .. => "subscript"
  | .chain .. => "comparison"
  | .choice .. => "conditional expression"
  | .lambda .. => "lambda"
  | .named .. => "named expression"
  | .joined _ => "f-string expression"
  | .yield .. | .yieldFrom .. => "yield expression"
  | .gather _ .list _ _ => "list comprehension"
  | .gather _ .set _ _ => "set comprehension"
  | .gather _ .dict _ _ => "dict comprehension"
  | .gather _ .generator _ _ => "generator expression"
  | _ => "expression"

/-- What targets are for. -/
inductive TargetUse where
  | assigned | deleted | looped
deriving DecidableEq, Repr

mutual

/-- The first part of an expression that may not be a target. -/
def misfit? (use : TargetUse) : Expression → Option Expression
  | .name .. | .member .. | .subscript .. => none
  | .list _ items | .tuple _ items => misfitAmong? use items
  | .starred line value =>
    if use = .deleted then some (.starred line value) else misfit? use value
  | .chain line first links =>
    if use = .looped then
      match links with
      | .link .isIn _ :: _ => misfit? use first
      | _ => none
    else some (.chain line first links)
  | other => some other

/-- The first part of some expressions that may not be a target. -/
def misfitAmong? (use : TargetUse) : List Expression → Option Expression
  | [] => none
  | item :: rest =>
    match misfit? use item with
    | some found => some found
    | none => misfitAmong? use rest

end

/-- Whether an expression has no operator weaker than those between bits. -/
def isOperand : Expression → Bool
  | .chain .. | .both .. | .either .. | .choice .. | .unary _ .not _ | .lambda .. | .named ..
  | .starred .. | .yield .. | .yieldFrom .. => false
  | _ => true

/-- Why an element may not be followed by an equals sign, if there is more to say than that it may
not. -/
def assignedWords? : Expression → Option String
  | .name .. => some "invalid syntax. Maybe you meant '==' or ':=' instead of '='?"
  | .constant .none | .constant .true | .constant .false | .list .. | .tuple ..
  | .gather _ .generator _ _ => none
  | element =>
    if element.isOperand then
      some ("cannot assign to " ++ kindWords element ++ " here. Maybe you meant '==' instead of '='?")
    else none

/-- Whether an argument is given by its name. -/
def isNamed : Expression → Bool
  | .keyword .. | .doubleStarred _ => true
  | _ => false

/-- Whether an argument stands for the entries of a mapping. -/
def isUnpacked : Expression → Bool
  | .doubleStarred _ => true
  | _ => false

/-- The first name that two keywords of a call share. -/
def repeatedKeyword? : List Expression → Option String
  | [] => none
  | .keyword given _ :: rest =>
    if rest.any fun other => match other with
      | .keyword again _ => again = given
      | _ => false
    then some given else repeatedKeyword? rest
  | _ :: rest => repeatedKeyword? rest

end Expression

end ForeignBridge.Foreign
