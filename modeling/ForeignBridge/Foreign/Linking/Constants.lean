import ForeignBridge.Foreign.Linking.View
import ForeignBridge.Foreign.Operations.Operate

/-! # Constants

Equal constants of one text are one object, and a text that looks like a name is one object
everywhere. An operation on constants is carried out once, before the code runs, unless its result
would be large.
-/

namespace ForeignBridge.Foreign

/-- The constants that a text has so far. -/
structure Pool where
  /-- The name of the text. -/
  file : String
  constants : List Handle
  /-- The constants and code objects of the code that is being linked. -/
  used : List Handle
  /-- Statements that come before the one that is being linked. -/
  ahead : List Statement
  /-- How many variables without names there are. -/
  nameless : Nat
  /-- The line of the statement that is being linked. -/
  line : Nat
deriving Inhabited

/-- A part of making a text ready to run. -/
abbrev Linking := StateT Pool Run

namespace Run

/-- Raises that a text is not a program. -/
def failSyntax {α : Type} (file : String) (fault : SyntaxFault) : Run α := do
  let file ← newString (if fault.inText then "<fstring>" else file)
  let line ← newInt fault.line
  let message ← newString fault.message
  let place ← newTuple [file, line, Fixed.none, Fixed.none, Fixed.none, Fixed.none]
  raise (← newExceptionWith (if fault.indentation then .indentationError else .syntaxError)
    [message, place] [("msg", message), ("filename", file), ("lineno", line)])

/-- Whether two constants are of one class and have one value, down to some depth. -/
def isSameConstant : Nat → Handle → Handle → Run Bool
  | 0, _, _ => return false
  | fuel + 1, a, b => do
    if a = b then return true
    let first ← cell a
    let second ← cell b
    if first.type ≠ second.type then return false
    match first.body, second.body with
    | .int n, .int m => return n == m
    | .float x, .float y => return x == y
    | .complex x y, .complex z w => return x == z && y == w
    | .text s, .text t => return s == t
    | .bytes s, .bytes t => return s == t
    | .tuple items, .tuple others =>
      if items.length ≠ others.length then return false
      (items.zip others).allM fun (item, other) => isSameConstant fuel item other
    | _, _ => return false

/-- The first of some constants that is the same as another one. -/
def findConstant (constant : Handle) : List Handle → Run (Option Handle)
  | [] => return none
  | other :: rest => do
    if ← isSameConstant 100 other constant then return some other else findConstant constant rest

/-- Whether a text looks like a name. -/
def looksLikeName (text : CodePoints) : Bool :=
  text.codes.all fun code =>
    code < 128 && (let c := Char.ofNat code; c.isAlpha || c.isDigit || c == '_')

/-- The object of a constant of a source text. -/
def newLiteral : Literal → Run Handle
  | .none => return Fixed.none
  | .true => return Fixed.true
  | .false => return Fixed.false
  | .ellipsis => return Fixed.ellipsis
  | .int n => newInt n
  | .float x => newFloat x
  | .imaginary x => newComplex (.zero false) x
  | .text text => if looksLikeName text then internText text else newText text
  | .bytes bytes => newBytes bytes

/-- How many bits an integer takes. -/
def bitCount (n : Int) : Nat := if n = 0 then 0 else n.natAbs.log2 + 1

/-- How many items a constant has inside, up to a bound. -/
def itemCount : Nat → Handle → Run Nat
  | 0, _ => return 1000000
  | fuel + 1, handle => do
    match ← body handle with
    | .tuple items => items.foldlM (fun count item => return count + (← itemCount fuel item)) items.length
    | _ => return 0

/-- Whether the result of an operation on constants is small enough to be computed ahead. -/
def isFoldable (operator : BinaryOperator) (a b : Handle) : Run Bool := do
  match operator, ← body a, ← body b with
  | .mul, .int n, .int m => return n = 0 || m = 0 || decide (bitCount n + bitCount m ≤ 128)
  | .mul, .int n, .tuple items | .mul, .tuple items, .int n =>
    if items.isEmpty then return true
    let count ← itemCount 20 a
    let other ← itemCount 20 b
    return decide (0 ≤ n ∧ n ≤ 256 / items.length ∧ n * (max count other : Nat) ≤ 1024)
  | .mul, .int n, .text text | .mul, .text text, .int n =>
    return text.codes.isEmpty || decide (0 ≤ n ∧ n ≤ 4096 / text.codes.length)
  | .mul, .int n, .bytes bytes | .mul, .bytes bytes, .int n =>
    return bytes.isEmpty || decide (0 ≤ n ∧ n ≤ 4096 / bytes.length)
  | .pow, .int n, .int m =>
    return n = 0 || m ≤ 0 || decide (bitCount n ≤ 128 / m.toNat)
  | .shiftLeft, .int n, .int m =>
    return n = 0 || m ≤ 0 || decide (m ≤ 128 ∧ bitCount n + m.toNat ≤ 128)
  | .mod, .text _, _ | .mod, .bytes _, _ => return false
  | .matMul, _, _ => return false
  | _, _, _ => return true

/-- What a run answers, if nothing is raised and the answer is a constant. -/
def folded? (run : Run Handle) : Run (Option Handle) := do
  match ← outcome run with
  | .error _ => return none
  | .ok found =>
    match ← core? found with
    | some core =>
      if core ∈ [Core.noneType, .bool, .int, .float, .complex, .str, .bytes, .tuple] then
        match ← body found with
        | .text text => if looksLikeName text then some <$> intern found else return some found
        | _ => return some found
      else return none
    | none => return none

end Run

namespace Linking

/-- A fault on a line. -/
def failAt {α : Type} (line : Nat) (message : String) : Linking α := do
  Run.failSyntax (← get).file ⟨message, line, false, false⟩

/-- A fault in the statement that is being linked. -/
def failHere {α : Type} (message : String) : Linking α := do failAt (← get).line message

/-- Notes that the code refers to an object. -/
def use (handle : Handle) : Linking Unit :=
  modify fun pool =>
    if pool.used.contains handle then pool else { pool with used := handle :: pool.used }

/-- An expression for a constant object, the same for all constants that are the same. -/
def constant (handle : Handle) : Linking Expression := do
  let pool ← get
  match ← Run.findConstant handle pool.constants with
  | some found =>
    use found
    return .object found
  | none =>
    set { pool with constants := handle :: pool.constants }
    use handle
    return .object handle

/-- An expression for a constant of the source text. -/
def literal (value : Literal) : Linking Expression := do constant (← Run.newLiteral value)

/-- An expression for an operation, or for its result if it has one ahead of time. -/
def fold (run : Run Handle) (expression : Expression) : Linking Expression := do
  match ← Run.folded? run with
  | some found => constant found
  | none => return expression

/-- The objects of expressions that are all constants. -/
def objects? : List Expression → Option (List Handle)
  | [] => some []
  | .object handle :: rest => (objects? rest).map (handle :: ·)
  | _ :: _ => none

/-- A variable without a name. -/
def nameless : Linking String := do
  let pool ← get
  set { pool with nameless := pool.nameless + 1 }
  return "." ++ toString pool.nameless

/-- Statements that come before the one that is being linked. -/
def putAhead (statement : Statement) : Linking Unit :=
  modify fun pool => { pool with ahead := pool.ahead ++ [.located pool.line statement] }

/-- Links something with the statements that come before it apart. -/
def withAhead {α : Type} (linking : Linking α) : Linking (α × List Statement) := do
  let outer := (← get).ahead
  modify ({ · with ahead := [] })
  let result ← linking
  let ahead := (← get).ahead
  modify ({ · with ahead := outer })
  return (result, ahead)

/-- Links a piece of code with constants of its own. -/
def inCode {α : Type} (linking : Linking α) : Linking (α × List Handle) := do
  let outer := (← get).used
  let line := (← get).line
  modify ({ · with used := [] })
  let result ← linking
  let used := (← get).used
  modify ({ · with used := outer, line })
  return (result, used)

end Linking

end ForeignBridge.Foreign
