import ForeignBridge.Foreign.Grammar.Statements
import ForeignBridge.Foreign.Linking.Constants

/-! # Linking

Linking makes a tree ready to run: every name gets the place where it is looked up, every constant its
object, and every function, class and comprehension a code object. A value that a generator hands
out in the middle of an expression is handed out before the statement of the expression.
-/

namespace ForeignBridge.Foreign

namespace Expression

/-- The line of an expression, if it has one. -/
def line? : Expression → Option Nat
  | .name line _ _ | .list line _ | .tuple line _ | .set line _ | .dict line _ | .starred line _
  | .call line _ _ | .member line _ _ | .subscript line _ _ | .unary line _ _ | .binary line _ _ _
  | .chain line _ _ | .lambda line _ _ | .gather line _ _ _ => some line
  | _ => none

/-- How many of some expressions are starred. -/
def starCount (items : List Expression) : Nat :=
  (items.filter fun item => match item with
    | .starred .. => true
    | _ => false).length

/-- The name and the kind of a parameter. -/
def parameterParts? (cls : Option String) : Expression → Option (ParameterKind × String)
  | .parameter kind title _ _ => some (kind, privateName cls title)
  | _ => none

end Expression

namespace Linking

/-- The statements of a comprehension, given the statement that puts an element into it. -/
def nestClauses (element : Statement) : List Expression → List Statement
  | [] => [element]
  | .clause target source conditions :: rest =>
    [.loop target source
      (conditions.foldr (fun test body => [.branch test body []]) (nestClauses element rest)) []]
  | _ :: rest => nestClauses element rest

/-- The names of the parameters of a kind. -/
def ofKind (kind : ParameterKind) (parameters : List (ParameterKind × String)) : List String :=
  (parameters.filter (·.1 == kind)).map (·.2)

/-- A code object for a function. -/
def functionCode (view : View) (name : String) (line : Nat)
    (parameters : List (ParameterKind × String)) (body : List Statement)
    (documentation : Option Handle) (used : List Handle) : Linking Handle := do
  let only := ofKind .positionalOnly parameters
  let names := (ofKind .positionalOnly parameters ++ ofKind .positional parameters ++
    ofKind .keywordOnly parameters ++ ofKind .rest parameters ++ ofKind .keywords parameters)
  let code : Code :=
    { name, qualifiedName := view.path, file := (← get).file, line, kind := view.kind,
      positionalOnly := only.length, positional := only ++ ofKind .positional parameters,
      rest := (ofKind .rest parameters).head?, keywordOnly := ofKind .keywordOnly parameters,
      keywords := (ofKind .keywords parameters).head?, body,
      own := mergeNames names view.own, shared := view.cells, free := view.free,
      constants := used ++ documentation.toList, documentation }
  let made ← Run.newOf .code (.code code)
  use made
  return made

/-- The documentation in front of some statements. -/
def documentationOf : List Statement → Option CodePoints
  | .located _ statement :: _ =>
    match statement with
    | .expression (.constant (.text text)) => some text
    | _ => none
  | .expression (.constant (.text text)) :: _ => some text
  | _ => none

/-- The object of the documentation in front of some statements. -/
def documentation? (statements : List Statement) : Linking (Option Handle) := do
  match documentationOf statements with
  | none => return none
  | some text =>
    match ← literal (.text text) with
    | .object made => return some made
    | _ => return none

/-- Whether some mentions say that a value is handed out. -/
def handsOut (mentions : List Mention) : Bool :=
  mentions.any fun mention => match mention with
    | .handed _ => true
    | _ => false

/-- The kind of a function's code. -/
def functionKind (mentions : List Mention) : CodeKind :=
  if handsOut mentions then .generator else .function

/-- A name of its own class's view. -/
def nameIn (view : View) (line : Nat) (name : String) : Expression :=
  let name := privateName view.cls name
  .name line (view.place name) name

/-- The values of keywords for the defaults of named parameters. -/
def keywordDefault? (cls : Option String) : Expression → Option (String × Expression)
  | .parameter .keywordOnly title (some default) _ => some (privateName cls title, default)
  | _ => none

/-- A value under decorators, the outermost first. -/
def decorated (line : Nat) (value : Expression) : List Expression → Expression
  | [] => value
  | decorator :: rest =>
    .call ((decorator.line?).getD line) decorator [decorated line value rest]

mutual

/-- An expression that is ready to run. -/
def expression (invoke : Invoke) (view : View) : Expression → Linking Expression
  | .constant value => literal value
  | .object handle => return .object handle
  | .name line _ title => return nameIn view line title
  | .list line items => return .list line (← elements invoke view items)
  | .tuple line items => do
    let linked ← elements invoke view items
    match objects? linked with
    | some objects => constant (← Run.newTuple objects)
    | none => return .tuple line linked
  | .set line items => return .set line (← elements invoke view items)
  | .dict line items => return .dict line (← elements invoke view items)
  | .pair key value => do
    let key ← expression invoke view key
    return .pair key (← expression invoke view value)
  | .starred line _ => failAt line "can't use starred expression here"
  | .doubleStarred value => return .doubleStarred (← expression invoke view value)
  | .keyword title value => return .keyword title (← expression invoke view value)
  | .call line target arguments => do
    let target ← expression invoke view target
    return .call line target (← elements invoke view arguments)
  | .member line target title => do
    return .member line (← expression invoke view target) (privateName view.cls title)
  | .subscript line target index => do
    let target ← expression invoke view target
    let index ← expression invoke view index
    match target, index with
    | .object container, .object place =>
      fold (Run.getItem invoke container place) (.subscript line target index)
    | _, _ => return .subscript line target index
  | .slice start stop step => do
    let start ← expression invoke view start
    let stop ← expression invoke view stop
    return .slice start stop (← expression invoke view step)
  | .unary line operator operand => do
    match ← expression invoke view operand with
    | .object handle =>
      fold (Run.operateUnary invoke operator handle) (.unary line operator (.object handle))
    | .chain place first [.link .is right] =>
      if operator = .not then return .chain place first [.link .isNot right]
      else return .unary line operator (.chain place first [.link .is right])
    | .chain place first [.link .isIn right] =>
      if operator = .not then return .chain place first [.link .notIn right]
      else return .unary line operator (.chain place first [.link .isIn right])
    | linked => return .unary line operator linked
  | .binary line operator left right => do
    let left ← expression invoke view left
    let right ← expression invoke view right
    match left, right with
    | .object a, .object b =>
      if ← Run.isFoldable operator a b then
        fold (Run.operate invoke operator a b) (.binary line operator left right)
      else return .binary line operator left right
    | _, _ => return .binary line operator left right
  | .chain line first links => do
    let first ← expression invoke view first
    return .chain line first (← elements invoke view links)
  | .link comparison right => return .link comparison (← expression invoke view right)
  | .both left right => do
    let left ← expression invoke view left
    return .both left (← expression invoke view right)
  | .either left right => do
    let left ← expression invoke view left
    return .either left (← expression invoke view right)
  | .choice test whenTrue whenFalse => do
    let test ← expression invoke view test
    let whenTrue ← expression invoke view whenTrue
    return .choice test whenTrue (← expression invoke view whenFalse)
  | .named place value => do
    let value ← expression invoke view value
    return .named (← target invoke view place) value
  | .lambda line parameters value => do
    let mentions := value.mentions view.cls
    let named := parameters.filterMap (Expression.parameterParts? view.cls)
    let defaults ← positionalDefaults invoke view parameters
    let keywordDefaults ← keywordDefaults invoke view parameters
    let inner := view.ofFunction (functionKind mentions) .lambda "<lambda>" (named.map (·.2)) mentions
    let ((body, ahead), used) ← inCode (withAhead (expression invoke inner value))
    let code ← functionCode inner "<lambda>" line named (ahead ++ [.located line (.give (some body))])
      none used
    return .closure line code defaults keywordDefaults []
  | .parameter .. => return .constant .none
  | .gather line gathering element clauses => do
    let source ← firstSource invoke view clauses
    let mentions := Expression.restMentions view.cls true clauses ++ element.mentions view.cls
    let (name, kind) : String × CodeKind := match gathering with
      | .list => ("<listcomp>", .function)
      | .set => ("<setcomp>", .function)
      | .dict => ("<dictcomp>", .function)
      | .generator => ("<genexpr>", .generator)
    let inner := view.ofFunction kind .comprehension name [".0"] mentions
    let ((clauses, element), used) ← inCode do
      let clauses ← clausesIn invoke inner true clauses
      return (clauses, ← expression invoke inner element)
    let put := match gathering with
      | .generator => .expression (.yield line (some element))
      | _ => .emit gathering element
    let made := Expression.name line .own ".made"
    let first ← match gathering with
      | .list => pure [Statement.assign [made] (.list line [])]
      | .set => pure [Statement.assign [made] (.set line [])]
      | .dict => pure [Statement.assign [made] (.dict line [])]
      | .generator => pure []
    let last := match gathering with
      | .generator => []
      | _ => [Statement.give (some (.gather line gathering made []))]
    let code ← functionCode inner name line [(.positional, ".0")]
      ((first ++ nestClauses put clauses ++ last).map (.located line)) none used
    return .collect line gathering code source
  | .clause place source conditions => do
    let source ← expression invoke view source
    return .clause (← target invoke view place) source (← elements invoke view conditions)
  | .joined parts => return .joined (← elements invoke view parts)
  | .formatted line value conversion format => do
    let value ← expression invoke view value
    return .formatted line value conversion (← optional invoke view format)
  | .yield line value => do
    let value ← optional invoke view value
    let name ← nameless
    putAhead (.assign [.name line .own name] (.yield line value))
    return .name line .own name
  | .yieldFrom line source => do
    let source ← expression invoke view source
    let name ← nameless
    putAhead (.assign [.name line .own name] (.yieldFrom line source))
    return .name line .own name
  | .closure line code defaults keywordDefaults annotations =>
    return .closure line code defaults keywordDefaults annotations
  | .build line code name arguments => return .build line code name arguments
  | .collect line gathering code source => return .collect line gathering code source

/-- An expression that may be missing. -/
def optional (invoke : Invoke) (view : View) : Option Expression → Linking (Option Expression)
  | none => return none
  | some value => return some (← expression invoke view value)

/-- The elements of a bracket, which may be starred. -/
def elements (invoke : Invoke) (view : View) : List Expression → Linking (List Expression)
  | [] => return []
  | .starred line value :: rest => do
    let first := Expression.starred line (← expression invoke view value)
    return first :: (← elements invoke view rest)
  | item :: rest => do
    let first ← expression invoke view item
    return first :: (← elements invoke view rest)

/-- The first source of a comprehension, which belongs to the code around it. -/
def firstSource (invoke : Invoke) (view : View) : List Expression → Linking Expression
  | .clause _ source _ :: _ => expression invoke view source
  | _ => return .object Fixed.none

/-- The clauses of a comprehension. The first source has been evaluated before. -/
def clausesIn (invoke : Invoke) (view : View) (first : Bool) :
    List Expression → Linking (List Expression)
  | [] => return []
  | .clause place source conditions :: rest => do
    let source ← if first then pure (Expression.name 0 .own ".0") else expression invoke view source
    let place ← target invoke view place
    let conditions ← elements invoke view conditions
    return .clause place source conditions :: (← clausesIn invoke view false rest)
  | _ :: rest => clausesIn invoke view first rest

/-- The defaults of the parameters that take positional arguments. -/
def positionalDefaults (invoke : Invoke) (view : View) : List Expression → Linking (List Expression)
  | [] => return []
  | .parameter .keywordOnly _ _ _ :: rest => positionalDefaults invoke view rest
  | .parameter _ _ (some default) _ :: rest => do
    let first ← expression invoke view default
    return first :: (← positionalDefaults invoke view rest)
  | _ :: rest => positionalDefaults invoke view rest

/-- The defaults of the parameters that take named arguments only. -/
def keywordDefaults (invoke : Invoke) (view : View) : List Expression → Linking (List Expression)
  | [] => return []
  | .parameter .keywordOnly title (some default) _ :: rest => do
    let first := Expression.keyword (privateName view.cls title) (← expression invoke view default)
    return first :: (← keywordDefaults invoke view rest)
  | _ :: rest => keywordDefaults invoke view rest

/-- The annotations of parameters. -/
def annotations (invoke : Invoke) (view : View) : List Expression → Linking (List Expression)
  | [] => return []
  | .parameter _ title _ (some annotation) :: rest => do
    let value ← match annotation with
      | .starred line inner => do
        pure (Expression.subscript line (.tuple line [.starred line (← expression invoke view inner)])
          (.object Fixed.zero))
      | _ => expression invoke view annotation
    return .keyword (privateName view.cls title) value :: (← annotations invoke view rest)
  | _ :: rest => annotations invoke view rest

/-- A target that is ready to be assigned to. -/
def target (invoke : Invoke) (view : View) : Expression → Linking Expression
  | .name line _ title => do
    if title = "__debug__" then failAt line "cannot assign to __debug__"
    match nameIn view line title with
    | .name line .around title => return .name line .named title
    | linked => return linked
  | .list line items => do
    if 1 < Expression.starCount items then failAt line "multiple starred expressions in assignment"
    return .list line (← targets invoke view items)
  | .tuple line items => do
    if 1 < Expression.starCount items then failAt line "multiple starred expressions in assignment"
    return .tuple line (← targets invoke view items)
  | .starred line _ => failAt line "starred assignment target must be in a list or tuple"
  | .member line value title => do
    if title = "__debug__" then failAt line "cannot assign to __debug__"
    return .member line (← expression invoke view value) (privateName view.cls title)
  | .subscript line value index => do
    let value ← expression invoke view value
    return .subscript line value (← expression invoke view index)
  | other => return other

/-- Targets that are ready to be assigned to; one of them may be starred. -/
def targets (invoke : Invoke) (view : View) : List Expression → Linking (List Expression)
  | [] => return []
  | .starred line value :: rest => do
    let first := Expression.starred line (← target invoke view value)
    return first :: (← targets invoke view rest)
  | item :: rest => do
    let first ← target invoke view item
    return first :: (← targets invoke view rest)

end

/-- A target that may be missing. -/
def optionalTarget (invoke : Invoke) (view : View) : Option Expression → Linking (Option Expression)
  | none => return none
  | some place => return some (← target invoke view place)

/-- The value of a statement. What is handed out there directly needs no variable. -/
def value (invoke : Invoke) (view : View) : Expression → Linking Expression
  | .yield line given => return .yield line (← optional invoke view given)
  | .yieldFrom line source => return .yieldFrom line (← expression invoke view source)
  | other => expression invoke view other

/-- A statement with those that come before it. -/
def alone (linking : Linking Statement) : Linking (List Statement) := do
  let (statement, ahead) ← withAhead linking
  return ahead ++ [statement]

/-- The name that an import binds. -/
def importTarget (view : View) : Expression → Expression
  | .name line _ title => nameIn view line title
  | other => other

/-- Sets the annotation of a return value behind those of the parameters. -/
def withReturns (invoke : Invoke) (view : View) (known : List Expression) :
    Option Expression → Linking (List Expression)
  | none => return known
  | some value => return known ++ [.keyword "return" (← expression invoke view value)]

mutual

/-- What a statement becomes when it is made ready to run. -/
def statement (invoke : Invoke) (view : View) : Statement → Linking (List Statement)
  | .located line inner => do
    modify ({ · with line })
    return (← statement invoke view inner).map fun found => match found with
      | .located place content => .located place content
      | content => .located line content
  | .expression given => alone do return .expression (← value invoke view given)
  | .assign places given => alone do
    let given ← value invoke view given
    return .assign (← places.mapM (target invoke view)) given
  | .update line operator place given => alone do
    let place ← target invoke view place
    return .update line operator place (← value invoke view given)
  | .annotate place annotation given => alone do
    let given ← match given with
      | some given => do pure (some (← value invoke view given))
      | none => pure none
    let place ← target invoke view place
    if view.inFunction then
      match given with
      | some given => return .assign [place] given
      | none => return .pass
    else return .annotate place (← expression invoke view annotation) given
  | .delete places => alone do return .delete (← places.mapM (target invoke view))
  | .pass => return [.pass]
  | .escape => do
    unless view.inLoop do failHere "'break' outside loop"
    return [.escape]
  | .again => do
    unless view.inLoop do failHere "'continue' not properly in loop"
    return [.again]
  | .give given => do
    unless view.inFunction do failHere "'return' outside function"
    match given with
    | some given => alone do return .give (some (← value invoke view given))
    | none => return [.give none]
  | .raise given cause => alone do
    let given ← optional invoke view given
    return .raise given (← optional invoke view cause)
  | .check test message => alone do
    let test ← expression invoke view test
    return .check test (← optional invoke view message)
  | .globals _ | .outers _ => return []
  | .load modules => do
    return [.load (modules.map fun (name, place, apart) => (name, importTarget view place, apart))]
  | .loadFrom level module names => do
    if view.inFunction && names.any (·.1 == "*") then
      failHere "import * only allowed at module level"
    return [.loadFrom level module (names.map fun (name, place) =>
      (name, if name = "*" then place else importTarget view place))]
  | .define name parameters returns decorators body => do
    let line := (← get).line
    let (value, ahead) ← withAhead do
      let decorators ← elements invoke view decorators
      let defaults ← positionalDefaults invoke view parameters
      let keywordDefaults ← keywordDefaults invoke view parameters
      let notes ← withReturns invoke view (← annotations invoke view parameters) returns
      let named := parameters.filterMap (Expression.parameterParts? view.cls)
      let mentions := Statement.mentionsAll view.cls body
      let inner := view.ofFunction (functionKind mentions) .function name (named.map (·.2)) mentions
      let ((content, documentation), used) ← inCode do
        let documentation ← documentation? body
        return (← statements invoke inner body, documentation)
      let code ← functionCode inner name line named content documentation used
      return decorated line (.closure line code defaults keywordDefaults notes) decorators
    return ahead ++ [.assign [nameIn view line name] value]
  | .declareClass name arguments decorators body => do
    let line := (← get).line
    let (value, ahead) ← withAhead do
      let decorators ← elements invoke view decorators
      let arguments ← elements invoke view arguments
      let mentions := Statement.mentionsAll (some name) body
      let inner := view.ofClass name mentions
      let ((content, front), used) ← inCode do
        let title ← literal (.text (.ofString inner.path))
        let front : List Statement :=
          [.assign [.name line .named "__module__"] (.name line (inner.place "__name__") "__name__"),
           .assign [.name line .named "__qualname__"] title]
        let front ← match ← documentation? body with
          | some documentation => do
            pure (front ++ [Statement.assign [nameIn inner line "__doc__"] (.object documentation)])
          | none => pure front
        return (← statements invoke inner body, front.map (Statement.located line))
      let code ← functionCode inner name line [] (front ++ content) none used
      return decorated line (.build line code name arguments) decorators
    return ahead ++ [.assign [nameIn view line name] value]
  | .branch test whenTrue whenFalse => do
    let (test, ahead) ← withAhead (expression invoke view test)
    let whenTrue ← statements invoke view whenTrue
    return ahead ++ [.branch test whenTrue (← statements invoke view whenFalse)]
  | .whilst test body otherwise => do
    let (test, ahead) ← withAhead (expression invoke view test)
    let body ← statements invoke { view with inLoop := true } body
    return ahead ++ [.whilst test (body ++ ahead) (← statements invoke view otherwise)]
  | .loop place source body otherwise => do
    let ((place, source), ahead) ← withAhead do
      let source ← expression invoke view source
      return (← target invoke view place, source)
    let body ← statements invoke { view with inLoop := true } body
    return ahead ++ [.loop place source body (← statements invoke view otherwise)]
  | .enter line manager place body => do
    let ((manager, place), ahead) ← withAhead do
      let manager ← expression invoke view manager
      return (manager, ← optionalTarget invoke view place)
    return ahead ++ [.enter line manager place (← statements invoke view body)]
  | .shield body handlers otherwise final => do
    let body ← statements invoke view body
    let handlers ← handlerList invoke view handlers
    let otherwise ← statements invoke view otherwise
    return [.shield body handlers otherwise (← statements invoke view final)]
  | .handler test name body => do
    let test ← optional invoke view test
    let name ← optionalTarget invoke view name
    return [.handler test name (← statements invoke view body)]
  | .emit gathering element => alone do
    return .emit gathering (← expression invoke view element)

/-- What some statements become. -/
def statements (invoke : Invoke) (view : View) : List Statement → Linking (List Statement)
  | [] => return []
  | first :: rest => do
    let first ← statement invoke view first
    return first ++ (← statements invoke view rest)

/-- The handlers of a shielded body. One for all exceptions comes last. -/
def handlerList (invoke : Invoke) (view : View) : List Statement → Linking (List Statement)
  | [] => return []
  | first :: rest => do
    match first with
    | .located line (.handler none _ _) =>
      unless rest.isEmpty do failAt line "default 'except:' must be last"
    | _ => pure ()
    let first ← statement invoke view first
    return first ++ (← handlerList invoke view rest)

end

/-- The faults of the declarations of a text. -/
def checkMentions (mentions : List Mention) : Linking Unit := do
  match Mention.fault? none [] [] [] mentions with
  | some (message, line) => failAt (if line = 0 then 1 else line) message
  | none => return

/-- A code object for a text. -/
def textCode (view : View) (body : List Statement) (used : List Handle) : Linking Handle := do
  functionCode { view with path := "<module>" } "<module>" 1 [] body none used

/-- The code object of a text of statements. -/
def ofStatements (invoke : Invoke) (body : List Statement) : Linking Handle := do
  let mentions := Statement.mentionsAll none body
  checkMentions mentions
  let view := View.ofText mentions
  let ((content, front), used) ← inCode do
    let front ← match ← documentation? body with
      | some documentation =>
        pure [Statement.assign [.name 1 .named "__doc__"] (.object documentation)]
      | none => pure []
    return (← statements invoke view body, front)
  textCode view (front ++ content) used

/-- The code object of a text that is an expression. -/
def ofExpression (invoke : Invoke) (body : Expression) : Linking Handle := do
  let mentions := body.mentions none
  checkMentions mentions
  let view := View.ofText mentions
  let (linked, used) ← inCode (expression invoke view body)
  textCode view [.located 1 (.give (some linked))] used

end Linking

namespace Run

/-- The code object of a source text of statements. -/
def linkProgram (invoke : Invoke) (file source : String) : Run Handle := do
  match readProgram source with
  | .error fault => failSyntax file fault
  | .ok body =>
    return (← (Linking.ofStatements invoke body).run ⟨file, [], [], [], 0, 1⟩).1

/-- The code object of a source text that is an expression. -/
def linkExpression (invoke : Invoke) (file source : String) : Run Handle := do
  match readExpression source with
  | .error fault => failSyntax file fault
  | .ok body =>
    return (← (Linking.ofExpression invoke body).run ⟨file, [], [], [], 0, 1⟩).1

end Run

end ForeignBridge.Foreign
