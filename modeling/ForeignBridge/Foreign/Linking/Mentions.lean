import ForeignBridge.Foreign.Tree

/-! # Mentions of names

What a piece of code says of names, in the order in which it says it: it binds them, uses them, or
declares where they belong. A function, a class or a comprehension inside it has mentions of its own.
-/

namespace ForeignBridge.Foreign

/-- What has names of its own. -/
inductive ScopeKind where
  | function | lambda | cls | comprehension
deriving DecidableEq, Repr, Inhabited

/-- A mention of a name, or what is mentioned in a scope of its own. -/
inductive Mention where
  | bound (name : String)
  | used (name : String)
  /-- Bound by an assignment inside an expression, which belongs to what is around a
  comprehension. -/
  | carried (name : String)
  | annotated (name : String)
  | global (name : String) (line : Nat)
  | outer (name : String) (line : Nat)
  /-- A value is handed out. -/
  | handed (line : Nat)
  | scope (kind : ScopeKind) (parameters : List String) (mentions : List Mention)
deriving Repr, Inhabited

/-- A name as it is kept inside a class: a private one has the name of the class in front. -/
def privateName (cls : Option String) (name : String) : String :=
  match cls with
  | none => name
  | some title =>
    let bare := title.toList.dropWhile (· == '_')
    if !name.startsWith "__" || name.endsWith "__" || name.contains '.' || bare.isEmpty then name
    else "_" ++ String.ofList bare ++ name

namespace Expression

/-- The name of a parameter. -/
def parameterName? : Expression → Option String
  | .parameter _ found _ _ => some found
  | _ => none

mutual

/-- What an expression says of names when it is evaluated. -/
def mentions (cls : Option String) : Expression → List Mention
  | .name _ _ title =>
    if title = "super" then [.used title, .used "__class__"] else [.used (privateName cls title)]
  | .list _ items | .tuple _ items | .set _ items | .dict _ items | .joined items =>
    mentionsAll cls items
  | .pair key value => mentions cls key ++ mentions cls value
  | .starred _ value | .doubleStarred value | .keyword _ value | .member _ value _
  | .unary _ _ value | .link _ value => mentions cls value
  | .call _ target arguments => mentions cls target ++ mentionsAll cls arguments
  | .subscript _ target index => mentions cls target ++ mentions cls index
  | .slice start stop step => mentions cls start ++ mentions cls stop ++ mentions cls step
  | .binary _ _ left right | .both left right | .either left right =>
    mentions cls left ++ mentions cls right
  | .chain _ first links => mentions cls first ++ mentionsAll cls links
  | .choice test whenTrue whenFalse =>
    mentions cls test ++ mentions cls whenTrue ++ mentions cls whenFalse
  | .named target value =>
    mentions cls value ++ (match target with
      | .name _ _ title => [.carried (privateName cls title)]
      | _ => [])
  | .lambda _ parameters value =>
    outerMentionsAll cls parameters ++
      [.scope .lambda (parameters.filterMap parameterName? |>.map (privateName cls))
        (mentions cls value)]
  | .gather _ _ element clauses =>
    firstSource cls clauses ++
      [.scope .comprehension [".0"] (restMentions cls true clauses ++ mentions cls element)]
  | .clause target source conditions =>
    targetMentions cls target ++ mentions cls source ++ mentionsAll cls conditions
  | .formatted _ value _ format => mentions cls value ++ optionMentions cls format
  | .yield line value => optionMentions cls value ++ [.handed line]
  | .yieldFrom line source => mentions cls source ++ [.handed line]
  | .constant _ | .object _ | .parameter .. | .closure .. | .build .. | .collect .. => []

/-- What an expression that may be missing says. -/
def optionMentions (cls : Option String) : Option Expression → List Mention
  | none => []
  | some value => mentions cls value

/-- What some expressions say, one after another. -/
def mentionsAll (cls : Option String) : List Expression → List Mention
  | [] => []
  | item :: rest => mentions cls item ++ mentionsAll cls rest

/-- What the first source of a comprehension says, which is evaluated outside of it. -/
def firstSource (cls : Option String) : List Expression → List Mention
  | .clause _ source _ :: _ => mentions cls source
  | _ => []

/-- What the clauses of a comprehension say but for their first source. -/
def restMentions (cls : Option String) (first : Bool) : List Expression → List Mention
  | [] => []
  | .clause target source conditions :: rest =>
    (if first then [.used ".0"] else mentions cls source) ++ targetMentions cls target ++
      mentionsAll cls conditions ++ restMentions cls false rest
  | _ :: rest => restMentions cls first rest

/-- What the defaults and annotations of a parameter say, which are evaluated outside. -/
def outerMentions (cls : Option String) : Expression → List Mention
  | .parameter _ _ default annotation => optionMentions cls default ++ optionMentions cls annotation
  | _ => []

/-- The same for some parameters. -/
def outerMentionsAll (cls : Option String) : List Expression → List Mention
  | [] => []
  | item :: rest => outerMentions cls item ++ outerMentionsAll cls rest

/-- What a target says of names when something is put into it. -/
def targetMentions (cls : Option String) : Expression → List Mention
  | .name _ _ title => [.bound (privateName cls title)]
  | .list _ items | .tuple _ items => targetMentionsAll cls items
  | .starred _ value => targetMentions cls value
  | .member _ target _ => mentions cls target
  | .subscript _ target index => mentions cls target ++ mentions cls index
  | _ => []

/-- The same for some targets. -/
def targetMentionsAll (cls : Option String) : List Expression → List Mention
  | [] => []
  | item :: rest => targetMentions cls item ++ targetMentionsAll cls rest

end

/-- What a target that may be missing says. -/
def optionTarget (cls : Option String) : Option Expression → List Mention
  | none => []
  | some target => targetMentions cls target

end Expression

namespace Statement

mutual

/-- What a statement says of names. -/
def mentions (cls : Option String) : Statement → List Mention
  | .located _ statement => mentions cls statement
  | .expression value => value.mentions cls
  | .assign targets value => value.mentions cls ++ Expression.targetMentionsAll cls targets
  | .update _ _ target value =>
    target.mentions cls ++ value.mentions cls ++ target.targetMentions cls
  | .annotate target annotation value =>
    (match target with
      | .name _ _ name => [.annotated (privateName cls name)]
      | other => other.targetMentions cls) ++ annotation.mentions cls ++
      Expression.optionMentions cls value
  | .delete targets => Expression.targetMentionsAll cls targets
  | .pass | .escape | .again => []
  | .give value => Expression.optionMentions cls value
  | .raise value cause => Expression.optionMentions cls value ++ Expression.optionMentions cls cause
  | .check test message => test.mentions cls ++ Expression.optionMentions cls message
  | .globals names => names.map fun name => .global (privateName cls name) 0
  | .outers names => names.map fun name => .outer (privateName cls name) 0
  | .load modules => modules.flatMap fun (_, target, _) => target.targetMentions cls
  | .loadFrom _ _ names => names.flatMap fun (name, target) =>
    if name = "*" then [] else target.targetMentions cls
  | .define name parameters returns decorators body =>
    Expression.mentionsAll cls decorators ++ Expression.outerMentionsAll cls parameters ++
      Expression.optionMentions cls returns ++
      [.bound (privateName cls name),
       .scope .function
        (parameters.filterMap Expression.parameterName? |>.map (privateName cls))
        (mentionsAll cls body)]
  | .declareClass name arguments decorators body =>
    Expression.mentionsAll cls decorators ++ Expression.mentionsAll cls arguments ++
      [.bound (privateName cls name), .scope .cls [] (mentionsAll (some name) body)]
  | .branch test whenTrue whenFalse =>
    test.mentions cls ++ mentionsAll cls whenTrue ++ mentionsAll cls whenFalse
  | .whilst test body otherwise =>
    test.mentions cls ++ mentionsAll cls body ++ mentionsAll cls otherwise
  | .loop target source body otherwise =>
    source.mentions cls ++ target.targetMentions cls ++ mentionsAll cls body ++
      mentionsAll cls otherwise
  | .enter _ manager target body =>
    manager.mentions cls ++ Expression.optionTarget cls target ++ mentionsAll cls body
  | .shield body handlers otherwise final =>
    mentionsAll cls body ++ mentionsAll cls handlers ++ mentionsAll cls otherwise ++
      mentionsAll cls final
  | .handler test name body =>
    Expression.optionMentions cls test ++ Expression.optionTarget cls name ++ mentionsAll cls body
  | .emit _ element => element.mentions cls

/-- What some statements say, one after another. -/
def mentionsAll (cls : Option String) : List Statement → List Mention
  | [] => []
  | .located line statement :: rest =>
    (mentions cls statement).map (fun mention => match mention with
      | .global name _ => .global name line
      | .outer name _ => .outer name line
      | other => other) ++ mentionsAll cls rest
  | statement :: rest => mentions cls statement ++ mentionsAll cls rest

end

end Statement

/-- The names of two lists, each once. -/
def mergeNames (names : List String) : List String → List String
  | [] => names
  | name :: rest => mergeNames (if names.contains name then names else names ++ [name]) rest

/-- Names without some others. -/
def withoutNames (names others : List String) : List String :=
  names.filter fun name => !others.contains name

namespace Mention

mutual

/-- The names that an assignment inside a comprehension binds around it. -/
def carriedNames : Mention → List String
  | .carried name => [name]
  | .scope .comprehension _ inner => carriedNamesAll inner
  | _ => []

/-- The same for some mentions. -/
def carriedNamesAll : List Mention → List String
  | [] => []
  | mention :: rest => carriedNames mention ++ carriedNamesAll rest

end

/-- The names that a mention binds in its scope. -/
def boundName (inComprehension : Bool) : Mention → List String
  | .bound name | .annotated name => [name]
  | mention => if inComprehension then [] else carriedNames mention

/-- The names that a mention declares as those of the module. -/
def globalName? : Mention → Option String
  | .global name _ => some name
  | _ => none

/-- The names that a mention declares as those of a function around. -/
def outerName? : Mention → Option String
  | .outer name _ => some name
  | _ => none

/-- The names that a mention uses in its scope. -/
def usedName (inComprehension : Bool) : Mention → List String
  | .used name | .outer name _ => [name]
  | mention => if inComprehension then carriedNames mention else []

mutual

/-- The names that a scope uses and does not bind itself. -/
def free : Mention → List String
  | .scope kind parameters inner =>
    let inComprehension := kind == .comprehension
    let declared := inner.filterMap globalName?
    let others := inner.filterMap outerName?
    let bound := withoutNames
      (mergeNames parameters (inner.flatMap (boundName inComprehension))) (declared ++ others)
    let used := inner.flatMap (usedName inComprehension)
    let inside := freeAll inner
    match kind with
    | .cls =>
      mergeNames (withoutNames used (bound ++ declared))
        (withoutNames inside ["__class__"])
    | _ => withoutNames (mergeNames (mergeNames [] used) inside) (bound ++ declared)
  | _ => []

/-- The names that the scopes among some mentions use and do not bind themselves. -/
def freeAll : List Mention → List String
  | [] => []
  | mention :: rest => mergeNames (free mention) (freeAll rest)

end

end Mention

end ForeignBridge.Foreign
