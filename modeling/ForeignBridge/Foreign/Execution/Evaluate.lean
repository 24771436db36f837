import ForeignBridge.Foreign.Execution.Parameters
import ForeignBridge.Foreign.Operations.Iterate
import ForeignBridge.Foreign.Operations.Label

/-! # Evaluation

Expressions are evaluated in the surroundings that the machine keeps. Each operation that may go
wrong puts its line down first.
-/

namespace ForeignBridge.Foreign.Run

/-- Puts the line of an operation down. -/
def onLine (line : Nat) : Run Unit := setRegisters ({ · with line })

/-- The answer of a comparison of an expression. -/
def evaluateComparison (invoke : Invoke) (comparison : Comparison) (a b : Handle) : Run Handle := do
  match comparison with
  | .is => return truth (a == b)
  | .isNot => return truth (a != b)
  | .isIn => return truth (← contains invoke b a)
  | .notIn => return truth (!(← contains invoke b a))
  | _ => compare invoke comparison a b

/-- The items of an object behind a star among other items. -/
def starredItems (invoke : Invoke) (source : Handle) : Run (List Handle) := do
  if ← isIterable source then gather invoke source
  else
    fail .typeError ("Value after * must be an iterable, not " ++ (← typeName source))

/-- The positional arguments that an object behind a star stands for. -/
def starredArguments (invoke : Invoke) (target source : Handle) : Run (List Handle) := do
  if ← isIterable source then gather invoke source
  else
    failCalled invoke target (" argument after * must be an iterable, not " ++ (← typeName source))

/-- The keys and values of a mapping, which must have keys. -/
def mappingPairs? (invoke : Invoke) (source : Handle) : Run (Option (List (Handle × Handle))) := do
  match ← cell source with
  | ⟨_, .dict content, _, _, _⟩ => return some (content.entries.map fun entry => (entry.key, entry.value))
  | _ =>
    match ← getAttribute? invoke source "keys" with
    | none => return none
    | some rule =>
      let keys ← iterate invoke (← invoke rule (.of []))
      some <$> keys.mapM fun key => do return (key, ← getItem invoke source key)

/-- The name that a key of named arguments is. -/
def keywordName (key : Handle) : Run String := do
  match ← text? key with
  | some text => return text.lossy
  | none => fail .typeError "keywords must be strings"

/-- Adds named arguments to those of a call; a name may come only once. -/
def addKeywords (invoke : Invoke) (target : Handle) (known : List (String × Handle)) :
    List (String × Handle) → Run (List (String × Handle))
  | [] => return known
  | (name, value) :: rest =>
    if (known.lookup name).isSome then
      failCalled invoke target (" got multiple values for keyword argument '" ++ name ++ "'")
    else addKeywords invoke target (known ++ [(name, value)]) rest

/-- A new function of some code. -/
def newFunction (code : Handle) (defaults keywordDefaults annotations : Handle) : Run Handle := do
  match ← body code with
  | .code content =>
    let frame := (← machine).frame
    let closure := content.free.map fun name => (frame.shared.lookup name).getD Fixed.none
    let module := (← getName? frame.globals "__name__").getD Fixed.none
    newOf .function (.function
      { name := content.name, qualifiedName := content.qualifiedName, code, globals := frame.globals,
        defaults, keywordDefaults, closure,
        documentation := content.documentation.getD Fixed.none, module, annotations })
  | _ => return Fixed.none

/-- The function that makes classes. -/
def classBuilder : Run Handle := do
  match ← getName? (← builtinsFor (← machine).frame.globals) "__build_class__" with
  | some found => return found
  | none => fail .nameError "__build_class__ not found"

/-- Puts an item in front of the others of a list that is being made, the last one first. -/
def putItem (list item : Handle) : Run Unit := do
  match ← body list with
  | .list items => setBody list (.list (item :: items))
  | _ => return

/-- Turns the items of a list round. -/
def reverseItems (list : Handle) : Run Unit := do
  match ← body list with
  | .list items => setBody list (.list items.reverse)
  | _ => return

mutual

/-- The object that an expression evaluates to. -/
def evaluate (invoke : Invoke) :
    Expression → Run Handle
  | .constant _ => return Fixed.none
  | .object handle => return handle
  | .name line place name => do
    onLine line
    readName invoke place name
  | .list line items => do
    let items ← evaluateItems invoke items
    onLine line
    newList items
  | .tuple line items => do
    let items ← evaluateItems invoke items
    onLine line
    newTuple items
  | .set line items => do
    let items ← evaluateSet invoke items
    onLine line
    newSet invoke .set items
  | .dict line items => do
    let dict ← newEmptyDict
    let pairs ← evaluatePairs invoke items
    onLine line
    for (key, value) in pairs do dictSet invoke dict key value
    return dict
  | .pair _ value => evaluate invoke value
  | .starred _ value => evaluate invoke value
  | .doubleStarred value => evaluate invoke value
  | .keyword _ value => evaluate invoke value
  | .call line target arguments => do
    let function ← evaluate invoke target
    let single := match arguments with
      | [.starred ..] => true
      | .starred .. :: rest => rest.all fun other => match other with
        | .keyword .. | .doubleStarred _ => true
        | _ => false
      | _ => false
    let positional ← evaluatePositional invoke function single arguments
    let keywords ← evaluateKeywords invoke function [] arguments
    onLine line
    invoke function ⟨positional, keywords⟩
  | .member line target name => do
    let object ← evaluate invoke target
    onLine line
    getAttribute invoke object name
  | .subscript line target index => do
    let container ← evaluate invoke target
    let index ← evaluate invoke index
    onLine line
    getItem invoke container index
  | .slice start stop step => do
    let start ← evaluate invoke start
    let stop ← evaluate invoke stop
    newOf .slice (.slice start stop (← evaluate invoke step))
  | .unary line operator operand => do
    let value ← evaluate invoke operand
    onLine line
    operateUnary invoke operator value
  | .binary line operator left right => do
    let left ← evaluate invoke left
    let right ← evaluate invoke right
    onLine line
    operate invoke operator left right
  | .chain line first links => do
    evaluateLinks invoke line (← evaluate invoke first) links
  | .link _ right => evaluate invoke right
  | .both left right => do
    let value ← evaluate invoke left
    if ← isTrue invoke value then evaluate invoke right else return value
  | .either left right => do
    let value ← evaluate invoke left
    if ← isTrue invoke value then return value else evaluate invoke right
  | .choice test whenTrue whenFalse => do
    if ← isTrue invoke (← evaluate invoke test) then evaluate invoke whenTrue
    else evaluate invoke whenFalse
  | .named target value => do
    let made ← evaluate invoke value
    match target with
    | .name _ place name => writeName invoke place name made
    | _ => pure ()
    return made
  | .joined [part] => evaluate invoke part
  | .joined parts => do
    let texts ← evaluateParts invoke parts
    newText ⟨texts.flatMap (·.codes)⟩
  | .formatted line value conversion format => do
    let value ← evaluate invoke value
    let shown ← match conversion with
      | some 'r' => reprOf invoke value
      | some 's' => strOf invoke value
      | some _ => asciiOf invoke value
      | none => pure value
    let format ← match format with
      | some format => do codePoints (← evaluate invoke format)
      | none => pure ⟨[]⟩
    onLine line
    formatOf invoke shown format
  | .closure line code defaults keywordDefaults annotations => do
    let defaults ← evaluateItems invoke defaults
    let defaults ← if defaults.isEmpty then pure .null else newTuple defaults
    let keywordDefaults ← evaluateNamed invoke keywordDefaults
    let annotations ← evaluateNamed invoke annotations
    onLine line
    newFunction code defaults keywordDefaults annotations
  | .build line code name arguments => do
    let builder ← classBuilder
    let function ← newFunction code .null .null .null
    let title ← internString name
    let positional ← evaluatePositional invoke builder false arguments
    let keywords ← evaluateKeywords invoke builder [] arguments
    onLine line
    invoke builder ⟨function :: title :: positional, keywords⟩
  | .collect line _ code source => do
    let source ← evaluate invoke source
    onLine line
    let iterator ← iterOf invoke source
    invoke (← newFunction code .null .null .null) (.of [iterator])
  | .gather _ gathering made _ => do
    let made ← evaluate invoke made
    if gathering = .list then reverseItems made
    return made
  | .lambda .. | .parameter .. | .clause .. | .yield .. | .yieldFrom .. => return Fixed.none

/-- The objects of the items of a list or a tuple. -/
def evaluateItems (invoke : Invoke) :
    List Expression → Run (List Handle)
  | [] => return []
  | .starred line value :: rest => do
    let source ← evaluate invoke value
    onLine line
    let items ← starredItems invoke source
    return items ++ (← evaluateItems invoke rest)
  | item :: rest => do
    let value ← evaluate invoke item
    return value :: (← evaluateItems invoke rest)

/-- The objects of the items of a set. -/
def evaluateSet (invoke : Invoke) :
    List Expression → Run (List Handle)
  | [] => return []
  | .starred line value :: rest => do
    let source ← evaluate invoke value
    onLine line
    let items ← iterate invoke source
    return items ++ (← evaluateSet invoke rest)
  | item :: rest => do
    let value ← evaluate invoke item
    return value :: (← evaluateSet invoke rest)

/-- The keys and values of the pairs of a dictionary. -/
def evaluatePairs (invoke : Invoke) :
    List Expression → Run (List (Handle × Handle))
  | [] => return []
  | .pair key value :: rest => do
    let key ← evaluate invoke key
    let value ← evaluate invoke value
    return (key, value) :: (← evaluatePairs invoke rest)
  | .doubleStarred value :: rest => do
    let source ← evaluate invoke value
    match ← mappingPairs? invoke source with
    | some pairs => return pairs ++ (← evaluatePairs invoke rest)
    | none => fail .typeError ("'" ++ (← typeName source) ++ "' object is not a mapping")
  | _ :: rest => evaluatePairs invoke rest

/-- The positional arguments of a call. -/
def evaluatePositional (invoke : Invoke)
    (target : Handle) (single : Bool) : List Expression → Run (List Handle)
  | [] => return []
  | .keyword .. :: rest => evaluatePositional invoke target single rest
  | .doubleStarred _ :: rest => evaluatePositional invoke target single rest
  | .starred _ value :: rest => do
    let source ← evaluate invoke value
    let items ← if single then starredArguments invoke target source else starredItems invoke source
    return items ++ (← evaluatePositional invoke target single rest)
  | item :: rest => do
    let value ← evaluate invoke item
    return value :: (← evaluatePositional invoke target single rest)

/-- The named arguments of a call. -/
def evaluateKeywords (invoke : Invoke)
    (target : Handle) (known : List (String × Handle)) :
    List Expression → Run (List (String × Handle))
  | [] => return known
  | .keyword name value :: rest => do
    let given ← evaluate invoke value
    evaluateKeywords invoke target (← addKeywords invoke target known [(name, given)]) rest
  | .doubleStarred value :: rest => do
    let source ← evaluate invoke value
    match ← mappingPairs? invoke source with
    | some pairs =>
      let named ← pairs.mapM fun (key, value) => do return (← keywordName key, value)
      evaluateKeywords invoke target (← addKeywords invoke target known named) rest
    | none =>
      failCalled invoke target (" argument after ** must be a mapping, not " ++ (← typeName source))
  | _ :: rest => evaluateKeywords invoke target known rest

/-- A dictionary of named values, if there are any. -/
def evaluateNamed (invoke : Invoke) :
    List Expression → Run Handle
  | [] => return .null
  | .keyword name value :: rest => do
    let first ← evaluate invoke value
    let others ← evaluateNamed invoke rest
    let dict ← newNamed [(name, first)]
    unless others.isNull do
      putNames dict (← namesIn others)
    return dict
  | _ :: rest => evaluateNamed invoke rest

/-- The texts of the parts of a text. -/
def evaluateParts (invoke : Invoke) :
    List Expression → Run (List CodePoints)
  | [] => return []
  | part :: rest => do
    let text ← codePoints (← evaluate invoke part)
    return text :: (← evaluateParts invoke rest)

/-- The answer of a chain of comparisons behind a first object. -/
def evaluateLinks (invoke : Invoke)
    (line : Nat) (left : Handle) : List Expression → Run Handle
  | [] => return left
  | .link comparison right :: rest => do
    let right ← evaluate invoke right
    onLine line
    let answer ← evaluateComparison invoke comparison left right
    match rest with
    | [] => return answer
    | _ =>
      if ← isTrue invoke answer then evaluateLinks invoke line right rest
      else return answer
  | _ :: rest => evaluateLinks invoke line left rest

end

end ForeignBridge.Foreign.Run
