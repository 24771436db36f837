import ForeignBridge.Foreign.Routines.Bytes
import ForeignBridge.Foreign.Routines.Classes
import ForeignBridge.Foreign.Routines.Dictionaries
import ForeignBridge.Foreign.Routines.Iterators
import ForeignBridge.Foreign.Routines.Lists

/-! # Built-in functions

The functions that every text sees without importing anything.
-/

namespace ForeignBridge.Foreign.Run

/-! Numbers and characters. -/

/-- An integer in a base, with its letter in front. -/
def basedText (base : Nat) (letter : String) (n : Int) : String :=
  (if n < 0 then "-0" else "0") ++ letter ++ String.ofList (Nat.toDigits base n.natAbs)

/-- The code of the only character of an object. -/
def characterCode (value : Handle) : Run Handle := do
  let wrong (count : Nat) : Run Handle :=
    fail .typeError ("ord() expected a character, but string of length " ++ toString count ++
      " found")
  match ← body value with
  | .text ⟨[code]⟩ => newInt code
  | .bytes [byte] => newInt byte
  | .text text => wrong text.length
  | .bytes bytes => wrong bytes.length
  | _ =>
    fail .typeError ("ord() expected string of length 1, but " ++ (← typeName value) ++ " found")

/-- An object rounded to a number of places, or to an integer. -/
def rounded (invoke : Invoke) (number places : Handle) : Run Handle := do
  let places := if places.isNull ∨ places = Fixed.none then [] else [places]
  match ← callSpecial? invoke number "__round__" places with
  | some answer => return answer
  | none => fail .typeError ("type " ++ (← typeName number) ++ " doesn't define __round__ method")

/-- Quotient and remainder of two objects. -/
def quotientAndRest (invoke : Invoke) (a b : Handle) : Run Handle := do
  let answer ← operateSides invoke .divMod a b
  if answer = Fixed.notImplemented then noOperation Operation.divMod.sign a b else return answer

/-- The sum of what an object yields, from a start. -/
def sumOf (invoke : Invoke) (source start : Handle) : Run Handle := do
  let iterator ← iterOf invoke source
  let start := if start.isNull then Fixed.zero else start
  let refuse (kind quote : String) : Run Unit :=
    fail .typeError ("sum() can't sum " ++ kind ++ " [use " ++ quote ++ "''.join(seq) instead]")
  if ← isA start .str then refuse "strings" ""
  if ← isA start .bytes then refuse "bytes" "b"
  if ← isA start .byteArray then refuse "bytearray" "b"
  (← drain invoke iterator).foldlM (operate invoke .add) start

/-- The greatest or the least of what an iterator hands out, the first of equal ones, with its key. -/
def extremeOf (invoke : Invoke) (comparison : Comparison) (key iterator : Handle) :
    Nat → Option (Handle × Handle) → Run (Option Handle)
  | 0, best => return best.map (·.1)
  | fuel + 1, best => do
    match ← next? invoke iterator with
    | none => return best.map (·.1)
    | some item =>
      let measure ← if key.isNull ∨ key = Fixed.none then pure item
        else invoke key (.of [item])
      let better ← match best with
        | none => pure true
        | some (_, other) => do isTrue invoke (← compare invoke comparison measure other)
      extremeOf invoke comparison key iterator fuel (if better then some (item, measure) else best)

/-- The greatest or the least of the arguments, or of what the only argument yields. -/
def extreme (invoke : Invoke) (name : String) (arguments : Arguments) : Run Handle := do
  let several := decide (1 < arguments.positional.length)
  if arguments.positional.isEmpty then
    fail .typeError (name ++ " expected at least 1 argument, got 0")
  let options ← arrangeNamed name ⟨["key", "default"], 0, 0, 2⟩ ⟨[], arguments.keywords⟩
  let other := options.second
  if several ∧ !other.isNull then
    fail .typeError ("Cannot specify a default for " ++ name ++
      "() with multiple positional arguments")
  let source ← if several then newTuple arguments.positional else pure arguments.first
  let comparison := if name = "max" then Comparison.greater else .less
  match ← extremeOf invoke comparison options.first (← iterOf invoke source) walkBound none with
  | some found => return found
  | none =>
    if other.isNull then fail .valueError (name ++ "() arg is an empty sequence") else return other

/-! Attributes and names. -/

/-- Whether an object has an attribute. -/
def hasAttribute (invoke : Invoke) (object : Handle) (name : String) : Run Handle := do
  return truth (← getAttribute? invoke object name).isSome

/-- The dictionary of the names of the module whose code is being executed. -/
def currentGlobals : Run Handle := do
  let globals := (← machine).frame.globals
  if globals.isNull then
    fail .systemError "<built-in function globals> returned NULL without setting an exception"
  else return globals

/-- The names that the code being executed sees as its own. -/
def currentNames : Run Handle := do
  let frame := (← machine).frame
  if frame.globals.isNull then fail .systemError "frame does not exist"
  else if !frame.names.isNull then return frame.names
  else
    let shared ← frame.shared.mapM fun (name, box) => do
      match ← body box with
      | .box content => return content.map fun value => (name, value)
      | _ => return none
    let visible := frame.locals.filter fun (name, _) => !name.startsWith "."
    newNamed (visible ++ shared.filterMap id)

/-- A list of names in order. -/
def sortedNames (invoke : Invoke) (names : Handle) : Run Handle := do
  let list ← newList (← iterate invoke names)
  sortList invoke list .null false
  return list

/-- The names of the attributes of an object in order. -/
def directory (invoke : Invoke) (object : Handle) : Run Handle := do
  if object.isNull then sortedNames invoke (← keysOf invoke (← currentNames))
  else
    match ← callSpecial? invoke object "__dir__" [] with
    | some names => sortedNames invoke names
    | none => fail .typeError "object does not provide __dir__"

/-- The dictionary of the attributes of an object, or of the names that the code being executed
sees. -/
def namesOrAttributes (invoke : Invoke) (object : Handle) : Run Handle := do
  if object.isNull then currentNames
  else
    match ← getAttribute? invoke object "__dict__" with
    | some found => return found
    | none => fail .typeError "vars() argument must have __dict__ attribute"

/-! Source texts. -/

/-- The source text in an argument. -/
def sourceText (name kinds : String) (source : Handle) : Run String := do
  let text ← match ← body source with
    | .text text =>
      let _ ← encodeText text none none
      pure text
    | .bytes bytes => decodeBytes bytes none none
    | _ => fail .typeError (name ++ "() arg 1 must be a " ++ kinds ++ " object")
  if text.codes.contains 0 then fail .valueError "source code string cannot contain null bytes"
  return text.lossy

/-- Whether an object has items under keys. -/
def isMapping (handle : Handle) : Run Bool := do
  return (← typeAttribute handle "__getitem__").isSome

/-- Makes the built-in names visible in a dictionary of names. -/
def giveBuiltins (globals : Handle) : Run Unit := do
  if (← getName? globals "__builtins__").isNone then
    let current := (← machine).frame.globals
    let names ← if current.isNull then pure Fixed.builtinNames else builtinsFor current
    putName globals "__builtins__" names

/-- The names that a text is evaluated with: those given, or those of the code being executed. -/
def givenNames (globals names : Handle) : Run (Handle × Handle) := do
  let isGiven (handle : Handle) : Bool := !handle.isNull && handle != Fixed.none
  if isGiven globals then return (globals, if isGiven names then names else globals)
  else if isGiven names then return ((← machine).frame.globals, names)
  else
    let names ← currentNames
    return ((← machine).frame.globals, names)

/-- Evaluates a text or a piece of code. -/
def evaluateRoutine (invoke : Invoke) (arguments : Arguments) : Run Handle := do
  let (source, globals, names) := (arguments.first, arguments.second, arguments.third)
  if !names.isNull ∧ names ≠ Fixed.none ∧ !(← isMapping names) then
    fail .typeError "locals must be a mapping"
  if !globals.isNull ∧ globals ≠ Fixed.none then
    match ← body globals with
    | .dict _ => pure ()
    | _ =>
      if ← isMapping globals then
        fail .typeError "globals must be a real dict; try eval(code, \x7b\x7d, mapping)"
      else fail .typeError "globals must be a dict"
  let (globals, names) ← givenNames globals names
  if globals.isNull then
    fail .typeError "eval must be given globals and locals when called without a frame"
  giveBuiltins globals
  match ← body source with
  | .code code =>
    unless code.free.isEmpty do
      fail .typeError "code object passed to eval() may not contain free variables"
    runCode invoke source globals names []
  | _ =>
    let text ← sourceText "eval" "string, bytes or code" source
    let isBlank (c : Char) : Bool := c == ' ' || c == '\t'
    evaluateText invoke globals names (String.ofList (text.toList.dropWhile isBlank))

/-- Executes a text or a piece of code. -/
def executeRoutine (invoke : Invoke) (arguments : Arguments) : Run Handle := do
  let arguments ← arrangeNamed "exec" ⟨["", "", "", "closure"], 3, 1, 1⟩ arguments
  let (source, names, closure) := (arguments.first, arguments.third, arguments.nth 3)
  let (globals, names) ← givenNames arguments.second names
  if globals.isNull then fail .systemError "globals and locals cannot be NULL"
  match ← body globals with
  | .dict _ => pure ()
  | _ => fail .typeError ("exec() globals must be a dict, not " ++ (← typeName globals))
  unless ← isMapping names do
    fail .typeError ("locals must be a mapping or None, not " ++ (← typeName names))
  giveBuiltins globals
  let isClosed := !closure.isNull && closure != Fixed.none
  match ← body source with
  | .code code =>
    let cells ← if isClosed then itemsOf closure else pure []
    if code.free.isEmpty ∧ isClosed then
      fail .typeError "cannot use a closure with this code object"
    if code.free.length ≠ cells.length then
      fail .typeError ("code object requires a closure of exactly length " ++
        toString code.free.length)
    let _ ← runCode invoke source globals names (code.free.zip cells)
    nothing
  | _ =>
    if isClosed then
      fail .typeError "closure can only be used when source is a code object"
    let text ← sourceText "exec" "string, bytes or code" source
    executeText invoke globals names "<string>" text
    nothing

/-- Makes a piece of code of a text. -/
def compileRoutine (invoke : Invoke) (arguments : Arguments) : Run Handle := do
  let arguments ← arrangeNamed "compile"
    ⟨["source", "filename", "mode", "flags", "dont_inherit", "optimize", "_feature_version"], 0, 3,
      1⟩ arguments
  let file ← match ← body (← pathArgument invoke arguments.second) with
    | .text text => pure text.lossy
    | .bytes bytes => do pure (← decodeBytes bytes none none).lossy
    | _ => pure ""
  match ← text? arguments.third with
  | none => badArgument "compile" "argument 'mode'" "str" arguments.third
  | some mode =>
    let source := arguments.first
    match mode.lossy, ← body source with
    | "eval", .code _ | "exec", .code _ | "single", .code _ => return source
    | "eval", _ =>
      let text ← sourceText "compile" "string, bytes or AST" source
      let isBlank (c : Char) : Bool := c == ' ' || c == '\t'
      linkExpression invoke file (String.ofList (text.toList.dropWhile isBlank))
    | "exec", _ | "single", _ =>
      linkProgram invoke file (← sourceText "compile" "string, bytes or AST" source)
    | _, _ => fail .valueError "compile() mode must be 'exec', 'eval' or 'single'"

/-! Classes. -/

/-- The bases that stand for some objects in the head of a class, in order. -/
def basesFor (invoke : Invoke) (bases : Handle) : List Handle → Run (List Handle)
  | [] => return []
  | base :: rest => do
    let made ← if ← isClass base then pure [base]
      else
        match ← getAttribute? invoke base "__mro_entries__" with
        | none => pure [base]
        | some rule =>
          match ← body (← invoke rule (.of [bases])) with
          | .tuple items => pure items
          | _ => fail .typeError "__mro_entries__ must return a tuple"
    return made ++ (← basesFor invoke bases rest)

/-- Checks that the class that the methods of a body know is the one that was made of it. -/
def checkClassBox (invoke : Invoke) (box name made : Handle) : Run Unit := do
  unless ← isClass made do return
  match ← body box with
  | .box content =>
    if content = some made then return
    let about (front : CodePoints) : Run CodePoints := do
      return front.append ((CodePoints.ofString " defining ").append
        ((← reprText invoke name).append
          ((CodePoints.ofString " as ").append (← reprText invoke made))))
    match content with
    | none =>
      failText .runtimeError ((← about (.ofString "__class__ not set")).append
        (.ofString ". Was __classcell__ propagated to type.__new__?"))
    | some other =>
      failText .typeError (← about (enclosed "__class__ set to " (← reprText invoke other) ""))
  | _ => return

/-- Makes a class of a function that is its body. -/
def buildClass (invoke : Invoke) (arguments : Arguments) : Run Handle := do
  match arguments.positional with
  | function :: name :: given =>
    let info ← match ← body function with
      | .function info => pure info
      | _ => fail .typeError "__build_class__: func must be a function"
    if (← text? name).isNone then fail .typeError "__build_class__: name is not a string"
    let written ← newTuple given
    let items ← basesFor invoke written given
    let bases ← if items = given then pure written else newTuple items
    let keywords := arguments.keywords.filter (·.1 != "metaclass")
    let metaclass ← match arguments.keywords.lookup "metaclass", items with
      | some metaclass, _ => pure metaclass
      | none, [] => pure Core.type.handle
      | none, base :: _ => typeOf base
    let hasRule ← isClass metaclass
    let metaclass ← if hasRule then metaclassOf metaclass items else pure metaclass
    let names ← match ← getAttribute? invoke metaclass "__prepare__" with
      | none => newEmptyDict
      | some rule => invoke rule ⟨[name, bases], keywords⟩
    unless ← isMapping names do
      let title ← if hasRule then className metaclass else pure "<metaclass>"
      fail .typeError (title ++ ".__prepare__() must return a mapping, not " ++ (← typeName names))
    let box ← runClassBody invoke info names
    if items ≠ given then setItem invoke names (← internString "__orig_bases__") written
    let made ← invoke metaclass ⟨[name, bases, names], keywords⟩
    match box with
    | some box => checkClassBox invoke box name made
    | none => pure ()
    return made
  | _ => fail .typeError "__build_class__: not enough arguments"

/-! Output and files. -/

/-- Writes the texts of some objects out. Nothing can be seen of them. -/
def printAll (invoke : Invoke) (arguments : Arguments) : Run Handle := do
  let options ← arrangeNamed "print" ⟨["sep", "end", "file", "flush"], 0, 0, 4⟩
    ⟨[], arguments.keywords⟩
  for (name, value) in [("sep", options.first), ("end", options.second)] do
    if !value.isNull ∧ value ≠ Fixed.none ∧ !(← isA value .str) then
      fail .typeError (name ++ " must be None or a string, not " ++ (← typeName value))
  let file := options.third
  let write ← if file.isNull ∨ file = Fixed.none then pure Handle.null
    else getAttribute invoke file "write"
  let put (text : Handle) : Run Unit := do
    unless write.isNull do
      let _ ← invoke write (.of [text])
  let between ← if options.first.isNull ∨ options.first = Fixed.none then newString " "
    else pure options.first
  let ending ← if options.second.isNull ∨ options.second = Fixed.none then newString "\n"
    else pure options.second
  for (value, place) in arguments.positional.zipIdx do
    if place ≠ 0 then put between
    put (← strOf invoke value)
  put ending
  nothing

/-- Opens a file. There are none. -/
def openFile (invoke : Invoke) (arguments : Arguments) : Run Handle := do
  let arguments ← arrangeNamed "open"
    ⟨["file", "mode", "buffering", "encoding", "errors", "newline", "closefd", "opener"], 0, 1, 0⟩
    arguments
  let file := arguments.first
  let refuse (core : Core) (number : Int) (words : String) : Run Handle := do
    let number ← newInt number
    let words ← newString words
    raise (← newExceptionWith core [number, words]
      [("errno", number), ("strerror", words), ("filename", file)])
  if ← isIndex file then refuse .osError 9 "Bad file descriptor"
  else
    let _ ← pathArgument invoke file
    refuse .fileNotFoundError 2 "No such file or directory"

/-! Iteration. -/

/-- The next object that an iterator hands out, or another one at its end. -/
def nextOr (invoke : Invoke) (iterator other : Handle) : Run Handle := do
  match ← typeAttribute iterator "__next__" with
  | none => fail .typeError ("'" ++ (← typeName iterator) ++ "' object is not an iterator")
  | some entry =>
    let next := callEntry invoke entry iterator []
    if other.isNull then next else return (← unlessRaised .stopIteration next).getD other

/-- An iterator over an object, or over what a function answers until it answers a given object. -/
def iteratorOf (invoke : Invoke) (source sentinel : Handle) : Run Handle := do
  if sentinel.isNull then iterOf invoke source
  else if (← typeAttribute source "__call__").isSome then
    newIterator .callableIterator (.calls source sentinel)
  else fail .typeError "iter(v, w): v must be callable"

/-- What an object yields, in order. -/
def sortedOf (invoke : Invoke) (arguments : Arguments) : Run Handle := do
  checkBetween "sorted" 1 1 arguments
  let list ← newList []
  extendList invoke list arguments.first
  let _ ← invoke (← getAttribute invoke list "sort") ⟨[], arguments.keywords⟩
  return list

/-- The functions that every text sees, but for the one that imports modules. -/
def builtinsRoutine (invoke : Invoke) (name : String) (arguments : Arguments) : Run Handle := do
  let first := arguments.first
  let second := arguments.second
  match name with
  | "abs" =>
    match ← callSpecial? invoke first "__abs__" [] with
    | some answer => return answer
    | none => fail .typeError ("bad operand type for abs(): '" ++ (← typeName first) ++ "'")
  | "all" =>
    return truth (!(← anyYielded invoke first fun item => do return !(← isTrue invoke item)))
  | "any" => return truth (← anyYielded invoke first (isTrue invoke))
  | "ascii" => asciiOf invoke first
  | "bin" => newString (basedText 2 "b" (← asIndex invoke first))
  | "oct" => newString (basedText 8 "o" (← asIndex invoke first))
  | "hex" => newString (basedText 16 "x" (← asIndex invoke first))
  | "callable" => return truth (← typeAttribute first "__call__").isSome
  | "chr" =>
    let code ← asSmall invoke first
    if code < 0 ∨ 0x10FFFF < code then fail .valueError "chr() arg not in range(0x110000)"
    else newText ⟨[code.toNat]⟩
  | "ord" => characterCode first
  | "hash" => newInt (← hashOf invoke first)
  | "id" => newInt (first.address * 16 : Nat)
  | "len" => newInt (← lengthOf invoke first)
  | "repr" => reprOf invoke first
  | "delattr" =>
    deleteAttribute invoke first (← attributeName second)
    nothing
  | "setattr" =>
    setAttribute invoke first (← attributeName second) arguments.third
    nothing
  | "getattr" =>
    let name ← attributeName second
    if arguments.third.isNull then getAttribute invoke first name
    else return (← getAttribute? invoke first name).getD arguments.third
  | "hasattr" => hasAttribute invoke first (← attributeName second)
  | "dir" => directory invoke first
  | "vars" => namesOrAttributes invoke first
  | "globals" => currentGlobals
  | "locals" => currentNames
  | "divmod" => quotientAndRest invoke first second
  | "pow" =>
    if arguments.third.isNull ∨ arguments.third = Fixed.none then operate invoke .pow first second
    else operatePower invoke first second arguments.third
  | "round" => rounded invoke first second
  | "sum" => sumOf invoke first second
  | "max" | "min" => extreme invoke name arguments
  | "format" =>
    let format ← if second.isNull then pure ⟨[]⟩
      else
        match ← text? second with
        | some format => pure format
        | none => badArgument "format" "argument 2" "str" second
    formatOf invoke first format
  | "isinstance" => return truth (← isInstance invoke first second)
  | "issubclass" => return truth (← isSubclassOf invoke first second)
  | "iter" => iteratorOf invoke first second
  | "next" => nextOr invoke first second
  | "sorted" => sortedOf invoke arguments
  | "print" => printAll invoke arguments
  | "open" => openFile invoke arguments
  | "input" => fail .eofError "EOF when reading a line"
  | "eval" => evaluateRoutine invoke arguments
  | "exec" => executeRoutine invoke arguments
  | "compile" => compileRoutine invoke arguments
  | "__build_class__" => buildClass invoke arguments
  | _ => nothing

end ForeignBridge.Foreign.Run
