import ForeignBridge.Foreign.Execution.Raise
import ForeignBridge.Foreign.Routines.Bytes
import ForeignBridge.Foreign.Routines.Kinship
import ForeignBridge.Foreign.Routines.Tuples

/-! # Routines of exceptions

An exception keeps the arguments that it was made with. Its text is that of its only argument, or of
all of them; some classes compose it from parts of their own.
-/

namespace ForeignBridge.Foreign

/-- The class below that of operating system errors for an error number. -/
def Core.ofErrorNumber? : Int → Option Core
  | 1 | 13 => some .permissionError
  | 2 => some .fileNotFoundError
  | 3 => some .processLookupError
  | 4 => some .interruptedError
  | 10 => some .childProcessError
  | 11 | 114 | 115 => some .blockingIOError
  | 17 => some .fileExistsError
  | 20 => some .notADirectoryError
  | 21 => some .isADirectoryError
  | 32 | 108 => some .brokenPipeError
  | 103 => some .connectionAbortedError
  | 104 => some .connectionResetError
  | 110 => some .timeoutError
  | 111 => some .connectionRefusedError
  | _ => none

/-- What tells one line of a traceback from another. -/
def TraceFrame.key (frame : TraceFrame) : String × Nat × String :=
  (frame.file, frame.line, frame.name)

namespace Run

/-- The tuple of the arguments that an exception was made with. -/
def argumentsOf (exception : Handle) : Run Handle := do
  match ← body exception with
  | .exception info => return info.arguments
  | _ => return Fixed.emptyTuple

/-- Gives an exception other arguments. -/
def setArguments (exception arguments : Handle) : Run Unit := do
  match ← body exception with
  | .exception info => setBody exception (.exception { info with arguments })
  | _ => return

/-- A part of an exception; that it is missing counts as nothing. -/
def partOr (exception : Handle) (name : String) : Run Handle := do
  return (← part? exception name).getD Fixed.none

/-- The text of an exception by the rule for all exceptions. -/
def exceptionText (invoke : Invoke) (self : Handle) : Run Handle := do
  let arguments ← argumentsOf self
  match ← itemsOf arguments with
  | [] => return Fixed.emptyText
  | [only] => strOf invoke only
  | _ => strOf invoke arguments

/-- Texts put together. -/
def newJoined (parts : List CodePoints) : Run Handle := newText (.join ⟨[]⟩ parts)

/-! Errors of the operating system. -/

/-- The number, the reason, the file and the other file of an error, out of its arguments. -/
structure SystemParts where
  number : Option Handle
  reason : Option Handle
  file : Option Handle
  other : Option Handle

/-- The parts of an error of the operating system with some arguments. -/
def SystemParts.ofArguments (items : List Handle) : SystemParts :=
  if 2 ≤ items.length ∧ items.length ≤ 5 then
    let given (place : Nat) : Option Handle := items[place]?.filter (· != Fixed.none)
    ⟨items[0]?, items[1]?, given 2, given 4⟩
  else ⟨none, none, none, none⟩

/-- Whether an object is a number of some kind. -/
def isNumber (handle : Handle) : Run Bool := do
  return (← typeAttribute handle "__index__").isSome || (← typeAttribute handle "__int__").isSome ||
    (← typeAttribute handle "__float__").isSome

/-- What an error of the operating system keeps. -/
def systemInfo (cls : Handle) (items : List Handle) : Run ExceptionInfo := do
  let parts := SystemParts.ofArguments items
  let named (name : String) (part : Option Handle) : List (String × Handle) :=
    (part.map fun found => (name, found)).toList
  let common := named "errno" parts.number ++ named "strerror" parts.reason
  match parts.file with
  | none => return ⟨← newTuple items, common⟩
  | some file =>
    if cls = Core.blockingIOError.handle ∧ (← isNumber file) then
      return ⟨← newTuple items, common ++ [("characters_written", file)]⟩
    else
      return ⟨← newTuple (items.take 2),
        common ++ named "filename" parts.file ++ named "filename2" parts.other⟩

/-- Whether a class is told the arguments of errors of the operating system only afterwards. -/
def startsLater (cls : Handle) : Run Bool := do
  return (← classEntry? cls "__init__") != Core.osError.attribute? "__init__" &&
    (← classEntry? cls "__new__") == Core.osError.attribute? "__new__"

/-- Makes an error of the operating system. One of the class of all of them is of the class for its
number. -/
def makeSystemError (cls : Handle) (arguments : Arguments) : Run Handle := do
  if ← startsLater cls then newInstance cls (.exception ⟨Fixed.emptyTuple, []⟩)
  else
    refuseKeywords (← className cls) arguments
    let items := arguments.positional
    let number ← match (SystemParts.ofArguments items).number with
      | some number => int? number
      | none => pure none
    let chosen := if cls = Core.osError.handle then
        ((number.bind Core.ofErrorNumber?).map Core.handle).getD cls
      else cls
    newInstance chosen (.exception (← systemInfo chosen items))

/-- The text of an error of the operating system: its number, its reason, and the files if any are
known. -/
def systemErrorText (invoke : Invoke) (self : Handle) : Run Handle := do
  let front : Run CodePoints := do
    let number ← strText invoke (← partOr self "errno")
    let reason ← strText invoke (← partOr self "strerror")
    return enclosed "[Errno " number "] " |>.append reason
  match ← part? self "filename", ← part? self "filename2" with
  | some file, some other =>
    newJoined [← front, .ofString ": ", ← reprText invoke file, .ofString " -> ",
      ← reprText invoke other]
  | some file, none => newJoined [← front, .ofString ": ", ← reprText invoke file]
  | none, _ =>
    if (← part? self "errno").isSome && (← part? self "strerror").isSome then newText (← front)
    else exceptionText invoke self

/-! Errors in source texts. -/

/-- The name of a file without its directories. -/
def fileName (path : CodePoints) : CodePoints :=
  ⟨(path.codes.reverse.takeWhile (· != 0x2F)).reverse⟩

/-- The text of an error in a source text: its message and where it is. -/
def syntaxErrorText (invoke : Invoke) (self : Handle) : Run Handle := do
  let message ← partOr self "msg"
  let file ← match ← text? (← partOr self "filename") with
    | some path => pure (some (fileName path))
    | none => pure none
  let number ← partOr self "lineno"
  let line ← match ← core? number, ← int? number with
    | some .int, some n => pure (some (toString (if fitsWord n then n else -1)))
    | _, _ => pure none
  match file, line with
  | none, none => strOf invoke message
  | some file, some line =>
    newJoined [← strText invoke message, .ofString " (", file, .ofString (", line " ++ line ++ ")")]
  | some file, none => newJoined [← strText invoke message, .ofString " (", file, .ofString ")"]
  | none, some line =>
    newJoined [← strText invoke message, .ofString (" (line " ++ line ++ ")")]

/-- The names of the parts of the place of an error in a source text. -/
def placeNames : List String :=
  ["filename", "lineno", "offset", "text", "end_lineno", "end_offset"]

/-- Sets the parts of an error in a source text. -/
def setSyntaxParts (invoke : Invoke) (self : Handle) (items : List Handle) : Run Unit := do
  match items with
  | [] => return
  | message :: rest =>
    setPart self "msg" message
    match rest with
    | [place] =>
      let parts ← gather invoke place
      let wrong (words : String) (bound : Nat) : Run Unit :=
        fail .typeError ("function takes " ++ words ++ toString bound ++ " arguments (" ++
          toString parts.length ++ " given)")
      if parts.length < 4 then wrong "at least " 4
      if 6 < parts.length then wrong "at most " 6
      for (name, value) in placeNames.zip parts do setPart self name value
      if parts.length = 5 then
        fail .typeError "end_offset must be provided when end_lineno is provided"
    | _ => return

/-! Faults of encodings. -/

/-- A code point as the fault of an encoding shows it. -/
def shownCode (code : Nat) : CodePoints :=
  ⟨0x27 :: CodePoints.numbered code ++ [0x27]⟩

/-- A text that an argument must be. -/
def textArgumentAt (place : Nat) (value : Handle) : Run Unit := do
  if (← text? value).isNone then
    let type ← if value = Fixed.none then pure "None" else typeName value
    fail .typeError ("argument " ++ toString place ++ " must be str, not " ++ type)

/-- Sets the parts of a fault of an encoding. -/
def setEncodingParts (invoke : Invoke) (core : Core) (self : Handle) (items : List Handle) :
    Run Unit := do
  let names := if core = .unicodeTranslateError then ["object", "start", "end", "reason"]
    else ["encoding", "object", "start", "end", "reason"]
  if items.length ≠ names.length then
    fail .typeError ("function takes exactly " ++ toString names.length ++ " argument" ++
      (if names.length = 1 then "" else "s") ++ " (" ++ toString items.length ++ " given)")
  for ((name, value), place) in (names.zip items).zipIdx do
    match name with
    | "start" | "end" => setPart self name (← newInt (← asSize invoke value))
    | "object" =>
      if core = .unicodeDecodeError then
        match ← bytes? value with
        | some bytes =>
          setPart self name (← if ← isA value .bytes then pure value else newBytes bytes)
        | none =>
          fail .typeError ("a bytes-like object is required, not '" ++ (← typeName value) ++ "'")
      else
        textArgumentAt (place + 1) value
        setPart self name value
    | _ =>
      textArgumentAt (place + 1) value
      setPart self name value

/-- The text of a fault of an encoding. -/
def encodingText (invoke : Invoke) (core : Core) (self : Handle) : Run Handle := do
  match ← part? self "object" with
  | none => return Fixed.emptyText
  | some object =>
    let start := (← int? (← partOr self "start")).getD 0
    let stop := (← int? (← partOr self "end")).getD 0
    let reason ← strText invoke (← partOr self "reason")
    let codec ← if core = .unicodeTranslateError then pure (CodePoints.mk [])
      else do pure (enclosed "'" (← strText invoke (← partOr self "encoding")) "' codec ")
    let (codes, verb, one, many) ← match ← body object, core with
      | .bytes bytes, _ => pure (bytes, "can't decode ", "byte ", "bytes")
      | .text text, .unicodeTranslateError =>
        pure (text.codes, "can't translate ", "character ", "characters")
      | .text text, _ => pure (text.codes, "can't encode ", "character ", "characters")
      | _, _ => pure ([], "can't encode ", "character ", "characters")
    let shown (code : Nat) : CodePoints :=
      if one = "byte " then ⟨0x30 :: 0x78 :: CodePoints.hexPadded 2 code⟩ else shownCode code
    match codes[start.toNat]?, decide (0 ≤ start ∧ stop = start + 1) with
    | some code, true =>
      newJoined [codec, .ofString (verb ++ one), shown code,
        .ofString (" in position " ++ toString start ++ ": "), reason]
    | _, _ =>
      newJoined [codec, .ofString (verb ++ many ++ " in position " ++ toString start ++ "-" ++
        toString (stop - 1) ++ ": "), reason]

/-! Groups of exceptions. -/

/-- The exceptions in a group. -/
def groupItems (group : Handle) : Run (List Handle) := do itemsOf (← partOr group "exceptions")

/-- Makes a group of exceptions. -/
def makeGroup (invoke : Invoke) (cls : Handle) (arguments : Arguments) : Run Handle := do
  let title := "BaseExceptionGroup.__new__"
  if arguments.positional.length ≠ 2 then
    fail .typeError (title ++ "() takes exactly 2 arguments (" ++
      toString arguments.positional.length ++ " given)")
  let message := arguments.first
  if (← text? message).isNone then badArgument title "argument 1" "str" message
  unless ← isSequence arguments.second do
    fail .typeError "second argument (exceptions) must be a sequence"
  let items ← gather invoke arguments.second
  if items.isEmpty then
    fail .valueError "second argument (exceptions) must be a non-empty sequence"
  for (item, place) in items.zipIdx do
    unless ← isA item .baseException do
      fail .valueError ("Item " ++ toString place ++
        " of second argument (exceptions) is not an exception")
  let plain ← items.allM fun item => isA item .exception
  if !plain ∧ cls = Core.exceptionGroup.handle then
    fail .typeError "Cannot nest BaseExceptions in an ExceptionGroup"
  if !plain ∧ cls ≠ Core.baseExceptionGroup.handle ∧ (← isSubclass cls Core.exception.handle) then
    fail .typeError ("Cannot nest BaseExceptions in '" ++ (← className cls) ++ "'")
  let chosen := if plain ∧ cls = Core.baseExceptionGroup.handle then Core.exceptionGroup.handle
    else cls
  newInstance chosen (.exception ⟨← newTuple arguments.positional,
    [("message", message), ("exceptions", ← newTuple items)]⟩)

/-- The test for exceptions that an argument stands for. -/
def groupTest (invoke : Invoke) (test : Handle) : Run (Handle → Run Bool) := do
  let isKind (cls : Handle) : Run Bool := do
    if ← isClass cls then isSubclass cls Core.baseException.handle else return false
  if ← isKind test then return fun exception => isInstance invoke exception test
  match ← body test with
  | .tuple items =>
    if ← items.allM isKind then return fun exception => isInstance invoke exception test
  | .function _ => return fun exception => do isTrue invoke (← invoke test (.of [exception]))
  | _ => pure ()
  if (← typeAttribute test "__call__").isSome ∧ !(← isClass test) then
    return fun exception => do isTrue invoke (← invoke test (.of [exception]))
  else fail .typeError "expected a function, exception type or tuple of exception types"

/-- A group like another one of some of its exceptions; there is none of no exceptions. -/
def subgroup (invoke : Invoke) (group : Handle) (items : List Handle) : Run Handle := do
  if items.isEmpty then return Fixed.none
  let made ← invoke (← getAttribute invoke group "derive") (.of [← newList items])
  for name in ["__traceback__", "__context__", "__cause__"] do
    match ← part? group name with
    | some found => setPart made name found
    | none => pure ()
  match ← own? group "__notes__" with
  | some notes => store made "__notes__" (← newList (← itemsOf notes))
  | none => pure ()
  return made

/-- The parts of an exception that pass a test and that do not, down to some depth. -/
def splitGroup (invoke : Invoke) (test : Handle → Run Bool) :
    Nat → Handle → Run (Handle × Handle)
  | 0, exception => return (Fixed.none, exception)
  | fuel + 1, exception => do
    if ← test exception then return (exception, Fixed.none)
    if !(← isA exception .baseExceptionGroup) then return (Fixed.none, exception)
    let parts ← (← groupItems exception).mapM (splitGroup invoke test fuel)
    let present (items : List Handle) : List Handle := items.filter (· != Fixed.none)
    let matching ← subgroup invoke exception (present (parts.map (·.1)))
    return (matching, ← subgroup invoke exception (present (parts.map (·.2))))

/-- The text of a group of exceptions. -/
def groupText (invoke : Invoke) (self : Handle) : Run Handle := do
  let count := (← groupItems self).length
  newJoined [← strText invoke (← partOr self "message"),
    .ofString (" (" ++ toString count ++ " sub-exception" ++ (if count = 1 then ")" else "s)"))]

/-! All exceptions. -/

/-- The named arguments that exceptions of a class take as parts. -/
def namedParts : Core → List String
  | .importError => ["name", "path"]
  | .nameError => ["name"]
  | .attributeError => ["name", "obj"]
  | _ => []

/-- Starts an exception with its arguments. -/
def startException (invoke : Invoke) (core : Core) (self : Handle) (arguments : Arguments) :
    Run Unit := do
  let items := arguments.positional
  let names := namedParts core
  if names.isEmpty then refuseKeywords (← typeName self) arguments
  unless core = .osError do setArguments self (← newTuple items)
  unless names.isEmpty do
    let given ← arrangeNamed core.title ⟨names, 0, 0, names.length⟩ ⟨[], arguments.keywords⟩
    for (name, value) in names.zip given.positional do
      if value.isNull then dropPart self name else setPart self name value
  match core, items with
  | .importError, [message] => setPart self "msg" message
  | .importError, _ => dropPart self "msg"
  | .syntaxError, _ => setSyntaxParts invoke self items
  | .stopIteration, _ => setPart self "value" (items.headD Fixed.none)
  | .systemExit, [code] => setPart self "code" code
  | .systemExit, _ :: _ => setPart self "code" (← argumentsOf self)
  | .unicodeEncodeError, _ | .unicodeDecodeError, _ | .unicodeTranslateError, _ =>
    setEncodingParts invoke core self items
  | .osError, _ =>
    if ← startsLater (← typeOf self) then
      setBody self (.exception (← systemInfo (← typeOf self) items))
  | _, _ => pure ()

/-- Sets the calls that an exception has passed through. -/
def setTraceback (self value : Handle) : Run Unit := do
  if value = Fixed.none then dropPart self "__traceback__"
  else if ← isA value .traceback then setPart self "__traceback__" value
  else fail .typeError "__traceback__ must be a traceback or None"

/-- Adds a note to an exception. -/
def addNote (self note : Handle) : Run Unit := do
  if (← text? note).isNone then badArgument "add_note" "argument" "str" note
  match ← own? self "__notes__" with
  | none => store self "__notes__" (← newList [note])
  | some notes =>
    match ← body notes with
    | .list items => setBody notes (.list (items ++ [note]))
    | _ => fail .typeError "Cannot add note: __notes__ is not a list"

/-- The text of an exception for readers. -/
def exceptionStr (invoke : Invoke) (core : Core) (self : Handle) : Run Handle := do
  match core with
  | .keyError =>
    match ← itemsOf (← argumentsOf self) with
    | [only] => reprOf invoke only
    | _ => exceptionText invoke self
  | .osError => systemErrorText invoke self
  | .importError =>
    let message ← partOr self "msg"
    if (← core? message) = some .str then return message else exceptionText invoke self
  | .syntaxError => syntaxErrorText invoke self
  | .unicodeEncodeError | .unicodeDecodeError | .unicodeTranslateError =>
    encodingText invoke core self
  | .baseExceptionGroup => groupText invoke self
  | _ => exceptionText invoke self

/-- The text of an exception for programmers. -/
def exceptionRepr (invoke : Invoke) (self : Handle) : Run Handle := do
  let arguments ← argumentsOf self
  let title := CodePoints.ofString (← typeName self)
  match ← itemsOf arguments with
  | [only] => newText (title.append (enclosed "(" (← reprText invoke only) ")"))
  | _ => newText (title.append (← reprText invoke arguments))

/-- The routines of exceptions. -/
def exceptionRoutine (invoke : Invoke) (core : Core) (name : String) (self : Handle)
    (arguments : Arguments) : Run Handle := do
  let first := arguments.first
  match name with
  | "__new__" =>
    match core with
    | .osError => makeSystemError self arguments
    | .baseExceptionGroup => makeGroup invoke self arguments
    | _ => newInstance self (.exception ⟨← newTuple arguments.positional, []⟩)
  | "__init__" =>
    startException invoke core self arguments
    nothing
  | "__str__" => exceptionStr invoke core self
  | "__repr__" => exceptionRepr invoke self
  | "args" => argumentsOf self
  | "__dict__" => dictionaryOf self
  | "__suppress_context__" => return (← part? self name).getD Fixed.false
  | "with_traceback" =>
    setTraceback self first
    return self
  | "add_note" =>
    addNote self first
    nothing
  | "__setstate__" =>
    match ← body first with
    | .dict _ =>
      for (name, value) in ← namesIn first do setAttribute invoke self name value
    | _ => if first ≠ Fixed.none then fail .typeError "state is not a dictionary"
    nothing
  | "__reduce__" => newTuple [← typeOf self, ← argumentsOf self]
  | "characters_written" =>
    match ← part? self name with
    | some found => return found
    | none => fail .attributeError name
  | "derive" => invoke Core.baseExceptionGroup.handle (.of [← partOr self "message", first])
  | "subgroup" =>
    return (← splitGroup invoke (← groupTest invoke first) 1000 self).1
  | "split" =>
    let (matching, rest) ← splitGroup invoke (← groupTest invoke first) 1000 self
    newTuple [matching, rest]
  | "__class_getitem__" => newAlias self first
  | name => partOr self name

/-- Sets an attribute of an exception that it keeps as a part; the answer says whether there is a way
to. -/
def setExceptionPart (invoke : Invoke) (name : String) (self value : Handle) : Run Bool := do
  let required : Run Unit := do
    if value.isNull then fail .typeError (name ++ " may not be deleted")
  let related (what : String) : Run Unit := do
    required
    unless value = Fixed.none do
      unless ← isA value .baseException do
        fail .typeError ("exception " ++ what ++ " must be None or derive from BaseException")
  match name with
  | "args" =>
    required
    setArguments self (← newTuple (← gather invoke value))
  | "__traceback__" =>
    required
    setTraceback self value
  | "__context__" =>
    related "context"
    if value = Fixed.none then dropPart self name else setPart self name value
  | "__cause__" =>
    related "cause"
    setCause self value
  | "__dict__" =>
    if value.isNull then fail .typeError "cannot delete __dict__"
    match ← body value with
    | .dict _ =>
      update self fun content => { content with attributes := [], dictionary := some value }
    | _ =>
      fail .typeError ("__dict__ must be set to a dictionary, not a '" ++ (← typeName value) ++ "'")
  | "__suppress_context__" =>
    if value.isNull then fail .typeError "can't delete numeric/char attribute"
    if value = Fixed.true ∨ value = Fixed.false then setPart self name value
    else fail .typeError "attribute value type must be bool"
  | "start" | "end" =>
    if value.isNull then fail .typeError "can't delete numeric/char attribute"
    setPart self name (← newInt (← asSize invoke value))
  | "message" | "exceptions" => fail .attributeError "readonly attribute"
  | name => if value.isNull then dropPart self name else setPart self name value
  return true

/-! Tracebacks. -/

/-- A line of a traceback. -/
def traceLine (frame : TraceFrame) : String :=
  "  File \"" ++ frame.file ++ "\", line " ++ toString frame.line ++ ", in " ++ frame.name ++ "\n"

/-- How often a line of a traceback is shown when it repeats. -/
def shownRepeats : Nat := 3

/-- What is said of the repeats of a line that are not shown. -/
def hiddenRepeats (count : Nat) : List String :=
  let hidden := count - shownRepeats
  if hidden = 0 then []
  else
    ["  [Previous line repeated " ++ toString hidden ++ " more time" ++
      (if hidden = 1 then "" else "s") ++ "]\n"]

/-- The lines of a traceback behind a call that has come up some number of times in a row. -/
def traceLinesAfter (last : String × Nat × String) (count : Nat) : List TraceFrame → List String
  | [] => hiddenRepeats count
  | frame :: rest =>
    if frame.key = last then
      (if count < shownRepeats then [traceLine frame] else []) ++
        traceLinesAfter last (count + 1) rest
    else hiddenRepeats count ++ traceLine frame :: traceLinesAfter frame.key 1 rest

/-- The lines of a traceback. A call that repeats more often than shown is counted. -/
def traceLines : List TraceFrame → List String
  | [] => []
  | frame :: rest => traceLine frame :: traceLinesAfter frame.key 1 rest

/-- The calls that a traceback object tells of. -/
def traceFrames (handle : Handle) : Run (List TraceFrame) := do
  match ← body handle with
  | .traceback frames => return frames
  | _ => return []

/-- The routine of the module of tracebacks: the lines of a traceback, of so many calls from the
outside or, if the limit is negative, from the inside. -/
def tracebackLines (invoke : Invoke) (traceback limit : Handle) : Run Handle := do
  let frames ← traceFrames traceback
  let frames ← if limit.isNull ∨ limit = Fixed.none then pure frames
    else do
      let limit ← asIndex invoke limit
      pure (if 0 ≤ limit then frames.take limit.toNat
        else frames.drop (frames.length - limit.natAbs))
  newList (← (traceLines frames).mapM newString)

/-- The routines of tracebacks. -/
def tracebackRoutine (name : String) (self : Handle) : Run Handle := do
  match name, ← traceFrames self with
  | "tb_next", _ :: second :: rest => newOf .traceback (.traceback (second :: rest))
  | "tb_lineno", frame :: _ => newInt frame.line
  | "tb_lasti", _ => newInt 0
  | "tb_frame", frame :: _ => newOf .frame (.frame frame)
  | "__dir__", _ =>
    newList (← ["tb_frame", "tb_next", "tb_lasti", "tb_lineno"].mapM newString)
  | _, _ => nothing

end Run

end ForeignBridge.Foreign
