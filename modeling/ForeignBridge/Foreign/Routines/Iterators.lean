import ForeignBridge.Foreign.Execution.Functions
import ForeignBridge.Foreign.Routines.Sets

/-! # Routines of iterators and generators

An iterator looks at what it walks over only when it is asked for an object. A generator runs up to
the next value that it hands out.
-/

namespace ForeignBridge.Foreign.Run

/-- How far an iterator of the interpreter's own has come. -/
def iterationOf (iterator : Handle) : Run Iteration := do
  match ← body iterator with
  | .iterator state => return state
  | _ => return .done

/-- How many objects an iterator seems to have left. -/
def lengthHint (invoke : Invoke) (iterator : Handle) : Run Nat := do
  match ← iterationOf iterator with
  | .items sequence index => return (← lengthOf invoke sequence) - index
  | .itemsBack sequence left | .indexedBack sequence left =>
    return if (← lengthOf invoke sequence) < left then 0 else left
  | .indexed object index => return (← lengthOf invoke object) - index
  | .numbers _ _ left => return left
  | .entries _ _ dict size _ left =>
    return if (← dictionary dict).entries.length = size then left else 0
  | .members set size slot =>
    let members ← membersOf set
    let left := (members.slots.toList.drop slot).countP fun slot => match slot with
      | .member .. => true
      | _ => false
    return if members.size = size then left else 0
  | _ => return 0

/-- The constructor of iterators that count. -/
def makeEnumeration (invoke : Invoke) (cls : Handle) (arguments : Arguments) : Run Handle := do
  if arguments.count = 0 then
    fail .typeError "enumerate() missing required argument 'iterable'"
  if 2 < arguments.count then
    fail .typeError ("enumerate() takes at most 2 arguments (" ++ toString arguments.count ++
      " given)")
  let names := ["iterable", "start"].drop arguments.positional.length
  for (key, _) in arguments.keywords do
    unless names.contains key do
      fail .typeError ("'" ++ key ++ "' is an invalid keyword argument for enumerate()")
  let given (place : Nat) (name : String) : Option Handle :=
    (arguments.positional[place]?).or (arguments.keywords.lookup name)
  match given 0 "iterable" with
  | none => fail .typeError "enumerate() missing required argument 'iterable'"
  | some source =>
    let start ← match given 1 "start" with
      | some start => asIndex invoke start
      | none => pure 0
    newInstance cls (.iterator (.enumerate (← iterOf invoke source) start))

/-- The constructor of iterators that go backwards. -/
def makeReversed (invoke : Invoke) (cls : Handle) (arguments : Arguments) : Run Handle := do
  refuseKeywordsFor .reversed cls arguments
  checkBetween "reversed" 1 1 arguments
  let source := arguments.first
  let wrong : Run Handle := do
    fail .typeError ("'" ++ (← typeName source) ++ "' object is not reversible")
  match ← typeAttribute source "__reversed__" with
  | some rule => if rule = Fixed.none then wrong else callEntry invoke rule source []
  | none =>
    if ← isSequence source then
      newInstance cls (.iterator (.indexedBack source (← lengthOf invoke source)))
    else wrong

/-- The constructor of iterators over several objects at once. -/
def makeZip (invoke : Invoke) (cls : Handle) (arguments : Arguments) : Run Handle := do
  let options ← arrangeNamed "zip" ⟨["strict"], 0, 0, 1⟩ ⟨[], arguments.keywords⟩
  let strict ← isSet invoke options.first
  newInstance cls (.iterator (.zip (← arguments.positional.mapM (iterOf invoke)) strict))

/-- The constructor of iterators that call a function. -/
def makeMap (invoke : Invoke) (cls : Handle) (arguments : Arguments) : Run Handle := do
  refuseKeywordsFor .map cls arguments
  match arguments.positional with
  | function :: source :: more =>
    newInstance cls (.iterator (.map function (← (source :: more).mapM (iterOf invoke))))
  | _ => fail .typeError "map() must have at least two arguments."

/-- The constructor of iterators that leave objects out. -/
def makeFilter (invoke : Invoke) (cls : Handle) (arguments : Arguments) : Run Handle := do
  refuseKeywordsFor .filter cls arguments
  checkBetween "filter" 2 2 arguments
  newInstance cls (.iterator (.filter arguments.first (← iterOf invoke arguments.second)))

/-- The routines of iterators. -/
def iteratorRoutine (invoke : Invoke) (core : Core) (name : String) (self : Handle)
    (arguments : Arguments) : Run Handle := do
  match name, core with
  | "__new__", .enumeration => makeEnumeration invoke self arguments
  | "__new__", .reversed => makeReversed invoke self arguments
  | "__new__", .zip => makeZip invoke self arguments
  | "__new__", .map => makeMap invoke self arguments
  | "__new__", _ => makeFilter invoke self arguments
  | "__iter__", _ => return self
  | "__length_hint__", _ => newInt (← lengthHint invoke self)
  | "__class_getitem__", _ => newAlias self arguments.first
  | _, _ =>
    match ← advance invoke walkBound self (← iterationOf self) with
    | some item => return item
    | none => stopWith Fixed.none

/-! Generators. -/

/-- The exception that is thrown into a generator for some arguments. -/
def thrownException (invoke : Invoke) (arguments : Arguments) : Run Thrown := do
  let kind := arguments.first
  let value := if arguments.second.isNull then Fixed.none else arguments.second
  let traceback := if arguments.third.isNull then Fixed.none else arguments.third
  if traceback ≠ Fixed.none ∧ !(← isA traceback .traceback) then
    fail .typeError "throw() third argument must be a traceback object"
  let exception ← do
    if ← isClass kind then
      if ← isSubclass kind Core.baseException.handle then
        if value = Fixed.none then invoke kind (.of [])
        else if ← isSubclass (← typeOf value) kind then pure value
        else do
          match ← body value with
          | .tuple items => invoke kind (.of items)
          | _ => invoke kind (.of [value])
      else
        fail .typeError ("exceptions must be classes or instances deriving from BaseException, not " ++
          (← typeName kind))
    else if ← isA kind .baseException then
      if value = Fixed.none then pure kind
      else fail .typeError "instance exception may not have a separate value"
    else
      fail .typeError ("exceptions must be classes or instances deriving from BaseException, not " ++
        (← typeName kind))
  return ⟨exception, ← tracebackOf exception, false⟩

/-- The iterator whose values a generator hands out at the time. -/
def delegateOf (state : Suspended) : Handle :=
  match state.tasks with
  | .delegate _ iterator _ :: _ => iterator
  | _ => Fixed.none

/-- The frame of a generator that has not ended. -/
def generatorFrame (state : Suspended) : Run Handle := do
  match state.phase, ← body state.frame.code with
  | .closed, _ => nothing
  | _, .code code =>
    newOf .frame (.frame ⟨code.file, code.line, code.name, state.frame.references⟩)
  | _, _ => nothing

/-- The routines of generators. -/
def generatorRoutine (invoke : Invoke) (name : String) (self : Handle) (arguments : Arguments) :
    Run Handle := do
  match ← body self with
  | .generator state =>
    match name with
    | "__repr__" =>
      newString ("<generator object " ++ state.qualifiedName ++ " at " ++ shownAddress ++ ">")
    | "__iter__" => return self
    | "__next__" => sendTo invoke self state Fixed.none
    | "send" => sendTo invoke self state arguments.first
    | "throw" => throwTo invoke self state (← thrownException invoke arguments)
    | "close" =>
      closeGenerator invoke self state
      nothing
    | "__name__" => newString state.name
    | "__qualname__" => newString state.qualifiedName
    | "gi_running" => return truth (state.phase == .running)
    | "gi_suspended" => return truth (state.phase == .suspended)
    | "gi_yieldfrom" => return delegateOf state
    | "gi_frame" => generatorFrame state
    | "gi_code" => return state.frame.code
    | "__class_getitem__" => newAlias self arguments.first
    | _ => nothing
  | _ => if name = "__class_getitem__" then newAlias self arguments.first else nothing

end ForeignBridge.Foreign.Run
