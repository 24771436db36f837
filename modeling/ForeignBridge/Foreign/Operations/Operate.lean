import ForeignBridge.Foreign.Operations.Text

/-! # Operators

An operator between two objects asks the class of one of them, and then that of the other. Sequences
are put together and repeated only when neither side has an operator of its own. Objects under an
index or a key are found, put and taken away by their container.
-/

namespace ForeignBridge.Foreign

/-- The middle of the attributes for an operator, and its sign. -/
def operatorName : BinaryOperator → String × String
  | .add => ("add", "+")
  | .sub => ("sub", "-")
  | .mul => ("mul", "*")
  | .matMul => ("matmul", "@")
  | .div => ("truediv", "/")
  | .floorDiv => ("floordiv", "//")
  | .mod => ("mod", "%")
  | .pow => ("pow", "** or pow()")
  | .shiftLeft => ("lshift", "<<")
  | .shiftRight => ("rshift", ">>")
  | .or => ("or", "|")
  | .xor => ("xor", "^")
  | .and => ("and", "&")

/-- The attributes of an operation between two objects: for the left side, for the right side, and
the words that name the operation in a fault. -/
structure Operation where
  left : String
  right : String
  sign : String

namespace Operation

/-- An operator between two objects. -/
def ofOperator (operator : BinaryOperator) : Operation :=
  let (name, sign) := operatorName operator
  ⟨"__" ++ name ++ "__", "__r" ++ name ++ "__", sign⟩

/-- Quotient and remainder together. -/
def divMod : Operation := ⟨"__divmod__", "__rdivmod__", "divmod()"⟩

end Operation

/-- All operators. -/
def allOperators : List BinaryOperator :=
  [.add, .sub, .mul, .matMul, .div, .floorDiv, .mod, .pow, .shiftLeft, .shiftRight, .or, .xor, .and]

/-- The attributes for the operators. -/
def operatorTable : List (String × BinaryOperator × Bool) :=
  allOperators.flatMap fun operator =>
    let operation := Operation.ofOperator operator
    [(operation.left, operator, false), (operation.right, operator, true)]

/-- The operator of an attribute, and whether the attribute is for the right side. -/
def slotOperator? (name : String) : Option (BinaryOperator × Bool) := operatorTable.lookup name

/-- The classes whose instances are put together and repeated. -/
def Core.isSequence (core : Core) : Bool :=
  core ∈ [Core.list, .tuple, .str, .bytes, .byteArray]

namespace Run

/-- Whether an entry of a class puts together or repeats sequences. -/
def isJoining (entry : Handle) : Run Bool := do
  match ← body entry with
  | .routine routine =>
    match routine.owner with
    | .core core =>
      return core.isSequence && (routine.name ∈ ["__add__", "__mul__", "__rmul__", "__iadd__",
        "__imul__"])
    | .module _ => return false
  | _ => return false

/-- What a class has for an operation of its own; the joining of sequences does not count. -/
def operatorEntry? (cls : Handle) (name : String) : Run (Option Handle) := do
  match ← classEntry? cls name with
  | none => return none
  | some entry => if ← isJoining entry then return none else return some entry

/-- What one side of an operation answers. -/
def operateSide (invoke : Invoke) (entry : Option Handle) (a : Handle) (others : List Handle) :
    Run Handle :=
  match entry with
  | none => return Fixed.notImplemented
  | some found => callEntry invoke found a others

/-- What two objects answer to an operation: the left side is asked first, unless the right one is of
a class below the left one's with an attribute of its own. -/
def operateSides (invoke : Invoke) (operation : Operation) (a b : Handle) : Run Handle := do
  let left ← typeOf a
  let right ← typeOf b
  let own ← operatorEntry? left operation.left
  if left = right then operateSide invoke own a [b]
  else
    let other ← operatorEntry? right operation.right
    let rightFirst ←
      if (← isSubclass right left) then
        pure (other.isSome && (← operatorEntry? left operation.right) != other)
      else pure false
    let first ← if rightFirst then operateSide invoke other b [a] else operateSide invoke own a [b]
    if first ≠ Fixed.notImplemented then return first
    else if rightFirst then operateSide invoke own a [b] else operateSide invoke other b [a]

/-- The fault of an operation that neither object has. -/
def noOperation {α : Type} (sign : String) (a b : Handle) : Run α := do
  fail .typeError ("unsupported operand type(s) for " ++ sign ++ ": '" ++ (← typeName a) ++
    "' and '" ++ (← typeName b) ++ "'")

/-- What stands in a class for the joining of sequences under a name. -/
def joining? (a : Handle) (name : String) : Run (Option Handle) := do
  match ← typeAttribute a name with
  | none => return none
  | some entry => if ← isJoining entry then return some entry else return none

/-- The integer that an object gives for itself as an index, if it gives one. -/
def givenIndex? (invoke : Invoke) (handle : Handle) : Run (Option Int) := do
  match ← body handle with
  | .int n => return some n
  | _ =>
    match ← callSpecial? invoke handle "__index__" [] with
    | none => return none
    | some answer =>
      match ← body answer with
      | .int n => return some n
      | _ =>
        fail .typeError ("__index__ returned non-int (type " ++ (← typeName answer) ++ ")")

/-- The integer that an object stands for. -/
def asIndex (invoke : Invoke) (handle : Handle) : Run Int := do
  match ← givenIndex? invoke handle with
  | some n => return n
  | none =>
    fail .typeError ("'" ++ (← typeName handle) ++ "' object cannot be interpreted as an integer")

/-- Whether an integer fits into a word. -/
def fitsWord (n : Int) : Bool := decide (-(twoTo 63 : Int) ≤ n ∧ n < twoTo 63)

/-- The integer that an object stands for, which must fit into a word. -/
def asWord (invoke : Invoke) (core : Core) (handle : Handle) : Run Int := do
  let n ← asIndex invoke handle
  if fitsWord n then return n
  else
    fail core ("cannot fit '" ++ (← typeName handle) ++ "' into an index-sized integer")

/-- The integer that an object stands for, which must fit into a word of the machine. -/
def asSize (invoke : Invoke) (handle : Handle) : Run Int := do
  let n ← asIndex invoke handle
  if fitsWord n then return n
  else fail .overflowError "Python int too large to convert to C ssize_t"

/-- Whether an object stands for an integer. -/
def isIndex (handle : Handle) : Run Bool := do
  match ← body handle with
  | .int _ => return true
  | _ => return (← typeAttribute handle "__index__").isSome

/-- A sequence repeated as often as an object says. -/
def repeatSequence (invoke : Invoke) (entry sequence times : Handle) : Run Handle := do
  if ← isIndex times then callEntry invoke entry sequence [times]
  else
    fail .typeError ("can't multiply sequence by non-int of type '" ++ (← typeName times) ++ "'")

/-- What two objects that have no operator answer as sequences. -/
def operateSequences (invoke : Invoke) (operator : BinaryOperator) (a b : Handle) :
    Run (Option Handle) := do
  match operator with
  | .add =>
    match ← joining? a "__add__" with
    | some entry => some <$> callEntry invoke entry a [b]
    | none => return none
  | .mul =>
    match ← joining? a "__mul__" with
    | some entry => some <$> repeatSequence invoke entry a b
    | none =>
      match ← joining? b "__rmul__" with
      | some entry => some <$> repeatSequence invoke entry b a
      | none => return none
  | _ => return none

/-- The fault of an operator that neither object has. A function for output on the left of a shift
suggests a statement of another kind. -/
def noOperator {α : Type} (operator : BinaryOperator) (ending : String) (a b : Handle) : Run α := do
  let sign := (operatorName operator).2
  match operator, ending, ← body a with
  | .shiftRight, "", .routine ⟨_, "print", _, _⟩ =>
    fail .typeError ("unsupported operand type(s) for >>: '" ++ (← typeName a) ++ "' and '" ++
      (← typeName b) ++ "'. Did you mean \"print(<message>, file=<output_stream>)\"?")
  | .pow, "=", _ => noOperation "**=" a b
  | _, _, _ => noOperation (sign ++ ending) a b

/-- Two objects combined by an operator. -/
def operate (invoke : Invoke) (operator : BinaryOperator) (a b : Handle) : Run Handle := do
  let answer ← operateSides invoke (.ofOperator operator) a b
  if answer ≠ Fixed.notImplemented then return answer
  else
    match ← operateSequences invoke operator a b with
    | some made => return made
    | none => noOperator operator "" a b

/-- What a target becomes under an operator: it may change in place. -/
def operateInPlace (invoke : Invoke) (operator : BinaryOperator) (a b : Handle) : Run Handle := do
  let slot := "__i" ++ (operatorName operator).1 ++ "__"
  let entry ← operatorEntry? (← typeOf a) slot
  let own ← operateSide invoke entry a [b]
  if own ≠ Fixed.notImplemented then return own
  let answer ← operateSides invoke (.ofOperator operator) a b
  if answer ≠ Fixed.notImplemented then return answer
  let joined ← match operator with
    | .add => do
      match ← joining? a "__iadd__" with
      | some entry => some <$> callEntry invoke entry a [b]
      | none => pure none
    | .mul => do
      match ← joining? a "__imul__" with
      | some entry => some <$> repeatSequence invoke entry a b
      | none => pure none
    | _ => pure none
  match joined with
  | some made => return made
  | none =>
    match ← operateSequences invoke operator a b with
    | some made => return made
    | none => noOperator operator "=" a b

/-- A power of an object modulo another. -/
def operatePower (invoke : Invoke) (a b modulus : Handle) : Run Handle := do
  let left ← typeOf a
  let right ← typeOf b
  let last ← typeOf modulus
  let own ← operatorEntry? left "__pow__"
  let ask (cls : Handle) : Run (Option Handle) := do
    if (Core.ofHandle? cls).isNone then return none
    let entry ← operatorEntry? cls "__pow__"
    return if entry = own then none else entry
  let first ← operateSide invoke own a [b, modulus]
  if first ≠ Fixed.notImplemented then return first
  let second ← match ← ask right with
    | some entry => do
      if (Core.ofHandle? left).isSome then
        -- the class of the exponent knows how to convert the base
        operateSide invoke (some entry) a [b, modulus]
      else pure Fixed.notImplemented
    | none => pure Fixed.notImplemented
  if second ≠ Fixed.notImplemented then return second
  fail .typeError ("unsupported operand type(s) for ** or pow(): '" ++ (← className left) ++
    "', '" ++ (← className right) ++ "', '" ++ (← className last) ++ "'")

/-- The attribute for an operator in front of an object, and its sign. -/
def unarySlot : UnaryOperator → String × String
  | .negative => ("__neg__", "unary -")
  | .positive => ("__pos__", "unary +")
  | .invert => ("__invert__", "unary ~")
  | .not => ("", "")

/-- An object under an operator of its own. -/
def operateUnary (invoke : Invoke) (operator : UnaryOperator) (handle : Handle) : Run Handle := do
  let (slot, sign) := unarySlot operator
  if operator = .not then return truth (!(← isTrue invoke handle))
  else
    match ← callSpecial? invoke handle slot [] with
    | some answer => return answer
    | none =>
      fail .typeError ("bad operand type for " ++ sign ++ ": '" ++ (← typeName handle) ++ "'")

/-- The length that an object answers, as it stands. -/
def answeredLength (invoke : Invoke) (answer : Handle) : Run Nat := do
  let n ← asIndex invoke answer
  if n < 0 then fail .valueError "__len__() should return >= 0"
  else if fitsWord n then return n.toNat
  else
    fail .overflowError ("cannot fit '" ++ (← typeName answer) ++ "' into an index-sized integer")

/-- The number of objects in an object. -/
def lengthOf (invoke : Invoke) (handle : Handle) : Run Nat := do
  match ← typeAttribute handle "__len__" with
  | none => fail .typeError ("object of type '" ++ (← typeName handle) ++ "' has no len()")
  | some entry => answeredLength invoke (← callEntry invoke entry handle [])

/-- A class with types as its arguments. -/
def newAlias (origin arguments : Handle) : Run Handle := do
  let tuple ← match ← body arguments with
    | .tuple _ => pure arguments
    | _ => newTuple [arguments]
  newOf .genericAlias (.applied origin tuple)

/-- What a class has under a key. -/
def classItem (invoke : Invoke) (cls index : Handle) : Run Handle := do
  if cls = Core.type.handle then newAlias cls index
  else
    match ← getAttribute? invoke cls "__class_getitem__" with
    | some rule =>
      if rule ≠ Fixed.none then invoke rule (.of [index])
      else fail .typeError ("type '" ++ (← className cls) ++ "' is not subscriptable")
    | none => fail .typeError ("type '" ++ (← className cls) ++ "' is not subscriptable")

/-- What stands in an object under an index or a key. -/
def getItem (invoke : Invoke) (container index : Handle) : Run Handle := do
  match ← typeAttribute container "__getitem__" with
  | some entry => callEntry invoke entry container [index]
  | none =>
    if ← isClass container then classItem invoke container index
    else fail .typeError ("'" ++ (← typeName container) ++ "' object is not subscriptable")

/-- Puts a value into an object under an index or a key. -/
def setItem (invoke : Invoke) (container index value : Handle) : Run Unit := do
  match ← callSpecial? invoke container "__setitem__" [index, value] with
  | some _ => return
  | none =>
    fail .typeError
      ("'" ++ (← typeName container) ++ "' object does not support item assignment")

/-- Takes what stands under an index or a key out of an object. -/
def deleteItem (invoke : Invoke) (container index : Handle) : Run Unit := do
  match ← callSpecial? invoke container "__delitem__" [index] with
  | some _ => return
  | none =>
    fail .typeError ("'" ++ (← typeName container) ++ "' object doesn't support item deletion")

end Run

end ForeignBridge.Foreign
