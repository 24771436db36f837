import ForeignBridge.Foreign.Execution.Raise
import ForeignBridge.Foreign.Routines.Integers

/-! # Functions of the interpreter's own module

What a program can ask of the interpreter itself.
-/

namespace ForeignBridge.Foreign.Run

/-- How many calls may be under way at a time. -/
def callLimit : Nat := 1000

/-- How much room an object takes, by its own account. -/
def sizeOf (invoke : Invoke) (object other : Handle) : Run Handle := do
  let asked : Run Handle := do
    match ← callSpecial? invoke object "__sizeof__" [] with
    | none =>
      fail .typeError ("Type " ++ (← typeName object) ++ " doesn't define __sizeof__")
    | some answer =>
      let size ← asWord invoke .overflowError answer
      if size < 0 then fail .valueError "__sizeof__() should return >= 0"
      newInt size
  if other.isNull then asked
  else return (← unlessRaised .typeError asked).getD other

/-- The exception that is being handled, with its class and its calls. -/
def handledInfo : Run Handle := do
  match (← machine).handling with
  | some exception =>
    newTuple [← typeOf exception, exception, ← tracebackObject exception]
  | none => newTuple [Fixed.none, Fixed.none, Fixed.none]

/-- The functions of the interpreter's own module. -/
def systemRoutine (invoke : Invoke) (name : String) (arguments : Arguments) : Run Handle := do
  let first := arguments.first
  match name with
  | "getrefcount" => newInt ((← machine).heap.references first + 1)
  | "getrecursionlimit" => newInt callLimit
  | "setrecursionlimit" =>
    if (← asSmall invoke first) < 1 then
      fail .valueError "recursion limit must be greater or equal than 1"
    return Fixed.none
  | "intern" =>
    match ← body first, ← core? first with
    | .text _, some .str => intern first
    | .text _, _ => fail .typeError ("can't intern " ++ (← typeName first))
    | _, _ => badArgument "intern" "argument" "str" first
  | "exit" =>
    let code := if first.isNull then Fixed.none else first
    let (handed, kept) := match ← body code with
      | .tuple [] => ([], Fixed.none)
      | .tuple [only] => ([only], only)
      | .tuple items => (items, code)
      | _ => (if code = Fixed.none then [] else [code], code)
    raise (← newExceptionWith .systemExit handed [("code", kept)])
  | "getdefaultencoding" | "getfilesystemencoding" => newString "utf-8"
  | "exc_info" => handledInfo
  | "exception" => return (← machine).handling.getD Fixed.none
  | "is_finalizing" => return Fixed.false
  | "getsizeof" => sizeOf invoke first arguments.second
  | "get_int_max_str_digits" => newInt 4300
  | "_getframe" =>
    let depth ← if first.isNull then pure 0 else asSmall invoke first
    if 0 < depth ∨ (← machine).frame.globals.isNull then
      fail .valueError "call stack is not deep enough"
    newOf .frame (.frame (← frameEntry))
  | _ => return Fixed.none

end ForeignBridge.Foreign.Run
