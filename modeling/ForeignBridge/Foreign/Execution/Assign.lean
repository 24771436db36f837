import ForeignBridge.Foreign.Execution.Evaluate

/-! # Targets

A value is assigned to a name, an attribute or an item; one with parts is taken apart first.
-/

namespace ForeignBridge.Foreign.Run

/-- The objects that an object is taken apart into, up to one more than a number of them. -/
def takeUpTo (invoke : Invoke) (iterator : Handle) : Nat → Run (List Handle)
  | 0 => return []
  | fuel + 1 => do
    match ← next? invoke iterator with
    | none => return []
    | some item => return item :: (← takeUpTo invoke iterator fuel)

/-- An iterator over an object that is taken apart. -/
def unpackIterator (invoke : Invoke) (source : Handle) : Run Handle := do
  if ← isIterable source then iterOf invoke source
  else fail .typeError ("cannot unpack non-iterable " ++ (← typeName source) ++ " object")

/-- The objects of an object that is taken apart into a number of them. -/
def unpack (invoke : Invoke) (source : Handle) (count : Nat) : Run (List Handle) := do
  let items ← match ← plainItems? source with
    | some items => pure items
    | none => do takeUpTo invoke (← unpackIterator invoke source) (count + 1)
  if items.length < count then
    fail .valueError ("not enough values to unpack (expected " ++ toString count ++ ", got " ++
      toString items.length ++ ")")
  else if count < items.length then
    fail .valueError ("too many values to unpack (expected " ++ toString count ++ ")")
  else return items

/-- The objects of an object that is taken apart into some, a list of the rest, and some more. -/
def unpackAround (invoke : Invoke) (source : Handle) (before after : Nat) : Run (List Handle) := do
  let items ← match ← plainItems? source with
    | some items => pure items
    | none => do drain invoke (← unpackIterator invoke source)
  let count := items.length
  if count < before + after then
    fail .valueError ("not enough values to unpack (expected at least " ++
      toString (before + after) ++ ", got " ++ toString count ++ ")")
  else
    let middle ← newList ((items.drop before).take (count - before - after))
    return items.take before ++ middle :: items.drop (count - after)

/-- Where the starred one of some targets stands. -/
def starPlace? (targets : List Expression) : Option Nat :=
  let place := targets.findIdx Expression.isStarred
  if place < targets.length then some place else none

mutual

/-- Assigns a value to a target. -/
def assign (invoke : Invoke) (value : Handle) : Expression → Run Unit
  | .name line place name => do
    onLine line
    writeName invoke place name value
  | .member line target name => do
    let object ← evaluate invoke target
    onLine line
    setAttribute invoke object name value
  | .subscript line target index => do
    let container ← evaluate invoke target
    let index ← evaluate invoke index
    onLine line
    setItem invoke container index value
  | .starred _ target => assign invoke value target
  | .list line targets | .tuple line targets => do
    onLine line
    let items ← match starPlace? targets with
      | none => unpack invoke value targets.length
      | some place => unpackAround invoke value place (targets.length - place - 1)
    assignAll invoke items targets
  | _ => return

/-- Assigns values to targets one by one. -/
def assignAll (invoke : Invoke) :
    List Handle → List Expression → Run Unit
  | _, [] => return
  | [], _ :: _ => return
  | value :: values, target :: targets => do
    assign invoke value target
    assignAll invoke values targets

end

mutual

/-- Takes a target away. -/
def unbind (invoke : Invoke) : Expression → Run Unit
  | .name line place name => do
    onLine line
    deleteName invoke place name
  | .member line target name => do
    let object ← evaluate invoke target
    onLine line
    deleteAttribute invoke object name
  | .subscript line target index => do
    let container ← evaluate invoke target
    let index ← evaluate invoke index
    onLine line
    deleteItem invoke container index
  | .list _ targets | .tuple _ targets => unbindAll invoke targets
  | _ => return

/-- Takes targets away one by one. -/
def unbindAll (invoke : Invoke) : List Expression → Run Unit
  | [] => return
  | target :: rest => do
    unbind invoke target
    unbindAll invoke rest

end

/-- Changes a target by an operator and a value. -/
def updateTarget (invoke : Invoke) (line : Nat) (operator : BinaryOperator)
    (target value : Expression) : Run Unit := do
  let combine (old : Handle) : Run Handle := do
    let given ← evaluate invoke value
    onLine line
    operateInPlace invoke operator old given
  match target with
  | .member place owner name =>
    let object ← evaluate invoke owner
    onLine place
    let old ← getAttribute invoke object name
    let made ← combine old
    onLine place
    setAttribute invoke object name made
  | .subscript place owner index =>
    let container ← evaluate invoke owner
    let index ← evaluate invoke index
    onLine place
    let old ← getItem invoke container index
    let made ← combine old
    onLine place
    setItem invoke container index made
  | other =>
    let old ← evaluate invoke other
    let made ← combine old
    assign invoke made other

end ForeignBridge.Foreign.Run
