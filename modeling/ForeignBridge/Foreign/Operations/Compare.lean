import ForeignBridge.Foreign.Attributes
import ForeignBridge.Foreign.Scalar

/-! # Comparisons

Two objects are compared by asking the class of one of them, and then that of the other. Any object
counts as true or as false.
-/

/-! ## Hashes

The hash of an object is what its class answers. Classes of the interpreter hash by value or by
identity; a class may also say that its instances have no hash.
-/

namespace ForeignBridge.Foreign.Run

/-- How deep hashes of tuples in tuples may go. -/
def hashDepth : Nat := 1000

/-- The fault of a key that cannot be one. -/
def unhashable {α : Type} (handle : Handle) : Run α := do
  fail .typeError ("unhashable type: '" ++ (← typeName handle) ++ "'")

/-- The hash of a number that a class answers: one of 64 bits stays as it is. -/
def answeredHash (n : Int) : Int :=
  let hash := if -(twoTo 63 : Int) ≤ n ∧ n < twoTo 63 then n else Scalar.intHash n
  if hash = -1 then -2 else hash

/-- How many numbers there are in a range. -/
def rangeCount (start stop step : Int) : Nat :=
  if 0 < step then ((stop - start + step - 1) / step).toNat
  else if step < 0 then ((start - stop - step - 1) / (-step)).toNat
  else 0

/-- The hash of a double, which by itself is that of its identity if it is no number. -/
def floatHashOf (handle : Handle) (x : Double) : Int := Scalar.hash handle (.float x)

/-- The hash that the classes of the interpreter give to an object. -/
def builtInHash (inner : Handle → Run Int) (handle : Handle) : Run Int := do
  match ← body handle with
  | .int n => return Scalar.intHash n
  | .float x => return floatHashOf handle x
  | .complex real imaginary =>
    return Mixing.ofPair (floatHashOf handle real) (floatHashOf handle imaginary)
  | .text codes => return textHash codes.codes
  | .bytes codes => return textHash codes
  | .tuple items => return Mixing.ofItems (← items.mapM inner)
  | .set members => return Mixing.ofMembers (members.entries.map (·.1))
  | .range start stop step =>
    let none := Scalar.identityHash Fixed.none
    let count := rangeCount start stop step
    return Mixing.ofItems [Scalar.intHash count, if count = 0 then none else Scalar.intHash start,
      if count ≤ 1 then none else Scalar.intHash step]
  | .boundRoutine routine self =>
    return answeredHash (Scalar.identityHash self + textHash (CodePoints.ofString routine.name).codes)
  | .method function self => return Scalar.identityHash self + (← inner function)
  | .applied origin arguments => return Mixing.ofPair (← inner origin) (← inner arguments)
  | .union members => return Mixing.ofMembers (← (← itemsOf members).mapM inner)
  | _ => return Scalar.identityHash handle

/-- The hash of an object, with so many levels left. -/
def hashWithin (invoke : Invoke) : Nat → Handle → Run Int
  | 0, _ => fail .recursionError "maximum recursion depth exceeded"
  | fuel + 1, handle => do
    let content ← cell handle
    match Scalar.ofCell? content with
    | some scalar => return scalar.hash handle
    | none =>
      match ← typeAttribute handle "__hash__" with
      | none => return Scalar.identityHash handle
      | some rule =>
        if rule = Fixed.none then unhashable handle
        else
          match ← body rule with
          | .routine routine =>
            match routine.owner with
            | .core .object => return Scalar.identityHash handle
            | _ => builtInHash (hashWithin invoke fuel) handle
          | _ =>
            match ← body (← callEntry invoke rule handle []) with
            | .int n => return answeredHash n
            | _ => fail .typeError "__hash__ method should return an integer"

/-- The hash of an object. -/
def hashOf (invoke : Invoke) (handle : Handle) : Run Int := hashWithin invoke hashDepth handle

end ForeignBridge.Foreign.Run

namespace ForeignBridge.Foreign.Run

/-- The attribute for a comparison. -/
def comparisonSlot : Comparison → String
  | .equal => "__eq__"
  | .notEqual => "__ne__"
  | .less => "__lt__"
  | .lessEqual => "__le__"
  | .greater => "__gt__"
  | .greaterEqual => "__ge__"
  | _ => ""

/-- The comparison that an attribute is for. -/
def slotComparison? : String → Option Comparison
  | "__eq__" => some .equal
  | "__ne__" => some .notEqual
  | "__lt__" => some .less
  | "__le__" => some .lessEqual
  | "__gt__" => some .greater
  | "__ge__" => some .greaterEqual
  | _ => none

/-- The comparison with the two sides exchanged. -/
def reflected : Comparison → Comparison
  | .less => .greater
  | .lessEqual => .greaterEqual
  | .greater => .less
  | .greaterEqual => .lessEqual
  | other => other

/-- The sign of a comparison. -/
def comparisonSymbol : Comparison → String
  | .equal => "=="
  | .notEqual => "!="
  | .less => "<"
  | .lessEqual => "<="
  | .greater => ">"
  | .greaterEqual => ">="
  | _ => ""

/-- Whether an order satisfies a comparison. -/
def satisfies (comparison : Comparison) (order : Option Ordering) : Bool :=
  match comparison, order with
  | .equal, order => order == some .eq
  | .notEqual, order => order != some .eq
  | .less, some .lt | .lessEqual, some .lt | .lessEqual, some .eq => true
  | .greater, some .gt | .greaterEqual, some .gt | .greaterEqual, some .eq => true
  | _, _ => false

/-- What one side of a comparison answers. -/
def compareSide (invoke : Invoke) (comparison : Comparison) (a b : Handle) : Run Handle := do
  return (← callSpecial? invoke a (comparisonSlot comparison) [b]).getD Fixed.notImplemented

/-- A comparison of two objects: the left side is asked first, unless the right one is of a class
below the left one's, and then the other side. -/
def compareObjects (invoke : Invoke) (comparison : Comparison) (a b : Handle) : Run Handle := do
  let left ← typeOf a
  let right ← typeOf b
  let rightFirst ← if left = right then pure false else isSubclass right left
  let first ← if rightFirst then compareSide invoke (reflected comparison) b a
    else compareSide invoke comparison a b
  if first ≠ Fixed.notImplemented then return first
  let second ← if rightFirst then compareSide invoke comparison a b
    else compareSide invoke (reflected comparison) b a
  if second ≠ Fixed.notImplemented then return second
  match comparison with
  | .equal => return truth (a == b)
  | .notEqual => return truth (a != b)
  | _ =>
    fail .typeError ("'" ++ comparisonSymbol comparison ++
      "' not supported between instances of '" ++ (← className left) ++ "' and '" ++
      (← className right) ++ "'")

/-- The answer of a comparison. Scalars are compared by value. -/
def compare (invoke : Invoke) (comparison : Comparison) (a b : Handle) : Run Handle := do
  match Scalar.ofCell? (← cell a), Scalar.ofCell? (← cell b) with
  | some x, some y =>
    match comparison with
    | .equal => return truth (x.equal y)
    | .notEqual => return truth (!x.equal y)
    | _ =>
      match x.compare? y with
      | some order => return truth (satisfies comparison order)
      | none => compareObjects invoke comparison a b
  | _, _ => compareObjects invoke comparison a b

/-- Whether an object of one of the interpreter's plain classes counts as true. -/
def plainTruth? (content : Cell) : Option Bool :=
  match Core.ofHandle? content.type with
  | none => none
  | some .noneType => some false
  | some _ =>
    match content.body with
    | .int n => some (n != 0)
    | .float x => some (!x.isZero)
    | .complex x y => some (!(x.isZero && y.isZero))
    | .text codes => some (!codes.codes.isEmpty)
    | .bytes bytes => some (!bytes.isEmpty)
    | .list items | .tuple items => some (!items.isEmpty)
    | .dict content => some (!content.entries.isEmpty)
    | .set members => some (members.size != 0)
    | .range start stop step => some (rangeCount start stop step != 0)
    | .function _ | .core _ | .cls _ | .plain => some true
    | _ => none

/-- Whether an object counts as true, going through so many objects at most. -/
def isTrueWithin (invoke : Invoke) : Nat → Handle → Run Bool
  | 0, _ => return true
  | fuel + 1, handle => do
    match plainTruth? (← cell handle) with
    | some answer => return answer
    | none =>
      match ← callSpecial? invoke handle "__bool__" [] with
      | some answer =>
        if answer = Fixed.true then return true
        else if answer = Fixed.false then return false
        else fail .typeError ("__bool__ should return bool, returned " ++ (← typeName answer))
      | none =>
        match ← callSpecial? invoke handle "__len__" [] with
        | some answer => isTrueWithin invoke fuel answer
        | none => return true

/-- Whether an object counts as true. -/
def isTrue (invoke : Invoke) (handle : Handle) : Run Bool := isTrueWithin invoke 100 handle

/-- Whether two objects are one or compare as equal. -/
def isSame (invoke : Invoke) (a b : Handle) : Run Bool := do
  if a = b then return true
  else isTrue invoke (← compare invoke .equal a b)

end ForeignBridge.Foreign.Run
