import ForeignBridge.Foreign.Machine

/-! # Scalars

Numbers, texts and bytes compare and hash by value, without running any code. Integers and doubles
are compared exactly, and equal ones have one hash. A double that is no number equals nothing, so it
hashes by its identity.
-/

namespace ForeignBridge.Foreign

/-- A value without parts. -/
inductive Scalar where
  | none
  | int (value : Int)
  | float (value : Double)
  | text (value : CodePoints)
  | bytes (value : List Nat)
deriving DecidableEq, Repr, Inhabited

namespace Scalar

/-- The scalar that a body holds. -/
def ofBody? : Body → Option Scalar
  | .int n => some (.int n)
  | .float x => some (.float x)
  | .text codes => some (.text codes)
  | .bytes codes => some (.bytes codes)
  | _ => Option.none

/-- The scalar that an object is, if its class is one of theirs and not one below. -/
def ofCell? (cell : Cell) : Option Scalar :=
  match Core.ofHandle? cell.type with
  | some .noneType => some none
  | some .int | some .bool | some .float | some .str | some .bytes => ofBody? cell.body
  | _ => Option.none

/-- Equality by value. -/
def equal : Scalar → Scalar → Bool
  | none, none => true
  | int a, int b => a == b
  | float x, float y => x.equal y
  | int a, float y => Double.compareInt? a y == some .eq
  | float x, int b => Double.compareInt? b x == some .eq
  | text a, text b => a == b
  | bytes a, bytes b => a == b
  | _, _ => false

/-- The order of two sequences of numbers. -/
def compareCodes : List Nat → List Nat → Ordering
  | [], [] => .eq
  | [], _ :: _ => .lt
  | _ :: _, [] => .gt
  | a :: as, b :: bs => if a = b then compareCodes as bs else compare a b

/-- The order of two scalars. `none` is the answer for numbers of which one is no number, and
nothing is the answer for scalars without an order. -/
def compare? : Scalar → Scalar → Option (Option Ordering)
  | int a, int b => some (some (compare a b))
  | float x, float y => some (x.compare? y)
  | int a, float y => some (Double.compareInt? a y)
  | float x, int b => some ((Double.compareInt? b x).map Ordering.swap)
  | text a, text b => some (some (compareCodes a.codes b.codes))
  | bytes a, bytes b => some (some (compareCodes a b))
  | _, _ => Option.none

/-- The modulus of the hashes of numbers. -/
def modulus : Nat := twoTo 61 - 1

/-- A remainder with a sign as a hash. Minus one is not a hash. -/
def signedHash (negative : Bool) (rest : Nat) : Int :=
  let value : Int := if negative then -(rest : Int) else rest
  if value = -1 then -2 else value

/-- The hash of an integer. -/
def intHash (n : Int) : Int := signedHash (decide (n < 0)) (n.natAbs % modulus)

/-- The hash of a double that is a number. A power of two is taken modulo the modulus, in which two
to the sixty-first is one. -/
def floatHash (x : Double) : Int :=
  if x.isInfinite then (if x.isNegative then -314159 else 314159)
  else
    let power := (x.scale % 61).toNat
    signedHash x.isNegative (x.significand * twoTo power % modulus)

/-- The hash of an object by its identity. -/
def identityHash (handle : Handle) : Int := handle.address

/-- The hash of the scalar in an object. -/
def hash (handle : Handle) : Scalar → Int
  | none => identityHash handle
  | int n => intHash n
  | float x => if x.isNaN then identityHash handle else floatHash x
  | text codes => textHash codes.codes
  | bytes codes => textHash codes

end Scalar

/-! Hashes of several objects are put together in steps on numbers of 64 bits. -/
namespace Mixing

/-- A number of 64 bits. -/
def word (n : Nat) : Nat := n % twoTo 64

/-- A number of 64 bits as one with a sign. -/
def signed (n : Nat) : Int := if n < twoTo 63 then n else (n : Int) - twoTo 64

def firstPrime : Nat := 11400714785074694791
def secondPrime : Nat := 14029467366897019727
def fifthPrime : Nat := 2870177450012600261

/-- The bits turned by 31 places. -/
def turned (n : Nat) : Nat := word (n * twoTo 31) + n / twoTo 33

/-- The hash of some objects in order. -/
def ofItems (hashes : List Int) : Int :=
  let mixed := hashes.foldl (fun mixed hash =>
    word (turned (word (mixed + Members.unsigned hash * secondPrime)) * firstPrime)) fifthPrime
  let last := word (mixed + (hashes.length ^^^ (fifthPrime ^^^ 3527539)))
  if last = twoTo 64 - 1 then 1546275796 else signed last

/-- The bits of a hash spread out. -/
def spread (hash : Nat) : Nat := word (((hash ^^^ 89869747) ^^^ word (hash * twoTo 16)) * 3644798167)

/-- The hash of some objects without an order. -/
def ofMembers (hashes : List Int) : Int :=
  let mixed := hashes.foldl (fun mixed hash => mixed ^^^ spread (Members.unsigned hash)) 0
  let mixed := mixed ^^^ word ((hashes.length + 1) * 1927868237)
  let mixed := mixed ^^^ ((mixed / twoTo 11) ^^^ (mixed / twoTo 25))
  let mixed := word (mixed * 69069 + 907133923)
  signed (if mixed = twoTo 64 - 1 then 590923713 else mixed)

/-- The hash of two objects of which the second one counts more. -/
def ofPair (first second : Int) : Int :=
  let mixed := signed (word (Members.unsigned first + 1000003 * Members.unsigned second))
  if mixed = -1 then -2 else mixed

end Mixing

end ForeignBridge.Foreign
