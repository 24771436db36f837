/-! # UTF-8

Bytes are read as characters one by one. The first byte of a character says how many bytes follow
and what the next one may be. A fault is reported where its character begins: either the bytes end
too early, or some bytes cannot go on.
-/

namespace ForeignBridge.Utf8

/-- Why bytes are no text. -/
inductive Fault where
  /-- The last character is cut off. -/
  | incomplete (start : Nat)
  /-- The bytes from a place on, so many of them, do not begin a character. -/
  | invalid (start width : Nat)
deriving DecidableEq, Repr, Inhabited

/-- What is said of a fault. -/
def Fault.message : Fault → String
  | incomplete start => "incomplete utf-8 byte sequence from index " ++ toString start
  | invalid start width =>
    "invalid utf-8 sequence of " ++ toString width ++ " bytes from index " ++ toString start

/-- The bounds of a byte that goes on with a character. -/
def tail : Nat × Nat := (0x80, 0xBF)

/-- What a first byte stands for: the bits it gives, and the bounds of the bytes that follow. -/
def lead? (byte : Nat) : Option (Nat × List (Nat × Nat)) :=
  if byte ≤ 0x7F then some (byte, [])
  else if 0xC2 ≤ byte ∧ byte ≤ 0xDF then some (byte % 32, [tail])
  else if byte = 0xE0 then some (0, [(0xA0, 0xBF), tail])
  else if byte = 0xED then some (13, [(0x80, 0x9F), tail])
  else if 0xE1 ≤ byte ∧ byte ≤ 0xEF then some (byte % 16, [tail, tail])
  else if byte = 0xF0 then some (0, [(0x90, 0xBF), tail, tail])
  else if 0xF1 ≤ byte ∧ byte ≤ 0xF3 then some (byte % 8, [tail, tail, tail])
  else if byte = 0xF4 then some (4, [(0x80, 0x8F), tail, tail])
  else none

/-- Reads on in a character that began at a place, with the bits read so far and the bounds of the
bytes that are owed. -/
def decodeFrom (index start code : Nat) (owed : List (Nat × Nat)) :
    List UInt8 → Except Fault (List Char)
  | [] => if owed.isEmpty then .ok [] else .error (.incomplete start)
  | byte :: rest =>
    match owed with
    | [] =>
      match lead? byte.toNat with
      | none => .error (.invalid index 1)
      | some (code, []) => do
        let characters ← decodeFrom (index + 1) (index + 1) 0 [] rest
        return Char.ofNat code :: characters
      | some (code, owed) => decodeFrom (index + 1) index code owed rest
    | (low, high) :: owed =>
      if low ≤ byte.toNat ∧ byte.toNat ≤ high then
        let code := code * 64 + byte.toNat % 64
        if owed.isEmpty then do
          let characters ← decodeFrom (index + 1) (index + 1) 0 [] rest
          return Char.ofNat code :: characters
        else decodeFrom (index + 1) start code owed rest
      else .error (.invalid start (index - start))

/-- The text of some bytes. -/
def decode (bytes : List UInt8) : Except Fault String :=
  (decodeFrom 0 0 0 [] bytes).map String.ofList

end ForeignBridge.Utf8
