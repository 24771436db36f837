/-! # Ranges of code points

A set of code points is a sorted array of disjoint closed ranges.
-/

namespace ForeignBridge

/-- A sorted array of disjoint closed ranges. -/
abbrev Ranges := Array (Nat × Nat)

namespace Ranges

/-- Looks for a code point between two indices, halving their distance each time. -/
def search (ranges : Ranges) (code : Nat) : Nat → Nat → Nat → Bool
  | 0, _, _ => false
  | fuel + 1, low, high =>
    if high ≤ low then false
    else
      let middle := (low + high) / 2
      match ranges[middle]? with
      | none => false
      | some (first, last) =>
        if code < first then search ranges code fuel low middle
        else if last < code then search ranges code fuel (middle + 1) high
        else true

/-- Whether a code point is in one of the ranges. -/
def contains (ranges : Ranges) (code : Nat) : Bool :=
  search ranges code (ranges.size.log2 + 2) 0 ranges.size

end Ranges

end ForeignBridge

/-! ## Tables as text

A large table of numbers is written as a text: numbers in base sixteen with blanks between them, and
a semicolon after each row.
-/

namespace ForeignBridge

/-- A table of numbers, row by row. -/
abbrev Rows := Array (List Nat)

namespace Rows

/-- What has been read of a table. -/
structure Progress where
  rows : Rows
  /-- The numbers of the row that is being read, the last one first. -/
  numbers : List Nat
  /-- The number that is being read. -/
  number : Option Nat

/-- The value of a digit in base sixteen. -/
def digit (c : Char) : Nat := if c.isDigit then c.toNat - 0x30 else c.toNat - 0x41 + 10

/-- Takes the number that is being read for finished. -/
def Progress.finish (progress : Progress) : List Nat :=
  progress.number.toList ++ progress.numbers

/-- Reads one more character of a table. -/
def Progress.read (progress : Progress) (c : Char) : Progress :=
  if c = ';' then
    { rows := progress.rows.push progress.finish.reverse, numbers := [], number := none }
  else if c = ' ' ∨ c = '\n' then
    { progress with numbers := progress.finish, number := none }
  else { progress with number := some (progress.number.getD 0 * 16 + digit c) }

/-- The table that a text is. -/
def ofText (text : String) : Rows := (text.foldl Progress.read ⟨#[], [], none⟩).rows

/-- The last row among those from `low` up to `high` whose first number is not above a code, in an
order by the first number. -/
def search (rows : Rows) (code : Nat) : Nat → Nat → Nat → Option (List Nat)
  | 0, _, _ => none
  | fuel + 1, low, high =>
    if high ≤ low then (if low = 0 then none else rows[low - 1]?)
    else
      let middle := (low + high) / 2
      match rows[middle]? with
      | none => none
      | some row =>
        if row.headD 0 ≤ code then search rows code fuel (middle + 1) high
        else search rows code fuel low middle

/-- The last row whose first number is not above a code. -/
def floor? (rows : Rows) (code : Nat) : Option (List Nat) :=
  search rows code (rows.size.log2 + 2) 0 rows.size

end Rows

end ForeignBridge
