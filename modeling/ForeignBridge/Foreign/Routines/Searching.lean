import ForeignBridge.Foreign.Characters.Case

/-! # Searching and cutting

Texts and bytes are searched, cut and joined as lists of numbers.
-/

namespace ForeignBridge.Foreign.Searching

/-- The places at which a part stands, none of which overlaps with the one before, from a place on. -/
def placesFrom (part : List Nat) : Nat → Nat → List Nat → List Nat
  | 0, _, _ => []
  | fuel + 1, place, codes =>
    if part.isPrefixOf codes then
      if part.isEmpty then
        place :: (match codes with
          | [] => []
          | _ :: rest => placesFrom part fuel (place + 1) rest)
      else place :: placesFrom part fuel (place + part.length) (codes.drop part.length)
    else
      match codes with
      | [] => []
      | _ :: rest => placesFrom part fuel (place + 1) rest

/-- The places at which a part stands, none of which overlaps with the one before. -/
def places (part codes : List Nat) : List Nat := placesFrom part (codes.length + 1) 0 codes

/-- The same, looked for from the end. -/
def placesBack (part codes : List Nat) : List Nat :=
  ((places part.reverse codes.reverse).map fun place =>
    codes.length - place - part.length).reverse

/-- The first place from one on at which a part stands. -/
def findFrom (part : List Nat) (place : Nat) : List Nat → Option Nat
  | [] => if part.isEmpty then some place else none
  | code :: rest =>
    if part.isPrefixOf (code :: rest) then some place else findFrom part (place + 1) rest

/-- The first place at which a part stands. -/
def find? (part codes : List Nat) : Option Nat := findFrom part 0 codes

/-- The last place at which a part stands. -/
def findBack? (part codes : List Nat) : Option Nat :=
  (find? part.reverse codes.reverse).map fun place => codes.length - place - part.length

/-- The parts between some places of a separator of some width. -/
def cutAt (width : Nat) (codes : List Nat) : Nat → List Nat → List (List Nat)
  | start, [] => [codes.drop start]
  | start, place :: rest =>
    (codes.drop start).take (place - start) :: cutAt width codes (place + width) rest

/-- The words between gaps. After a number of cuts the rest is one word, whatever is in it. -/
def words (isGap : Nat → Bool) : Nat → Option Nat → List Nat → List (List Nat)
  | 0, _, _ => []
  | fuel + 1, cuts, codes =>
    let codes := codes.dropWhile isGap
    if codes.isEmpty then []
    else
      match cuts with
      | some 0 => [codes]
      | _ =>
        let (word, rest) := codes.span fun code => !isGap code
        word :: words isGap fuel (cuts.map (· - 1)) rest

/-- The same, cut from the end. -/
def wordsBack (isGap : Nat → Bool) (cuts : Option Nat) (codes : List Nat) : List (List Nat) :=
  ((words isGap (codes.length + 1) cuts codes.reverse).map List.reverse).reverse

/-- The lines, with or without their ends. A return and a line feed end one line together. -/
def lines (isEnd : Nat → Bool) (keep : Bool) : Nat → List Nat → List (List Nat)
  | 0, _ => []
  | fuel + 1, codes =>
    if codes.isEmpty then []
    else
      let (line, rest) := codes.span fun code => !isEnd code
      let width := match rest with
        | 0x0D :: 0x0A :: _ => 2
        | _ :: _ => 1
        | [] => 0
      (if keep then line ++ rest.take width else line) :: lines isEnd keep fuel (rest.drop width)

/-- What is left without what a test holds for at one end or both. -/
def stripped (left right : Bool) (test : Nat → Bool) (codes : List Nat) : List Nat :=
  let codes := if left then codes.dropWhile test else codes
  if right then (codes.reverse.dropWhile test).reverse else codes

/-- Tabs as blanks up to the next column that is a multiple of a width, from a column on. -/
def expandTabs (width : Nat) (column : Nat) : List Nat → List Nat
  | [] => []
  | code :: rest =>
    if code = 0x09 then
      let room := if width = 0 then 0 else width - column % width
      List.replicate room 0x20 ++ expandTabs width (column + room) rest
    else if code = 0x0A ∨ code = 0x0D then code :: expandTabs width 0 rest
    else code :: expandTabs width (column + 1) rest

/-- The names of the two sides on which a text is filled up. -/
def padding (name : String) (width length : Nat) : Nat × Nat :=
  let room := width - length
  match name with
  | "ljust" => (0, room)
  | "rjust" => (room, 0)
  | _ =>
    let left := room / 2 + (if room % 2 = 1 ∧ width % 2 = 1 then 1 else 0)
    (left, room - left)

/-- Zeros between the sign and the digits of a number, up to a width. -/
def zeroFilled (width : Nat) (codes : List Nat) : List Nat :=
  let zeros := List.replicate (width - codes.length) 0x30
  match codes with
  | 0x2B :: rest => 0x2B :: zeros ++ rest
  | 0x2D :: rest => 0x2D :: zeros ++ rest
  | codes => zeros ++ codes

/-- A code that ends a line of a text. -/
def isLineEnd (code : Nat) : Bool :=
  (0x0A ≤ code && code ≤ 0x0D) || (0x1C ≤ code && code ≤ 0x1E) || code == 0x85 ||
    code == 0x2028 || code == 0x2029

/-- A byte that ends a line. -/
def isByteLineEnd (code : Nat) : Bool := code == 0x0A || code == 0x0D

/-- A byte that is a blank. -/
def isByteGap (code : Nat) : Bool := code == 0x20 || (0x09 ≤ code && code ≤ 0x0D)

/-- Whether all words begin with a capital and go on with small letters, given which codes are
capitals and which are small. -/
def isTitled (isUpper isLower : Nat → Bool) (inWord cased : Bool) : List Nat → Bool
  | [] => cased
  | code :: rest =>
    if isUpper code then !inWord && isTitled isUpper isLower true true rest
    else if isLower code then inWord && isTitled isUpper isLower true true rest
    else isTitled isUpper isLower false cased rest

/-- Whether there are codes, and a test holds for all of them. -/
def allOf (test : Nat → Bool) (codes : List Nat) : Bool := !codes.isEmpty && codes.all test

end ForeignBridge.Foreign.Searching
