import ForeignBridge.Foreign.Routines.Texts

/-! # Routines of bytes

Bytes and arrays of bytes have the routines of texts, with letters and blanks of ASCII alone. Bytes do
not change, and those that an operation leaves as they are stay the same object; arrays of bytes
change in place, and every operation makes a new one.
-/

namespace ForeignBridge.Foreign

namespace AsciiByte

def isLower (byte : Nat) : Bool := 0x61 ≤ byte && byte ≤ 0x7A
def isUpper (byte : Nat) : Bool := 0x41 ≤ byte && byte ≤ 0x5A
def isDigit (byte : Nat) : Bool := 0x30 ≤ byte && byte ≤ 0x39
def isLetter (byte : Nat) : Bool := isLower byte || isUpper byte
def lower (byte : Nat) : Nat := if isUpper byte then byte + 0x20 else byte
def upper (byte : Nat) : Nat := if isLower byte then byte - 0x20 else byte
def swapped (byte : Nat) : Nat := if isUpper byte then lower byte else upper byte

/-- Bytes of which the first letter of each word is a capital and the others are small. -/
def titled (inWord : Bool) : List Nat → List Nat
  | [] => []
  | byte :: rest => (if inWord then lower byte else upper byte) :: titled (isLetter byte) rest

/-- The value of a digit in base sixteen. -/
def hexDigit? (code : Nat) : Option Nat :=
  if isDigit code then some (code - 0x30)
  else if 0x61 ≤ code ∧ code ≤ 0x66 then some (code - 0x61 + 10)
  else if 0x41 ≤ code ∧ code ≤ 0x46 then some (code - 0x41 + 10)
  else none

/-- The bytes that digits in base sixteen spell, or the place of what is none. -/
def ofHex : Nat → Nat → List Nat → Except Nat (List Nat)
  | 0, _, _ => .ok []
  | _, _, [] => .ok []
  | fuel + 1, place, code :: rest =>
    if Searching.isByteGap code then ofHex fuel (place + 1) rest
    else
      match hexDigit? code with
      | none => .error place
      | some high =>
        match rest with
        | [] => .error (place + 1)
        | next :: rest =>
          match hexDigit? next with
          | none => .error (place + 1)
          | some low => do return (high * 16 + low) :: (← ofHex fuel (place + 2) rest)

/-- Bytes in base sixteen with a separator between groups; groups are counted from the end, or from
the start if their size is negative. -/
def toHex (separator : Option Nat) (size : Int) (bytes : List Nat) : List Nat :=
  let digits (group : List Nat) : List Nat := group.flatMap (CodePoints.hexPadded 2)
  match separator with
  | none => digits bytes
  | some mark =>
    if size = 0 then digits bytes
    else
      let width := size.natAbs
      let first := if 0 < size then bytes.length % width else 0
      let rec groups : Nat → List Nat → List (List Nat)
        | 0, _ => []
        | _, [] => []
        | fuel + 1, rest => rest.take width :: groups fuel (rest.drop width)
      let found := (if first = 0 then [] else [bytes.take first]) ++
        groups bytes.length (bytes.drop first)
      [mark].intercalate (found.map digits)

end AsciiByte

namespace Run

/-- The bytes in an object, if it holds bytes. -/
def bytes? (handle : Handle) : Run (Option (List Nat)) := do
  match ← body handle with
  | .bytes bytes => return some bytes
  | _ => return none

/-- The bytes that an argument must be. -/
def bytesArgument (handle : Handle) : Run (List Nat) := do
  match ← bytes? handle with
  | some bytes => return bytes
  | none =>
    fail .typeError ("a bytes-like object is required, not '" ++ (← typeName handle) ++ "'")

/-- The byte that an argument must be. -/
def byteArgument (invoke : Invoke) (handle : Handle) : Run Nat := do
  let n ← asIndex invoke handle
  if 0 ≤ n ∧ n < 256 then return n.toNat
  else fail .valueError "byte must be in range(0, 256)"

/-- The bytes that are looked for: some, or a single one by its number. -/
def wantedBytes (invoke : Invoke) (handle : Handle) : Run (List Nat) := do
  match ← bytes? handle with
  | some bytes => return bytes
  | none =>
    if ← isIndex handle then return [← byteArgument invoke handle]
    else
      fail .typeError ("argument should be integer or bytes-like object, not '" ++
        (← typeName handle) ++ "'")

/-- The bytes of the items of an object. -/
def bytesOfItems (invoke : Invoke) (items : List Handle) (wrong : String) : Run (List Nat) :=
  items.mapM fun item => do
    let n ← asIndex invoke item
    if 0 ≤ n ∧ n < 256 then return n.toNat
    else fail .valueError wrong

/-- The bytes that the arguments of a constructor stand for. -/
def sourceBytes (invoke : Invoke) (arguments : Arguments) (inArray : Bool) : Run (List Nat) := do
  let source := arguments.first
  let encoding ← nameArgument? (if inArray then "bytearray" else "bytes") "encoding"
    arguments.second
  let rule ← nameArgument? (if inArray then "bytearray" else "bytes") "errors" arguments.third
  if source.isNull then
    if encoding.isSome then fail .typeError "encoding without a string argument"
    else if rule.isSome then fail .typeError "errors without a string argument"
    else return []
  else
    let given ← text? source
    match given, encoding, rule with
    | some text, some encoding, rule => encodeText text (some encoding) rule
    | none, some _, _ => fail .typeError "encoding without a string argument"
    | some _, none, _ => fail .typeError "string argument without an encoding"
    | none, none, some _ => fail .typeError "errors without a string argument"
    | none, none, none =>
      let own ← if inArray || (← bytes? source).isSome then pure none
        else callSpecial? invoke source "__bytes__" []
      match own with
      | some answer =>
        match ← bytes? answer with
        | some bytes => return bytes
        | none =>
          fail .typeError ("__bytes__ returned non-bytes (type " ++ (← typeName answer) ++ ")")
      | none =>
        if ← isIndex source then
          let count ← asWord invoke .overflowError source
          if count < 0 then fail .valueError "negative count"
          if (twoTo 34 : Int) ≤ count then failMemory
          return List.replicate count.toNat 0
        else
          match ← bytes? source with
          | some bytes => return bytes
          | none =>
            if ← isIterable source then
              bytesOfItems invoke (← gather invoke source)
                (if inArray then "byte must be in range(0, 256)"
                  else "bytes must be in range(0, 256)")
            else
              fail .typeError ("cannot convert '" ++ (← typeName source) ++ "' object to " ++
                (if inArray then "bytearray" else "bytes"))

/-- The constructor of bytes. -/
def makeBytes (invoke : Invoke) (cls : Handle) (arguments : Arguments) : Run Handle := do
  let arguments ← arrangeNamed "bytes" ⟨["source", "encoding", "errors"], 0, 0, 0⟩ arguments
  let source := arguments.first
  if cls = Core.bytes.handle then
    if arguments.second.isNull && arguments.third.isNull && !source.isNull then
      if (← core? source) = some .bytes then return source
    newBytes (← sourceBytes invoke arguments false)
  else newInstance cls (.bytes (← sourceBytes invoke arguments false))

/-- A new object of bytes of a kind. -/
def newBytesOf (core : Core) (bytes : List Nat) : Run Handle :=
  if core = .bytes then newBytes bytes else newOf core (.bytes bytes)

/-- A part of some bytes, which may be all of them. -/
def partOfBytes (core : Core) (self : Handle) (bytes part : List Nat) : Run Handle := do
  if part.length = bytes.length ∧ core = .bytes ∧ (← core? self) = some .bytes then return self
  else newBytesOf core part

/-- The routines of bytes without an argument. -/
def plainBytesRoutine (core : Core) (name : String) (bytes : List Nat) : Run Handle :=
  let all (test : Nat → Bool) : Run Handle := return truth (Searching.allOf test bytes)
  match name with
  | "capitalize" =>
    newBytesOf core (match bytes with
      | [] => []
      | first :: rest => AsciiByte.upper first :: rest.map AsciiByte.lower)
  | "title" => newBytesOf core (AsciiByte.titled false bytes)
  | "lower" => newBytesOf core (bytes.map AsciiByte.lower)
  | "upper" => newBytesOf core (bytes.map AsciiByte.upper)
  | "swapcase" => newBytesOf core (bytes.map AsciiByte.swapped)
  | "isascii" => return truth (bytes.all (· < 128))
  | "islower" =>
    return truth (bytes.any AsciiByte.isLower && bytes.all fun byte => !AsciiByte.isUpper byte)
  | "isupper" =>
    return truth (bytes.any AsciiByte.isUpper && bytes.all fun byte => !AsciiByte.isLower byte)
  | "istitle" =>
    return truth (Searching.isTitled AsciiByte.isUpper AsciiByte.isLower false false bytes)
  | "isspace" => all Searching.isByteGap
  | "isdigit" => all AsciiByte.isDigit
  | "isalpha" => all AsciiByte.isLetter
  | "isalnum" => all fun byte => AsciiByte.isLetter byte || AsciiByte.isDigit byte
  | _ => return Fixed.notImplemented

/-- Whether bytes begin or end with one of some others. -/
def bytesAffix (invoke : Invoke) (name : String) (bytes : List Nat) (arguments : Arguments) :
    Run Handle := do
  let (_, part, sound) ← window invoke bytes arguments.second arguments.third
  let test (choice : List Nat) : Bool :=
    sound && (if name = "startswith" then choice.isPrefixOf part else choice.isSuffixOf part)
  match ← body arguments.first with
  | .bytes choice => return truth (test choice)
  | .tuple choices =>
    for choice in choices do
      if test (← bytesArgument choice) then return Fixed.true
    return Fixed.false
  | _ =>
    fail .typeError (name ++ " first arg must be bytes or a tuple of bytes, not " ++
      (← typeName arguments.first))

/-- The byte that fills up bytes. -/
def fillByte (name : String) (fill : Handle) : Run Nat := do
  if fill.isNull then return 0x20
  match ← bytes? fill with
  | some [byte] => return byte
  | _ => badArgument name "argument 2" "a byte string of length 1" fill

/-- Bytes joined by a separator. -/
def joinBytes (invoke : Invoke) (core : Core) (separator : List Nat) (parts : Handle) :
    Run Handle := do
  let items ← joinedItems invoke parts
  match items with
  | [single] =>
    if core = .bytes ∧ (← core? single) = some .bytes then return single
  | _ => pure ()
  let found ← items.zipIdx.mapM fun (item, place) => do
    match ← bytes? item with
    | some bytes => return bytes
    | none =>
      fail .typeError ("sequence item " ++ toString place ++
        ": expected a bytes-like object, " ++ (← typeName item) ++ " found")
  newBytesOf core (separator.intercalate found)

/-- Bytes translated by a table, without those that are deleted. -/
def translateBytes (core : Core) (bytes : List Nat) (table deleted : Handle) : Run Handle := do
  let dropped ← if deleted.isNull then pure [] else bytesArgument deleted
  let kept := bytes.filter fun byte => !dropped.contains byte
  if table = Fixed.none then newBytesOf core kept
  else
    let table ← bytesArgument table
    if table.length ≠ 256 then
      fail .valueError "translation table must be 256 characters long"
    newBytesOf core (kept.map fun byte => table[byte]?.getD byte)

/-- A table for the translation of bytes. -/
def makeByteTable (arguments : Arguments) : Run Handle := do
  let source ← bytesArgument arguments.first
  let target ← bytesArgument arguments.second
  if source.length ≠ target.length then
    fail .valueError "maketrans arguments must have same length"
  let pairs := (source.zip target).reverse
  newBytes ((List.range 256).map fun byte => (pairs.lookup byte).getD byte)

/-- Bytes in base sixteen, as a text. -/
def hexOfBytes (invoke : Invoke) (bytes : List Nat) (arguments : Arguments) : Run Handle := do
  let separator ←
    if arguments.first.isNull then pure none
    else
      match ← body arguments.first with
      | .text ⟨[mark]⟩ | .bytes [mark] =>
        if 127 < mark then fail .valueError "sep must be ASCII."
        pure (some mark)
      | .text _ | .bytes _ => fail .valueError "sep must be length 1."
      | _ => fail .typeError "sep must be str or bytes."
  let size ← if arguments.second.isNull then pure 1 else asSmall invoke arguments.second
  newText ⟨AsciiByte.toHex separator size bytes⟩

/-- The bytes that a text spells in base sixteen. -/
def bytesOfHex (core : Core) (invoke : Invoke) (cls text : Handle) : Run Handle := do
  match ← text? text with
  | none => badArgument "fromhex" "argument" "str" text
  | some text =>
    match AsciiByte.ofHex (text.codes.length + 1) 0 text.codes with
    | .error place =>
      fail .valueError ("non-hexadecimal number found in fromhex() arg at position " ++
        toString place)
    | .ok bytes =>
      let made ← newBytesOf core bytes
      if cls = core.handle then return made else invoke cls (.of [made])

/-- The parts of bytes by a separator or at blanks. -/
def splitBytes (invoke : Invoke) (core : Core) (back : Bool) (self : Handle) (bytes : List Nat)
    (arguments : Arguments) : Run Handle := do
  let cuts ← cutsArgument invoke arguments.second
  let separator := arguments.first
  let parts ←
    if separator.isNull ∨ separator = Fixed.none then
      pure (cutWords back Searching.isByteGap bytes cuts)
    else do
      let separator ← bytesArgument separator
      if separator.isEmpty then fail .valueError "empty separator"
      pure (cutParts back separator bytes cuts)
  newList (← parts.mapM (partOfBytes core self bytes))

/-- The three parts of bytes around a separator. -/
def partitionBytes (core : Core) (back : Bool) (self : Handle) (bytes : List Nat)
    (separator : Handle) : Run Handle := do
  let part ← bytesArgument separator
  if part.isEmpty then fail .valueError "empty separator"
  let create := newBytesOf core
  match if back then Searching.findBack? part bytes else Searching.find? part bytes with
  | some place =>
    let middle ← if core = .bytes then pure separator else create part
    newTuple [← create (bytes.take place), middle, ← create (bytes.drop (place + part.length))]
  | none =>
    let whole ← if core = .bytes then pure self else create bytes
    let empty ← create []
    let other ← create []
    newTuple (if back then [empty, other, whole] else [whole, empty, other])

/-- What stands in bytes under an index. -/
def bytesItem (invoke : Invoke) (core : Core) (self : Handle) (bytes : List Nat) (index : Handle) :
    Run Handle := do
  let notIndex (type : String) : String :=
    (if core = .bytes then "byte" else "bytearray") ++
      " indices must be integers or slices, not " ++ type
  let outside := if core = .bytes then "index out of range" else "bytearray index out of range"
  match ← spotOf invoke index bytes.length notIndex outside with
  | .place place => newInt (bytes[place]?.getD 0)
  | .span span =>
    if span.isWhole bytes.length then partOfBytes core self bytes bytes
    else newBytesOf core (itemsIn bytes span)

/-- A pattern of bytes filled with the arguments in an object. -/
def percentOfBytes (invoke : Invoke) (core : Core) (pattern : List Nat) (value : Handle) :
    Run Handle := do
  let rule : PercentRule := ⟨true, "%c requires an integer in range(256) or a single byte"⟩
  newBytesOf core ((← percentFilled invoke rule pattern value).flatMap (·.1))

/-- The routines that bytes and arrays of bytes share. -/
def sharedBytesRoutine (invoke : Invoke) (core : Core) (name : String) (self : Handle)
    (bytes : List Nat) (arguments : Arguments) : Run Handle := do
  let create := newBytesOf core
  let part := partOfBytes core self bytes
  let first := arguments.first
  let second := arguments.second
  match name with
  | "__repr__" | "__str__" =>
    if core = .bytes then newText (CodePoints.quotedBytes bytes)
    else
      newText ((CodePoints.ofString (← typeName self)).append ((CodePoints.ofString "(").append
        ((CodePoints.quotedBytes bytes).append (.ofString ")"))))
  | "__hash__" => newInt (textHash bytes)
  | "__len__" => newInt bytes.length
  | "__iter__" => return (← builtInIterator? self).getD Fixed.none
  | "__getitem__" => bytesItem invoke core self bytes first
  | "__add__" =>
    match ← bytes? first with
    | some more =>
      if core = .bytes ∧ bytes.isEmpty ∧ (← core? first) = some .bytes then return first
      else if more.isEmpty then part bytes
      else create (bytes ++ more)
    | none =>
      fail .typeError ("can't concat " ++ (← typeName first) ++ " to " ++ (← typeName self))
  | "__mul__" | "__rmul__" =>
    match ← repetitions invoke bytes.length first with
    | 1 => part bytes
    | times => create (repeated bytes times)
  | "__contains__" =>
    match ← bytes? first with
    | some wanted => return truth (Searching.find? wanted bytes).isSome
    | none =>
      if ← isIndex first then return truth (bytes.contains (← byteArgument invoke first))
      else return truth (bytes.contains ((← bytesArgument first).headD 256))
  | "__mod__" => percentOfBytes invoke core bytes first
  | "__rmod__" =>
    match ← bytes? first with
    | some pattern => percentOfBytes invoke core pattern self
    | none => return Fixed.notImplemented
  | "__bytes__" => part bytes
  | "__getnewargs__" => newTuple [← newBytes bytes]
  | "decode" =>
    let encoding ← nameArgument? name "encoding" first
    let rule ← nameArgument? name "errors" second
    newText (← decodeBytes bytes encoding rule)
  | "hex" => hexOfBytes invoke bytes arguments
  | "translate" => translateBytes core bytes first second
  | "join" => joinBytes invoke core bytes first
  | "partition" => partitionBytes core false self bytes first
  | "rpartition" => partitionBytes core true self bytes first
  | "removeprefix" =>
    let affix ← bytesArgument first
    part (if affix.isPrefixOf bytes then bytes.drop affix.length else bytes)
  | "removesuffix" =>
    let affix ← bytesArgument first
    part (if affix.isSuffixOf bytes then bytes.take (bytes.length - affix.length) else bytes)
  | "zfill" =>
    let width ← asSize invoke first
    part (Searching.zeroFilled width.toNat bytes)
  | "strip" | "lstrip" | "rstrip" =>
    let test ←
      if first.isNull ∨ first = Fixed.none then pure Searching.isByteGap
      else do
        let chars ← bytesArgument first
        pure fun byte => chars.contains byte
    part (Searching.stripped (name != "rstrip") (name != "lstrip") test bytes)
  | "center" | "ljust" | "rjust" =>
    let width ← asSize invoke first
    let fill ← fillByte name second
    let (left, right) := Searching.padding name width.toNat bytes.length
    part (List.replicate left fill ++ bytes ++ List.replicate right fill)
  | "replace" =>
    let old ← bytesArgument first
    let new ← bytesArgument second
    match replaceParts bytes old new (← cutsArgument invoke arguments.third) with
    | some made => create made
    | none => part bytes
  | "split" => splitBytes invoke core false self bytes arguments
  | "rsplit" => splitBytes invoke core true self bytes arguments
  | "splitlines" =>
    let keep ← isNonzero invoke first
    newList (← (Searching.lines Searching.isByteLineEnd keep (bytes.length + 1) bytes).mapM part)
  | "expandtabs" =>
    let width ← if first.isNull then pure 8 else asSmall invoke first
    create (Searching.expandTabs width.toNat 0 bytes)
  | "count" | "find" | "rfind" | "index" | "rindex" =>
    let wanted ← wantedBytes invoke first
    let (start, rest, sound) ← window invoke bytes second arguments.third
    placeRoutine name "subsection not found" wanted start rest sound
  | "startswith" | "endswith" => bytesAffix invoke name bytes arguments
  | _ =>
    match slotComparison? name with
    | some comparison => return compareBodies comparison (.bytes bytes) (← body first)
    | none => plainBytesRoutine core name bytes

/-- The bytes in an object. -/
def bytesOfObject (self : Handle) : Run (List Nat) := do return (← bytes? self).getD []

/-- The routines of bytes and of their class. -/
def bytesRoutine (invoke : Invoke) (name : String) (self : Handle) (arguments : Arguments) :
    Run Handle := do
  match name with
  | "__new__" => makeBytes invoke self arguments
  | "maketrans" => makeByteTable arguments
  | "fromhex" => bytesOfHex .bytes invoke self arguments.first
  | _ => sharedBytesRoutine invoke .bytes name self (← bytesOfObject self) arguments

/-- Bytes with others in a span. -/
def withBytesIn (bytes : List Nat) (span : Span) (new : List Nat) : Run (List Nat) := do
  if span.step = 1 then
    let start := span.start.toNat
    return bytes.take start ++ new ++ bytes.drop (start + span.count)
  else if new.isEmpty then
    let places := span.places
    return (bytes.zipIdx.filter fun (_, place) => !places.contains place).map (·.1)
  else if new.length ≠ span.count then
    fail .valueError ("attempt to assign bytes of size " ++ toString new.length ++
      " to extended slice of size " ++ toString span.count)
  else
    return ((span.places.zip new).foldl (fun bytes (place, byte) => bytes.set place byte) bytes)

/-- Where something in an array of bytes is changed. -/
def arraySpot (invoke : Invoke) (bytes : List Nat) (index : Handle) : Run Spot :=
  spotOf invoke index bytes.length
    (fun type => "bytearray indices must be integers or slices, not " ++ type)
    "bytearray index out of range"

/-- The bytes that are put into an array of bytes. -/
def addedBytes (invoke : Invoke) (source : Handle) : Run (List Nat) := do
  match ← bytes? source with
  | some bytes => return bytes
  | none =>
    if (← isIterable source) && (← text? source).isNone then
      bytesOfItems invoke (← gather invoke source) "byte must be in range(0, 256)"
    else if (← text? source).isSome then
      match (← text? source).map (·.codes.isEmpty) with
      | some true => return []
      | _ => fail .typeError "expected iterable of integers; got: 'str'"
    else fail .typeError ("can't extend bytearray with " ++ (← typeName source))

/-- The bytes that take the place of a slice of an array of bytes. -/
def assignedBytes (invoke : Invoke) (source : Handle) : Run (List Nat) := do
  if (← isIndex source) || (← text? source).isSome then
    fail .typeError
      "can assign only bytes, buffers, or iterables of ints in range(0, 256)"
  else addedBytes invoke source

/-- The routines that change arrays of bytes. -/
def byteArrayRoutine (invoke : Invoke) (name : String) (self : Handle) (arguments : Arguments) :
    Run Handle := do
  let first := arguments.first
  let second := arguments.second
  let bytes ← bytesOfObject self
  let put (bytes : List Nat) : Run Handle := do
    setBody self (.bytes bytes)
    return Fixed.none
  match name with
  | "__new__" => newInstance self (.bytes [])
  | "__init__" =>
    let arguments ← arrangeNamed "bytearray" ⟨["source", "encoding", "errors"], 0, 0, 0⟩ arguments
    put (← sourceBytes invoke arguments true)
  | "maketrans" => makeByteTable arguments
  | "fromhex" => bytesOfHex .byteArray invoke self first
  | "__setitem__" =>
    match ← arraySpot invoke bytes first with
    | .place place => put (bytes.set place (← byteArgument invoke second))
    | .span span =>
      let new ← assignedBytes invoke second
      put (← withBytesIn bytes span new)
  | "__delitem__" =>
    match ← arraySpot invoke bytes first with
    | .place place => put (bytes.eraseIdx place)
    | .span span => put (← withBytesIn bytes span [])
  | "__iadd__" =>
    match ← bytes? first with
    | some more =>
      let _ ← put (bytes ++ more)
      return self
    | none =>
      fail .typeError ("can't concat " ++ (← typeName first) ++ " to " ++ (← typeName self))
  | "__imul__" =>
    let _ ← put (repeated bytes (← repetitions invoke bytes.length first))
    return self
  | "append" => put (bytes ++ [← byteArgument invoke first])
  | "extend" => put (bytes ++ (← addedBytes invoke first))
  | "remove" =>
    let byte ← byteArgument invoke first
    if bytes.contains byte then put (bytes.erase byte)
    else fail .valueError "value not found in bytearray"
  | "clear" => put []
  | "copy" => newOf .byteArray (.bytes bytes)
  | "reverse" => put bytes.reverse
  | "insert" =>
    let place ← asSize invoke first
    let byte ← byteArgument invoke second
    let length : Int := bytes.length
    let place := (max 0 (min (if place < 0 then place + length else place) length)).toNat
    put (bytes.take place ++ byte :: bytes.drop place)
  | "pop" =>
    if bytes.isEmpty then fail .indexError "pop from empty bytearray"
    let place ← if first.isNull then pure (-1) else asSize invoke first
    let place := if place < 0 then place + bytes.length else place
    if place < 0 ∨ (bytes.length : Int) ≤ place then fail .indexError "pop index out of range"
    setBody self (.bytes (bytes.eraseIdx place.toNat))
    newInt (bytes[place.toNat]?.getD 0)
  | _ => sharedBytesRoutine invoke .byteArray name self bytes arguments

end Run

end ForeignBridge.Foreign
