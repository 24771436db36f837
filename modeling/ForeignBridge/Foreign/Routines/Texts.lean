import ForeignBridge.Foreign.Characters.Identifier
import ForeignBridge.Foreign.Routines.Patterns
import ForeignBridge.Foreign.Routines.Percent
import ForeignBridge.Foreign.Routines.Searching

/-! # Routines of texts

Texts are searched, cut and joined by code points. A text that an operation leaves as it is stays the
same object, if its class is that of texts itself.
-/

namespace ForeignBridge.Foreign.Run

/-- A text object as it is, if its class is that of texts itself, or else a plain copy. -/
def unchanged (self : Handle) (text : List Nat) : Run Handle := do
  if (← core? self) = some .str then return self else newText ⟨text⟩

/-- A part of a text, which may be all of it. -/
def partOf (self : Handle) (text part : List Nat) : Run Handle :=
  if part.length = text.length then unchanged self text else newText ⟨part⟩

/-- The text that an argument must be. -/
def textArgument (handle : Handle) : Run (List Nat) := do
  match ← text? handle with
  | some text => return text.codes
  | none => fail .typeError ("must be str, not " ++ (← typeName handle))

/-- The separator that an argument must be. -/
def separatorArgument (handle : Handle) : Run (List Nat) := do
  let separator ← textArgument handle
  if separator.isEmpty then fail .valueError "empty separator"
  return separator

/-- Whether a text is written with capitals first in each word. -/
def isTitleText (codes : List Nat) : Bool :=
  Searching.isTitled (fun code => Characters.isUpper code || Characters.isTitle code)
    Characters.isLower false false codes

/-- The routines of texts without an argument. -/
def plainTextRoutine (name : String) (codes : List Nat) : Run Handle :=
  let all (test : Nat → Bool) : Run Handle := return truth (Searching.allOf test codes)
  match name with
  | "capitalize" =>
    newText ⟨match codes with
      | [] => []
      | first :: rest => Characters.titleCase.map first ++ Characters.lowerAll [first] rest⟩
  | "title" => newText ⟨Characters.titleAll [] codes⟩
  | "lower" => newText ⟨Characters.lowerAll [] codes⟩
  | "upper" => newText ⟨codes.flatMap Characters.upperCase.map⟩
  | "casefold" => newText ⟨codes.flatMap Characters.foldedCase.map⟩
  | "swapcase" => newText ⟨Characters.swapAll [] codes⟩
  | "isascii" => return truth (codes.all (· < 128))
  | "islower" =>
    return truth (codes.any Characters.isLower &&
      codes.all fun code => !Characters.isUpper code && !Characters.isTitle code)
  | "isupper" =>
    return truth (codes.any Characters.isUpper &&
      codes.all fun code => !Characters.isLower code && !Characters.isTitle code)
  | "istitle" => return truth (isTitleText codes)
  | "isspace" => all Characters.isSpace
  | "isdecimal" => all Characters.isDecimal
  | "isdigit" => all Characters.isDigit
  | "isnumeric" => all Characters.isNumeric
  | "isalpha" => all Characters.isLetter
  | "isalnum" => all fun code => Characters.isLetter code || Characters.isNumeric code
  | "isidentifier" => return truth (Characters.isName codes)
  | "isprintable" => return truth (codes.all Characters.isPrintable)
  | _ => return Fixed.notImplemented

/-- Whether a text begins or ends with one of some others. -/
def affixRoutine (invoke : Invoke) (name : String) (codes : List Nat) (arguments : Arguments) :
    Run Handle := do
  let (_, part, sound) ← window invoke codes arguments.second arguments.third
  let test (choice : List Nat) : Bool :=
    sound && (if name = "startswith" then choice.isPrefixOf part else choice.isSuffixOf part)
  match ← body arguments.first with
  | .text text => return truth (test text.codes)
  | .tuple choices =>
    for choice in choices do
      match ← text? choice with
      | some text => if test text.codes then return Fixed.true
      | none =>
        fail .typeError ("tuple for " ++ name ++ " must only contain str, not " ++
          (← typeName choice))
    return Fixed.false
  | _ =>
    fail .typeError (name ++ " first arg must be str or a tuple of str, not " ++
      (← typeName arguments.first))

/-- The place of a part among some codes, or how often it stands there, given the fault of one that
does not. -/
def placeRoutine (name missing : String) (part : List Nat) (start : Nat) (codes : List Nat)
    (sound : Bool) : Run Handle := do
  let found (place? : Option Nat) : Run Handle :=
    match if sound then place? else none with
    | some place => newInt (start + place : Nat)
    | none => if name.endsWith "find" then newInt (-1) else fail .valueError missing
  match name with
  | "count" => newInt (if sound then (Searching.places part codes).length else 0)
  | "find" | "index" => found (Searching.find? part codes)
  | _ => found (Searching.findBack? part codes)

/-- The routines that look for a text in another. -/
def searchRoutine (invoke : Invoke) (name : String) (codes : List Nat) (arguments : Arguments) :
    Run Handle := do
  let part ← textArgument arguments.first
  let (start, rest, sound) ← window invoke codes arguments.second arguments.third
  placeRoutine name "substring not found" part start rest sound

/-- How many cuts an argument allows. -/
def cutsArgument (invoke : Invoke) (limit : Handle) : Run (Option Nat) := do
  if limit.isNull then return none
  let n ← asSize invoke limit
  return if n < 0 then none else some n.toNat

/-- The parts between a separator, cut from one end up to a number of cuts. -/
def cutParts (back : Bool) (separator codes : List Nat) (cuts : Option Nat) : List (List Nat) :=
  let found := if back then Searching.placesBack separator codes
    else Searching.places separator codes
  let found := match cuts with
    | none => found
    | some cuts => if back then found.drop (found.length - cuts) else found.take cuts
  Searching.cutAt separator.length codes 0 found

/-- The words of a text, cut from one end up to a number of cuts. -/
def cutWords (back : Bool) (isGap : Nat → Bool) (codes : List Nat) (cuts : Option Nat) :
    List (List Nat) :=
  if back then Searching.wordsBack isGap cuts codes
  else Searching.words isGap (codes.length + 1) cuts codes

/-- The parts of a text by a separator or at blanks. -/
def splitText (invoke : Invoke) (back : Bool) (self : Handle) (codes : List Nat)
    (arguments : Arguments) : Run Handle := do
  let cuts ← cutsArgument invoke arguments.second
  let separator := arguments.first
  let parts ←
    if separator.isNull ∨ separator = Fixed.none then
      pure (cutWords back Characters.isSpace codes cuts)
    else
      match ← text? separator with
      | none => fail .typeError ("must be str or None, not " ++ (← typeName separator))
      | some text =>
        if text.codes.isEmpty then fail .valueError "empty separator"
        pure (cutParts back text.codes codes cuts)
  newList (← parts.mapM (partOf self codes))

/-- The three parts of a text around a separator. -/
def partition (back : Bool) (self : Handle) (codes : List Nat) (separator : Handle) :
    Run Handle := do
  let part ← separatorArgument separator
  match if back then Searching.findBack? part codes else Searching.find? part codes with
  | some place =>
    newTuple [← newText ⟨codes.take place⟩, separator,
      ← newText ⟨codes.drop (place + part.length)⟩]
  | none =>
    newTuple (if back then [Fixed.emptyText, Fixed.emptyText, self]
      else [self, Fixed.emptyText, Fixed.emptyText])

/-- The objects of an argument that is joined. -/
def joinedItems (invoke : Invoke) (parts : Handle) : Run (List Handle) := do
  match ← plainItems? parts with
  | some items => return items
  | none =>
    match ← unlessRaised .typeError (iterOf invoke parts) with
    | some iterator => drain invoke iterator
    | none => fail .typeError "can only join an iterable"

/-- Texts joined by a separator. -/
def joinTexts (invoke : Invoke) (separator : CodePoints) (parts : Handle) : Run Handle := do
  let items ← joinedItems invoke parts
  match items with
  | [single] =>
    if (← core? single) = some .str then return single
  | _ => pure ()
  let texts ← items.zipIdx.mapM fun (item, place) => do
    match ← text? item with
    | some text => return text
    | none =>
      fail .typeError ("sequence item " ++ toString place ++ ": expected str instance, " ++
        (← typeName item) ++ " found")
  newText (separator.join texts)

/-- The character that fills up a text. -/
def fillCharacter (fill : Handle) : Run Nat := do
  if fill.isNull then return 0x20
  match ← text? fill with
  | none =>
    fail .typeError ("The fill character must be a unicode character, not " ++ (← typeName fill))
  | some text =>
    match text.codes with
    | [code] => return code
    | _ => fail .typeError "The fill character must be exactly one character long"

/-- A text with others for some parts of it. -/
def replaceParts (codes old new : List Nat) (cuts : Option Nat) : Option (List Nat) :=
  let found := Searching.places old codes
  let found := match cuts with
    | none => found
    | some cuts => found.take cuts
  if found.isEmpty then none
  else if old.isEmpty then
    some (found.foldl (fun made place =>
      made ++ new ++ (codes.drop place).take 1) [] ++ codes.drop found.length)
  else some (new.intercalate (Searching.cutAt old.length codes 0 found))

/-- What a table says of a code point: another text, or the code point itself. -/
def translated (invoke : Invoke) (table : Handle) (code : Nat) : Run (List Nat) := do
  match ← unlessRaised .lookupError (getItem invoke table (← newInt code)) with
  | none => return [code]
  | some found =>
    if found = Fixed.none then return []
    match ← body found with
    | .text text => return text.codes
    | .int n =>
      if 0 ≤ n ∧ n ≤ 0x10FFFF then return [n.toNat]
      else fail .valueError "character mapping must be in range(0x110000)"
    | _ => fail .typeError "character mapping must return integer, None or str"

/-- A table for the translation of code points. -/
def makeTable (invoke : Invoke) (arguments : Arguments) : Run Handle := do
  let first := arguments.first
  let second := arguments.second
  let third := arguments.third
  let dict ← newEmptyDict
  if second.isNull then
    match ← body first with
    | .dict content =>
      if (← core? first) ≠ some .dict then
        fail .typeError "if you give only one argument to maketrans it must be a dict"
      for entry in content.entries do
        match ← body entry.key with
        | .text text =>
          match text.codes with
          | [code] => dictSet invoke dict (← newInt code) entry.value
          | _ => fail .valueError "string keys in translate table must be of length 1"
        | .int _ => dictSet invoke dict entry.key entry.value
        | _ => fail .typeError "keys in translate table must be strings or integers"
      return dict
    | _ => fail .typeError "if you give only one argument to maketrans it must be a dict"
  else
    match ← text? first with
    | none =>
      fail .typeError "first maketrans argument must be a string if there is a second argument"
    | some source =>
      match ← text? second with
      | none => badArgument "maketrans" "argument 2" "str" second
      | some target =>
        if source.codes.length ≠ target.codes.length then
          fail .valueError "the first two maketrans arguments must have equal length"
        for (a, b) in source.codes.zip target.codes do
          dictSet invoke dict (← newInt a) (← newInt b)
        unless third.isNull do
          match ← text? third with
          | none => badArgument "maketrans" "argument 3" "str" third
          | some dropped =>
            for code in dropped.codes do dictSet invoke dict (← newInt code) Fixed.none
        return dict

/-- The constructor of texts. -/
def makeText (invoke : Invoke) (cls : Handle) (arguments : Arguments) : Run Handle := do
  let arguments ← arrangeNamed "str" ⟨["object", "encoding", "errors"], 0, 0, 0⟩ arguments
  let value := arguments.first
  let encoding ← nameArgument? "str" "encoding" arguments.second
  let rule ← nameArgument? "str" "errors" arguments.third
  let made ←
    if value.isNull then pure Fixed.emptyText
    else if encoding.isNone ∧ rule.isNone then strOf invoke value
    else
      match ← body value with
      | .bytes bytes => newText (← decodeBytes bytes encoding rule)
      | .text _ => fail .typeError "decoding str is not supported"
      | _ =>
        fail .typeError ("decoding to str: need a bytes-like object, " ++ (← typeName value) ++
          " found")
  if cls = Core.str.handle then return made
  else newInstance cls (.text (← codePoints made))

/-- The end or the ends of a text at which characters are taken away. -/
def stripText (name : String) (self : Handle) (codes : List Nat) (chars : Handle) : Run Handle := do
  let test ←
    if chars.isNull ∨ chars = Fixed.none then pure Characters.isSpace
    else
      match ← text? chars with
      | some chars => pure fun code => chars.codes.contains code
      | none => fail .typeError (name ++ " arg must be None or str")
  partOf self codes (Searching.stripped (name != "rstrip") (name != "lstrip") test codes)

/-- A text in a format. -/
def formatText (invoke : Invoke) (self : Handle) (codes : List Nat) (format : CodePoints) :
    Run Handle := do
  if format.codes.isEmpty then asPlainText (← strOf invoke self)
  else
    let type ← typeName self
    let format ← orValueFault (Format.ofText format 's'.toNat '<' type)
    if format.kind = 's'.toNat then
      let made ← orValueFault (format.writeText codes)
      if made == codes then unchanged self codes else newText ⟨made⟩
    else fail .valueError (Format.unknown format.kind type)

/-- What stands in a text under an index. -/
def textItem (invoke : Invoke) (self : Handle) (codes : List Nat) (index : Handle) :
    Run Handle := do
  let notIndex (type : String) : String := "string indices must be integers, not '" ++ type ++ "'"
  match ← spotOf invoke index codes.length notIndex "string index out of range" with
  | .place place => newText ⟨[codes[place]?.getD 0]⟩
  | .span span =>
    if span.isWhole codes.length then unchanged self codes else newText ⟨itemsIn codes span⟩

/-- The size of a text in memory. -/
def textSize (codes : List Nat) : Nat :=
  if codes.all (· < 128) then 49 + codes.length
  else if codes.all (· < 256) then 73 + codes.length
  else if codes.all (· < 0x10000) then 74 + 2 * codes.length
  else 76 + 4 * codes.length

/-- A prefix or suffix that an argument must be. -/
def affixArgument (name : String) (affix : Handle) : Run (List Nat) := do
  match ← text? affix with
  | some text => return text.codes
  | none => badArgument name "argument" "str" affix

/-- The text that an argument of a replacement must be. -/
def replacementArgument (place : String) (value : Handle) : Run (List Nat) := do
  match ← text? value with
  | some text => return text.codes
  | none => badArgument "replace" ("argument " ++ place) "str" value

/-- The routines of texts. -/
def textRoutine (invoke : Invoke) (name : String) (self : Handle) (text : CodePoints)
    (arguments : Arguments) : Run Handle := do
  let codes := text.codes
  let first := arguments.first
  let second := arguments.second
  match name with
  | "__repr__" => newText text.quoted
  | "__str__" => unchanged self codes
  | "__hash__" => newInt (textHash codes)
  | "__len__" => newInt codes.length
  | "__iter__" => return (← builtInIterator? self).getD Fixed.none
  | "__getitem__" => textItem invoke self codes first
  | "__add__" =>
    match ← text? first with
    | some more =>
      if codes.isEmpty then asPlainText first
      else if more.codes.isEmpty then unchanged self codes
      else newText (text.append more)
    | none =>
      fail .typeError ("can only concatenate str (not \"" ++ (← typeName first) ++ "\") to str")
  | "__mul__" | "__rmul__" =>
    match ← repetitions invoke codes.length first with
    | 1 => unchanged self codes
    | times => newText ⟨repeated codes times⟩
  | "__contains__" =>
    match ← text? first with
    | some part => return truth (Searching.find? part.codes codes).isSome
    | none =>
      fail .typeError ("'in <string>' requires string as left operand, not " ++ (← typeName first))
  | "__mod__" => percentOfText invoke text first
  | "__rmod__" =>
    match ← text? first with
    | some pattern => percentOfText invoke pattern self
    | none => return Fixed.notImplemented
  | "__format__" => formatText invoke self codes (← formatArgument first)
  | "__getnewargs__" => newTuple [← newText text]
  | "__sizeof__" => newInt (textSize codes)
  | "join" => joinTexts invoke text first
  | "partition" => partition false self codes first
  | "rpartition" => partition true self codes first
  | "removeprefix" =>
    let part ← affixArgument name first
    partOf self codes (if part.isPrefixOf codes then codes.drop part.length else codes)
  | "removesuffix" =>
    let part ← affixArgument name first
    partOf self codes
      (if part.isSuffixOf codes then codes.take (codes.length - part.length) else codes)
  | "zfill" =>
    let width ← asSize invoke first
    if width ≤ codes.length then unchanged self codes
    else newText ⟨Searching.zeroFilled width.toNat codes⟩
  | "strip" | "lstrip" | "rstrip" => stripText name self codes first
  | "center" | "ljust" | "rjust" =>
    let width ← asSize invoke first
    let fill ← fillCharacter second
    if width ≤ codes.length then unchanged self codes
    else
      let (left, right) := Searching.padding name width.toNat codes.length
      newText ⟨List.replicate left fill ++ codes ++ List.replicate right fill⟩
  | "replace" =>
    let old ← replacementArgument "1" first
    let new ← replacementArgument "2" second
    match replaceParts codes old new (← cutsArgument invoke arguments.third) with
    | some made => if old = new then unchanged self codes else newText ⟨made⟩
    | none => unchanged self codes
  | "split" => splitText invoke false self codes arguments
  | "rsplit" => splitText invoke true self codes arguments
  | "splitlines" =>
    let keep ← isNonzero invoke first
    newList (← (Searching.lines Searching.isLineEnd keep (codes.length + 1) codes).mapM
      (partOf self codes))
  | "expandtabs" =>
    let width ← if first.isNull then pure 8 else asSmall invoke first
    newText ⟨Searching.expandTabs width.toNat 0 codes⟩
  | "encode" =>
    let encoding ← nameArgument? name "encoding" first
    let rule ← nameArgument? name "errors" second
    newBytes (← encodeText text encoding rule)
  | "format" =>
    fillPattern invoke text ⟨some arguments.positional, fun key =>
      return arguments.keywords.lookup key⟩
  | "format_map" =>
    fillPattern invoke text ⟨none, fun key => do
      return some (← getItem invoke first (← newString key))⟩
  | "translate" => newText ⟨(← codes.mapM (translated invoke first)).flatten⟩
  | "count" | "find" | "rfind" | "index" | "rindex" => searchRoutine invoke name codes arguments
  | "startswith" | "endswith" => affixRoutine invoke name codes arguments
  | _ =>
    match slotComparison? name with
    | some comparison => return compareBodies comparison (.text text) (← body first)
    | none => plainTextRoutine name codes

/-- The routines of texts and of their class. -/
def strRoutine (invoke : Invoke) (name : String) (self : Handle) (arguments : Arguments) :
    Run Handle := do
  match name with
  | "__new__" => makeText invoke self arguments
  | "maketrans" => makeTable invoke arguments
  | _ => textRoutine invoke name self (← codePoints self) arguments

end ForeignBridge.Foreign.Run
