import ForeignBridge.Proofs.Json.Numbers

/-! # What is written is read

The text of a document is read to its end, unless more containers stand in one another in it than are
allowed. Each character that is written in a string is read in one round, and a document in no more
rounds than twice its characters, so the rounds that the reader has are enough.
-/

namespace ForeignBridge.Json

variable {cursor : Cursor} {tail : List Char} {fuel bound : ℕ}

/-! Strings. -/

theorem hexValue?_hexDigit : ∀ n < 16, hexValue? (hexDigit n) = some n := by decide

theorem utf8Size_hexDigit : ∀ n < 16, (hexDigit n).utf8Size = 1 := by decide

/-- Four characters of one byte each are four bytes. -/
theorem fourBytesOn_four {a b c d : Char} (here : cursor.rest = a :: b :: c :: d :: tail)
    (first : a.utf8Size = 1) (second : b.utf8Size = 1) (third : c.utf8Size = 1) (fourth : d.utf8Size = 1) :
    ∃ after, fourBytesOn 0 cursor.rest cursor = (true, after) ∧ after.rest = tail := by
  rw [here]
  refine ⟨(((cursor.past a (b :: c :: d :: tail)).past b (c :: d :: tail)).past c (d :: tail)).past d tail,
    ?_, Cursor.rest_past ..⟩
  simp only [fourBytesOn, first, second, third, fourth]
  cases tail <;> rfl

/-- A control character is read from its number. -/
theorem readUnicodeEscape_control {c : Char} (small : c.toNat < 0x20)
    (here : cursor.rest = '0' :: '0' :: hexDigit (c.toNat / 16) :: hexDigit (c.toNat % 16) :: tail) :
    ∃ after, readUnicodeEscape cursor = .ok (c, after) ∧ after.rest = tail := by
  obtain ⟨after, four, left⟩ := fourBytesOn_four here rfl rfl (utf8Size_hexDigit _ (by omega))
    (utf8Size_hexDigit _ (by omega))
  have digits : (cursor.rest.take 4).mapM hexValue? = some [0, 0, c.toNat / 16, c.toNat % 16] := by
    rw [here]
    simp only [List.take_succ_cons, List.take_zero, List.mapM_cons, List.mapM_nil,
      hexValue?_hexDigit (c.toNat / 16) (by omega), hexValue?_hexDigit (c.toNat % 16) (by omega)]
    rfl
  have number : ((0 * 16 + 0) * 16 + c.toNat / 16) * 16 + c.toNat % 16 = c.toNat := by omega
  have read : readHex cursor = .ok (c.toNat, after) := by
    rw [readHex, four]
    simp only [digits, number]
  refine ⟨after, ?_, left⟩
  unfold readUnicodeEscape
  rw [read]
  change (if 0xDC00 ≤ c.toNat ∧ c.toNat ≤ 0xDFFF then _ else _) = _
  rw [if_neg (by omega), if_pos (.inl (by omega))]
  rw [Char.ofNat_toNat]
  rfl

theorem readString_letter {c letter : Char} (read : List Char) (other : letter ≠ 'u')
    (stands : simpleEscape? letter = some c) (here : cursor.rest = '\\' :: letter :: tail) :
    ∃ after, readString (fuel + 1) read cursor = readString fuel (c :: read) after ∧
      after.rest = tail := by
  refine ⟨(cursor.past '\\' (letter :: tail)).past letter tail, ?_, Cursor.rest_past ..⟩
  rw [readString, here]
  simp only [Cursor.rest_past, other, ↓reduceIte, stands]
  rfl

/-- What is written for a character is read as the character in one round. -/
theorem readString_escape (c : Char) (read : List Char) (here : cursor.rest = escape c ++ tail) :
    ∃ after, readString (fuel + 1) read cursor = readString fuel (c :: read) after ∧
      after.rest = tail := by
  unfold escape at here
  split_ifs at here with quote backslash backspace tab newline feed turn small
  · exact readString_letter read (by decide) (by rw [quote]; rfl) here
  · exact readString_letter read (by decide) (by rw [backslash]; rfl) here
  · exact readString_letter read (by decide) (by rw [backspace]; rfl) here
  · exact readString_letter read (by decide) (by rw [tab]; rfl) here
  · exact readString_letter read (by decide) (by rw [newline]; rfl) here
  · exact readString_letter read (by decide) (by rw [feed]; rfl) here
  · exact readString_letter read (by decide) (by rw [turn]; rfl) here
  · have escaped := Cursor.rest_past (cursor.past '\\' ('u' :: '0' :: '0' :: hexDigit (c.toNat / 16) ::
      hexDigit (c.toNat % 16) :: tail)) 'u' ('0' :: '0' :: hexDigit (c.toNat / 16) ::
        hexDigit (c.toNat % 16) :: tail)
    obtain ⟨after, found, left⟩ := readUnicodeEscape_control small escaped
    refine ⟨after, ?_, left⟩
    rw [readString, here]
    simp only [List.cons_append, List.nil_append, Cursor.rest_past, found]
    rfl
  · refine ⟨cursor.past c tail, ?_, Cursor.rest_past ..⟩
    rw [readString, here]
    simp only [List.singleton_append, quote, backslash, small, ↓reduceIte]

/-- A string is read to its closing quote. -/
theorem readString_leaves {chars : List Char} (read : List Char) (rounds : chars.length < fuel)
    (here : cursor.rest = chars.flatMap escape ++ '"' :: tail) :
    Leaves tail (readString fuel read cursor) := by
  induction chars generalizing fuel read cursor with
  | nil =>
    obtain ⟨fuel, rfl⟩ := Nat.exists_eq_succ_of_ne_zero rounds.ne'
    rw [List.flatMap_nil, List.nil_append] at here
    refine ⟨String.ofList read.reverse, cursor.past '"' tail, ?_, Cursor.rest_past ..⟩
    rw [readString, here]
    rfl
  | cons c rest ih =>
    obtain ⟨fuel, rfl⟩ := Nat.exists_eq_succ_of_ne_zero (Nat.ne_zero_of_lt rounds)
    rw [List.flatMap_cons, List.append_assoc] at here
    obtain ⟨after, same, left⟩ := readString_escape c read here
    rw [same]
    exact ih _ (Nat.lt_of_succ_lt_succ rounds) left

theorem length_le_flatMap_escape (chars : List Char) : chars.length ≤ (chars.flatMap escape).length := by
  have some (c : Char) : 0 < (escape c).length := by
    unfold escape
    split_ifs <;> exact Nat.succ_pos _
  induction chars with
  | nil => exact Nat.le_refl 0
  | cons c rest ih =>
    have := some c
    rw [List.flatMap_cons, List.length_append, List.length_cons]
    omega

/-- The rounds that there are for a string are enough. -/
theorem readString_quoted {text : String} (here : cursor.rest = text.toList.flatMap escape ++ '"' :: tail) :
    Leaves tail (readString (cursor.rest.length + 1) [] cursor) := by
  refine readString_leaves [] ?_ here
  have few := length_le_flatMap_escape text.toList
  rw [here, List.length_append]
  omega

/-! Starts. -/

theorem readWord_leaves {word : List Char} (document : Json) (here : cursor.rest = word ++ tail) :
    Leaves tail ((readWord word cursor).map (document, ·)) := by
  induction word generalizing cursor with
  | nil => exact ⟨document, cursor, rfl, here⟩
  | cons c rest ih =>
    rw [readWord, here]
    simp only [List.cons_append, ↓reduceIte]
    exact ih (Cursor.rest_past ..)

/-- That a character starts a document. -/
structure Starts (c : Char) : Prop where
  visible : isBlank c = false
  bracket : c ≠ ']'

theorem Starts.of_isDigit {c : Char} (digit : c.isDigit = true) : Starts c := by
  have other (d : Char) (none : d.isDigit = false) : c ≠ d := by
    rintro rfl
    exact Bool.false_ne_true (none.symm.trans digit)
  refine ⟨?_, other ']' rfl⟩
  rw [isBlank, beq_false_of_ne (other ' ' rfl), beq_false_of_ne (other '\n' rfl),
    beq_false_of_ne (other '\t' rfl), beq_false_of_ne (other '\r' rfl)]
  rfl

theorem Numeral.Readable.text_cons {n : Numeral} (readable : n.Readable) :
    ∃ first rest, n.text = first :: rest ∧ first.isDigit = true := by
  have digits := readable.wholeDigits
  rcases readable.whole with zero | ⟨first, rest, whole, -⟩
  · exact ⟨'0', _, by rw [text, zero]; rfl, rfl⟩
  · exact ⟨first, _, by rw [text, whole]; rfl, digits first (by rw [whole]; exact List.mem_cons_self)⟩

theorem skipBlanks_of_visible {c : Char} (visible : isBlank c = false) (here : cursor.rest = c :: tail) :
    skipBlanks cursor = cursor := by
  rw [skipBlanks, here, dropBlanks, visible, if_neg Bool.false_ne_true]

/-- A number is read, with its sign. -/
theorem readValue_number {n : Numeral} (readable : n.Readable) (negative : Bool) (ends : Ends tail)
    (here : cursor.rest = (if negative then ['-'] else []) ++ n.text ++ tail) :
    Leaves tail (readValue (fuel + 1) bound cursor) := by
  obtain ⟨first, rest, split, digit⟩ := readable.text_cons
  cases negative with
  | true =>
    rw [if_pos rfl, List.append_assoc, List.singleton_append] at here
    rw [readValue, skipBlanks_of_visible rfl here, here]
    exact readNumber_leaves readable (Cursor.rest_past ..) ends
  | false =>
    rw [if_neg Bool.false_ne_true, List.nil_append] at here
    have other (c : Char) (none : c.isDigit = false) : first ≠ c := by
      rintro rfl
      exact Bool.false_ne_true (none.symm.trans digit)
    have found : Leaves tail (readNumber false cursor) := readNumber_leaves readable here ends
    rw [split, List.cons_append] at here
    rw [readValue, skipBlanks_of_visible (Starts.of_isDigit digit).visible here, here]
    simp only [other 'n' rfl, other 't' rfl, other 'f' rfl, other '-' rfl, digit, ↓reduceIte]
    exact found

theorem toList_quote (text : String) :
    (quote text).toList = '"' :: (text.toList.flatMap escape ++ ['"']) := by
  simp only [quote, String.toList_append, String.toList_ofList]
  rfl

theorem toList_array (items : List Json) : (array items).write.toList =
    '[' :: ((String.intercalate "," (writeItems items)).toList ++ [']']) := by
  rw [write, String.toList_append, String.toList_append]
  rfl

theorem toList_object (members : List (String × Json)) : (object members).write.toList =
    '\x7b' :: ((String.intercalate "," (writeMembers members)).toList ++ ['\x7d']) := by
  rw [write, String.toList_append, String.toList_append]
  rfl

/-- The text of a document starts with a character that starts one. -/
theorem write_cons {document : Json} (wellFormed : document.WellFormed) :
    ∃ first rest, document.write.toList = first :: rest ∧ Starts first := by
  have of_sign {text : List Char} {n : Numeral} {negative : Prop} [Decidable negative]
      (readable : n.Readable) (same : text = (if negative then ['-'] else []) ++ n.text) :
      ∃ first rest, text = first :: rest ∧ Starts first := by
    obtain ⟨first, rest, split, digit⟩ := readable.text_cons
    by_cases sign : negative
    · rw [if_pos sign] at same
      exact ⟨'-', _, same, ⟨rfl, by decide⟩⟩
    · rw [if_neg sign, List.nil_append, split] at same
      exact ⟨first, rest, same, .of_isDigit digit⟩
  cases document with
  | null => exact ⟨'n', _, rfl, ⟨rfl, by decide⟩⟩
  | bool b =>
    cases b with
    | true => exact ⟨'t', _, rfl, ⟨rfl, by decide⟩⟩
    | false => exact ⟨'f', _, rfl, ⟨rfl, by decide⟩⟩
  | integer n =>
    obtain ⟨numeral, readable, same, -⟩ := text_integer wellFormed
    exact of_sign readable same
  | float x =>
    obtain ⟨numeral, readable, same, -⟩ := text_float wellFormed
    exact of_sign readable same
  | string text => exact ⟨'"', _, toList_quote text, ⟨rfl, by decide⟩⟩
  | array items => exact ⟨'[', _, toList_array items, ⟨rfl, by decide⟩⟩
  | object members => exact ⟨'\x7b', _, toList_object members, ⟨rfl, by decide⟩⟩

/-- That the text of a document is read to its end. -/
def IsRead (document : Json) : Prop :=
  ∀ {fuel bound : ℕ} {cursor : Cursor} {tail : List Char}, document.depth ≤ bound → Ends tail →
    cursor.rest = document.write.toList ++ tail → 2 * document.write.toList.length ≤ fuel →
    Leaves tail (readValue fuel bound cursor)

/-! Items. -/

/-- The characters of the items after the first one, with the commas. -/
def itemsText (items : List Json) : List Char := items.flatMap fun item => ',' :: item.write.toList

theorem toList_intercalate (first : String) (rest : List String) :
    (String.intercalate "," (first :: rest)).toList =
      first.toList ++ rest.flatMap fun text => ',' :: text.toList := by
  induction rest generalizing first with
  | nil => rw [String.intercalate_singleton, List.flatMap_nil, List.append_nil]
  | cons next more ih =>
    rw [String.intercalate_cons_cons, String.toList_append, String.toList_append, ih, List.flatMap_cons]
    simp only [List.append_assoc]
    rfl

theorem ends_itemsText (items : List Json) : Ends (itemsText items ++ ']' :: tail) := by
  cases items with
  | nil => exact List.mem_of_elem_eq_true rfl
  | cons item rest => exact List.mem_of_elem_eq_true rfl

/-- The first item is read in one round. -/
theorem readItems_first {item : Json} {rest : List Char} (wellFormed : item.WellFormed)
    (isRead : item.IsRead) (small : item.depth ≤ bound) (ends : Ends rest)
    (here : cursor.rest = item.write.toList ++ rest) (rounds : 2 * item.write.toList.length ≤ fuel)
    (read : List Json) :
    ∃ value after, readItems (fuel + 1) bound true read cursor =
      readItems fuel bound false (value :: read) after ∧ after.rest = rest := by
  obtain ⟨first, more, split, starts⟩ := write_cons wellFormed
  obtain ⟨value, after, found, left⟩ := isRead small ends here rounds
  have skipped : skipBlanks cursor = cursor :=
    skipBlanks_of_visible starts.visible (here.trans (by rw [split]; rfl))
  refine ⟨value, after, ?_, left⟩
  rw [split, List.cons_append] at here
  rw [readItems]
  simp only [skipped, here, starts.bracket, Bool.not_true, Bool.false_eq_true, false_and, ↓reduceIte,
    List.isEmpty_cons, found]

/-- An item after a comma is read in one round. -/
theorem readItems_next {item : Json} {rest : List Char} (wellFormed : item.WellFormed)
    (isRead : item.IsRead) (small : item.depth ≤ bound) (ends : Ends rest)
    (here : cursor.rest = ',' :: item.write.toList ++ rest) (rounds : 2 * item.write.toList.length ≤ fuel)
    (read : List Json) :
    ∃ value after, readItems (fuel + 1) bound false read cursor =
      readItems fuel bound false (value :: read) after ∧ after.rest = rest := by
  obtain ⟨first, more, split, starts⟩ := write_cons wellFormed
  have start := Cursor.rest_past cursor ',' (item.write.toList ++ rest)
  obtain ⟨value, after, found, left⟩ := isRead small ends start rounds
  have skipped : skipBlanks cursor = cursor := skipBlanks_of_visible rfl here
  have begun : (cursor.past ',' (item.write.toList ++ rest)).rest = first :: (more ++ rest) := by
    rw [start, split, List.cons_append]
  have next := Cursor.next_eq begun
  have blank := skipBlanks_of_visible starts.visible begun
  refine ⟨value, after, ?_, left⟩
  rw [readItems]
  simp only [skipped, here, List.cons_append, blank, next, starts.bracket, begun, List.isEmpty_cons, found,
    Bool.false_eq_true, and_false, ↓reduceIte, not_true_eq_false, ne_eq]
  rfl

/-- The items after the first one are read to the bracket. -/
theorem readItems_leaves {items read : List Json} (wellFormed : ∀ item ∈ items, item.WellFormed)
    (each : ∀ item ∈ items, item.IsRead) (small : ∀ item ∈ items, item.depth ≤ bound)
    (here : cursor.rest = itemsText items ++ ']' :: tail)
    (rounds : 2 * (itemsText items).length + 2 ≤ fuel) :
    Leaves tail (readItems fuel bound false read cursor) := by
  induction items generalizing fuel read cursor with
  | nil =>
    obtain ⟨fuel, rfl⟩ := Nat.exists_eq_succ_of_ne_zero (Nat.ne_zero_of_lt rounds)
    refine ⟨.array read.reverse, cursor.past ']' tail, ?_, Cursor.rest_past ..⟩
    rw [readItems, skipBlanks_of_visible rfl here, here]
    rfl
  | cons item rest ih =>
    obtain ⟨fuel, rfl⟩ := Nat.exists_eq_succ_of_ne_zero (Nat.ne_zero_of_lt rounds)
    obtain ⟨ready, wellFormed⟩ := List.forall_mem_cons.mp wellFormed
    obtain ⟨first, each⟩ := List.forall_mem_cons.mp each
    obtain ⟨shallow, small⟩ := List.forall_mem_cons.mp small
    rw [itemsText, List.flatMap_cons, List.append_assoc] at here
    rw [itemsText, List.flatMap_cons, List.length_append, List.length_cons] at rounds
    have fits : 2 * item.write.toList.length ≤ fuel := by omega
    obtain ⟨value, after, same, left⟩ := readItems_next ready first shallow (ends_itemsText rest) here
      fits read
    rw [same]
    refine ih wellFormed each small left ?_
    rw [itemsText]
    omega

theorem isRead_array {items : List Json} (wellFormed : (array items).WellFormed)
    (each : ∀ item ∈ items, item.WellFormed → item.IsRead) : (array items).IsRead := by
  intro fuel bound cursor tail small _ here rounds
  rw [WellFormed, itemsWellFormed_iff] at wellFormed
  rw [Json.depth] at small
  obtain ⟨bound, rfl⟩ := Nat.exists_eq_succ_of_ne_zero (Nat.ne_zero_of_lt small)
  replace small := itemsDepth_le_iff.mp (Nat.le_of_succ_le_succ small)
  rw [toList_array, List.length_cons, List.length_append, List.length_singleton] at rounds
  rw [toList_array, List.cons_append, List.append_assoc, List.singleton_append] at here
  obtain ⟨fuel, rfl⟩ := Nat.exists_eq_succ_of_ne_zero (by omega : fuel ≠ 0)
  have after := Cursor.rest_past cursor '['
    ((String.intercalate "," (writeItems items)).toList ++ ']' :: tail)
  rw [readValue, skipBlanks_of_visible rfl here, here]
  change Leaves tail (readItems fuel bound true [] _)
  rw [writeItems_eq] at rounds after ⊢
  obtain ⟨fuel, rfl⟩ := Nat.exists_eq_succ_of_ne_zero (by omega : fuel ≠ 0)
  cases items with
  | nil =>
    refine ⟨.array [], _, ?_, Cursor.rest_past (cursor.past '[' (']' :: tail)) ']' tail⟩
    rw [readItems, skipBlanks_of_visible rfl after, after]
    rfl
  | cons item rest =>
    rw [List.map_cons, toList_intercalate, List.flatMap_map] at rounds after ⊢
    rw [List.length_append] at rounds
    obtain ⟨ready, wellFormed⟩ := List.forall_mem_cons.mp wellFormed
    obtain ⟨first, each⟩ := List.forall_mem_cons.mp each
    obtain ⟨shallow, small⟩ := List.forall_mem_cons.mp small
    rw [List.append_assoc] at after ⊢
    have fits : 2 * item.write.toList.length ≤ fuel := by omega
    obtain ⟨value, next, same, left⟩ := readItems_first ready (first ready) shallow
      (ends_itemsText rest) after fits []
    rw [same]
    refine readItems_leaves wellFormed (fun item member => each item member (wellFormed item member))
      small left ?_
    rw [itemsText]
    omega

/-! Members. -/

/-- The characters of a member. -/
def memberText (member : String × Json) : List Char :=
  (quote member.1).toList ++ ':' :: member.2.write.toList

/-- The characters of the members after the first one, with the commas. -/
def membersText (members : List (String × Json)) : List Char :=
  members.flatMap fun member => ',' :: memberText member

theorem ends_membersText (members : List (String × Json)) : Ends (membersText members ++ '\x7d' :: tail) := by
  cases members with
  | nil => exact List.mem_of_elem_eq_true rfl
  | cons member rest => exact List.mem_of_elem_eq_true rfl

section Members

variable {member : String × Json} {rest : List Char}

/-- The name of a member is read to the colon, and then its value. -/
theorem member_leaves (isRead : member.2.IsRead) (small : member.2.depth ≤ bound) (ends : Ends rest)
    (here : cursor.rest = memberText member ++ rest) (rounds : 2 * member.2.write.toList.length ≤ fuel) :
    ∃ more name named colon value after, cursor.rest = '"' :: more ∧
      readString (more.length + 1) [] (cursor.past '"' more) = .ok (name, named) ∧
      skipBlanks named = named ∧ named.rest = ':' :: colon ∧
      readValue fuel bound (named.past ':' colon) = .ok (value, after) ∧ after.rest = rest := by
  rw [memberText, toList_quote, List.append_assoc, List.cons_append, List.append_assoc,
    List.singleton_append, List.cons_append] at here
  have opened := Cursor.rest_past cursor '"'
    (member.1.toList.flatMap escape ++ '"' :: ':' :: (member.2.write.toList ++ rest))
  obtain ⟨name, named, string, left⟩ := readString_quoted opened
  rw [opened] at string
  obtain ⟨value, after, found, last⟩ := isRead small ends (Cursor.rest_past named ':' _) rounds
  exact ⟨_, name, named, _, value, after, here, string, skipBlanks_of_visible rfl left, left, found, last⟩

/-- The first member is read in one round. -/
theorem readMembers_first (isRead : member.2.IsRead) (small : member.2.depth ≤ bound) (ends : Ends rest)
    (here : cursor.rest = memberText member ++ rest) (rounds : 2 * member.2.write.toList.length ≤ fuel)
    (read : List (String × Json)) :
    ∃ more after, readMembers (fuel + 1) bound true read cursor =
      readMembers fuel bound false more after ∧ after.rest = rest := by
  obtain ⟨more, name, named, colon, value, after, start, string, blank, mark, found, left⟩ :=
    member_leaves isRead small ends here rounds
  refine ⟨Fields.insert name value read, after, ?_, left⟩
  rw [readMembers]
  simp only [skipBlanks_of_visible rfl start, start, Char.reduceEq, Bool.not_true, Bool.false_eq_true,
    false_and, ↓reduceIte, ne_eq, not_true_eq_false, string, blank, mark, found]

/-- A member after a comma is read in one round. -/
theorem readMembers_next (isRead : member.2.IsRead) (small : member.2.depth ≤ bound) (ends : Ends rest)
    (here : cursor.rest = ',' :: memberText member ++ rest)
    (rounds : 2 * member.2.write.toList.length ≤ fuel) (read : List (String × Json)) :
    ∃ more after, readMembers (fuel + 1) bound false read cursor =
      readMembers fuel bound false more after ∧ after.rest = rest := by
  obtain ⟨more, name, named, colon, value, after, start, string, blank, mark, found, left⟩ :=
    member_leaves isRead small ends (Cursor.rest_past cursor ',' (memberText member ++ rest)) rounds
  refine ⟨Fields.insert name value read, after, ?_, left⟩
  rw [readMembers]
  simp only [skipBlanks_of_visible rfl here, here, List.cons_append, skipBlanks_of_visible rfl start, start,
    Char.reduceEq, Bool.false_eq_true, and_false, ↓reduceIte, ne_eq, not_true_eq_false, string, blank, mark,
    found]

end Members

/-- The members after the first one are read to the brace. -/
theorem readMembers_leaves {members read : List (String × Json)}
    (each : ∀ member ∈ members, member.2.IsRead) (small : ∀ member ∈ members, member.2.depth ≤ bound)
    (here : cursor.rest = membersText members ++ '\x7d' :: tail)
    (rounds : 2 * (membersText members).length + 2 ≤ fuel) :
    Leaves tail (readMembers fuel bound false read cursor) := by
  induction members generalizing fuel read cursor with
  | nil =>
    obtain ⟨fuel, rfl⟩ := Nat.exists_eq_succ_of_ne_zero (Nat.ne_zero_of_lt rounds)
    refine ⟨.object read, cursor.past '\x7d' tail, ?_, Cursor.rest_past ..⟩
    rw [readMembers, skipBlanks_of_visible rfl here, here]
    rfl
  | cons member rest ih =>
    obtain ⟨fuel, rfl⟩ := Nat.exists_eq_succ_of_ne_zero (Nat.ne_zero_of_lt rounds)
    obtain ⟨first, each⟩ := List.forall_mem_cons.mp each
    obtain ⟨shallow, small⟩ := List.forall_mem_cons.mp small
    rw [membersText, List.flatMap_cons, List.append_assoc] at here
    rw [membersText, List.flatMap_cons, List.length_append, List.length_cons, memberText, List.length_append,
      List.length_cons] at rounds
    have fits : 2 * member.2.write.toList.length ≤ fuel := by omega
    obtain ⟨more, after, same, left⟩ := readMembers_next first shallow (ends_membersText rest) here
      fits read
    rw [same]
    refine ih each small left ?_
    rw [membersText]
    omega

theorem isRead_object {members : List (String × Json)} (each : ∀ member ∈ members, member.2.IsRead) :
    (object members).IsRead := by
  intro fuel bound cursor tail small _ here rounds
  rw [Json.depth] at small
  obtain ⟨bound, rfl⟩ := Nat.exists_eq_succ_of_ne_zero (Nat.ne_zero_of_lt small)
  replace small := membersDepth_le_iff.mp (Nat.le_of_succ_le_succ small)
  rw [toList_object, List.length_cons, List.length_append, List.length_singleton] at rounds
  rw [toList_object, List.cons_append, List.append_assoc, List.singleton_append] at here
  obtain ⟨fuel, rfl⟩ := Nat.exists_eq_succ_of_ne_zero (by omega : fuel ≠ 0)
  have after := Cursor.rest_past cursor '\x7b'
    ((String.intercalate "," (writeMembers members)).toList ++ '\x7d' :: tail)
  rw [readValue, skipBlanks_of_visible rfl here, here]
  change Leaves tail (readMembers fuel bound true [] _)
  rw [writeMembers_eq] at rounds after ⊢
  obtain ⟨fuel, rfl⟩ := Nat.exists_eq_succ_of_ne_zero (by omega : fuel ≠ 0)
  cases members with
  | nil =>
    refine ⟨.object [], _, ?_, Cursor.rest_past (cursor.past '\x7b' ('\x7d' :: tail)) '\x7d' tail⟩
    rw [readMembers, skipBlanks_of_visible rfl after, after]
    rfl
  | cons member rest =>
    have text (member : String × Json) :
        (quote member.1 ++ ":" ++ member.2.write).toList = memberText member := by
      rw [String.toList_append, String.toList_append, List.append_assoc, memberText]
      rfl
    simp only [List.map_cons, toList_intercalate, List.flatMap_map, text] at rounds after ⊢
    rw [List.length_append, memberText, List.length_append, List.length_cons] at rounds
    obtain ⟨first, each⟩ := List.forall_mem_cons.mp each
    obtain ⟨shallow, small⟩ := List.forall_mem_cons.mp small
    rw [List.append_assoc] at after ⊢
    have fits : 2 * member.2.write.toList.length ≤ fuel := by omega
    obtain ⟨more, next, same, left⟩ := readMembers_first first shallow (ends_membersText rest) after fits []
    rw [same]
    refine readMembers_leaves each small left ?_
    rw [membersText]
    omega

/-- A document without parts needs one round. -/
theorem isRead_plain {document : Json} (wellFormed : document.WellFormed)
    (leaves : ∀ {fuel bound : ℕ} {cursor : Cursor} {tail : List Char}, Ends tail →
      cursor.rest = document.write.toList ++ tail → Leaves tail (readValue (fuel + 1) bound cursor)) :
    document.IsRead := by
  intro fuel bound cursor tail _ ends here rounds
  obtain ⟨first, rest, split, -⟩ := write_cons wellFormed
  rw [split, List.length_cons] at rounds
  obtain ⟨fuel, rfl⟩ := Nat.exists_eq_succ_of_ne_zero (by omega : fuel ≠ 0)
  exact leaves ends here

/-- The text of a document is read to its end. -/
theorem isRead_write {document : Json} (wellFormed : document.WellFormed) : document.IsRead := by
  induction document using induction with
  | null =>
    refine isRead_plain wellFormed fun {_ _ cursor tail} _ here => ?_
    replace here : cursor.rest = 'n' :: (['u', 'l', 'l'] ++ tail) := here
    rw [readValue, skipBlanks_of_visible rfl here, here]
    exact readWord_leaves null (Cursor.rest_past cursor 'n' (['u', 'l', 'l'] ++ tail))
  | bool b =>
    refine isRead_plain wellFormed fun {_ _ cursor tail} _ here => ?_
    cases b with
    | true =>
      replace here : cursor.rest = 't' :: (['r', 'u', 'e'] ++ tail) := here
      rw [readValue, skipBlanks_of_visible rfl here, here]
      exact readWord_leaves (bool true) (Cursor.rest_past cursor 't' (['r', 'u', 'e'] ++ tail))
    | false =>
      replace here : cursor.rest = 'f' :: (['a', 'l', 's', 'e'] ++ tail) := here
      rw [readValue, skipBlanks_of_visible rfl here, here]
      exact readWord_leaves (bool false) (Cursor.rest_past cursor 'f' (['a', 'l', 's', 'e'] ++ tail))
  | integer n =>
    obtain ⟨numeral, readable, text, -⟩ := text_integer wellFormed
    refine isRead_plain wellFormed fun ends here => readValue_number readable (decide (n < 0)) ends ?_
    rw [here, write, text]
    simp only [decide_eq_true_eq]
  | float x =>
    obtain ⟨numeral, readable, text, -⟩ := text_float wellFormed
    refine isRead_plain wellFormed fun ends here => readValue_number readable x.isNegative ends ?_
    rw [here, write, text]
  | string text =>
    refine isRead_plain wellFormed fun {_ _ cursor tail} _ here => ?_
    rw [write, toList_quote, List.cons_append, List.append_assoc, List.singleton_append] at here
    obtain ⟨read, after, found, left⟩ :=
      readString_quoted (Cursor.rest_past cursor '"' (text.toList.flatMap escape ++ '"' :: tail))
    refine ⟨.string read, after, ?_, left⟩
    rw [readValue, skipBlanks_of_visible rfl here, here]
    exact congrArg (Except.map (Prod.map Json.string id)) found
  | array items each => exact isRead_array wellFormed each
  | object members each =>
    rw [WellFormed, membersWellFormed_iff] at wellFormed
    exact isRead_object fun member among => each member among (wellFormed.2 member among)

/-- A document is accepted when its text is read, unless more containers stand in one another in it than
are allowed. -/
theorem read_write {document : Json} (wellFormed : document.WellFormed)
    (small : document.depth ≤ depthLimit) : ∃ again, read document.write = .ok again := by
  have here : (Cursor.ofString document.write).rest = document.write.toList ++ [] := (List.append_nil _).symm
  have rounds : 2 * document.write.toList.length ≤ 2 * (Cursor.ofString document.write).rest.length + 2 :=
    Nat.le_add_right ..
  obtain ⟨again, after, found, left⟩ := isRead_write wellFormed small (List.mem_of_elem_eq_true rfl) here rounds
  refine ⟨again, ?_⟩
  have blank : skipBlanks after = after := by rw [skipBlanks, left, dropBlanks]
  unfold read
  simp only [found]
  change (if (skipBlanks after).rest.isEmpty then _ else _) = _
  rw [blank, left]
  rfl

end ForeignBridge.Json
