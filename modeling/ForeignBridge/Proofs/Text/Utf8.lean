import ForeignBridge.Proofs.Value.Normal
import ForeignBridge.Text.Utf8

/-! # Texts and their bytes

Texts have the order of their bytes. The bytes of a text are read as the text. The first byte of each character says what is owed, and each
byte that follows is within the bounds for its place: what is read of a character in the end is its
number.
-/

namespace ForeignBridge.Value

/-! The order of texts. -/

theorem bytes_eq (text : String) : bytes text = text.toList.flatMap String.utf8EncodeChar := by
  rw [bytes, String.toUTF8_eq_toByteArray, ← String.utf8Encode_toList, List.utf8Encode,
    List.toList_data_toByteArray]

/-- Two sequences of bytes are ordered by their first bytes, and then by the rest. -/
private theorem cons_lt {a b : ℕ} {left right : List UInt8} (small : b < 256) (le : a ≤ b)
    (rest : a = b → left < right) : UInt8.ofNat a :: left < UInt8.ofNat b :: right := by
  rw [List.cons_lt_cons_iff]
  rcases Nat.lt_or_eq_of_le le with less | same
  · left
    rw [UInt8.lt_iff_toNat_lt, UInt8.toNat_ofNat', UInt8.toNat_ofNat', Nat.mod_eq_of_lt small,
      Nat.mod_eq_of_lt (by omega)]
    exact less
  · exact .inr ⟨same ▸ rfl, rest same⟩

/-- The bytes of a lesser character come first, whatever follows. -/
private theorem encode_lt {c d : Char} (less : c < d) (left right : List UInt8) :
    String.utf8EncodeChar c ++ left < String.utf8EncodeChar d ++ right := by
  have bound : d.val.toNat < 0x110000 := by
    rcases d.valid with low | high
    · exact low.trans (by decide)
    · exact high.2
  have less : c.val.toNat < d.val.toNat := less
  unfold String.utf8EncodeChar
  generalize c.val.toNat = m at less
  generalize d.val.toNat = n at less bound
  simp only
  split
  · split
    · exact cons_lt (by omega) (by omega) (by omega)
    · split
      · exact cons_lt (by omega) (by omega) (by omega)
      · split
        · exact cons_lt (by omega) (by omega) (by omega)
        · exact cons_lt (by omega) (by omega) (by omega)
  · split
    · rw [if_neg (by omega)]
      split
      · exact cons_lt (by omega) (by omega) fun _ => cons_lt (by omega) (by omega) (by omega)
      · split
        · exact cons_lt (by omega) (by omega) (by omega)
        · exact cons_lt (by omega) (by omega) (by omega)
    · split
      · rw [if_neg (by omega), if_neg (by omega)]
        split
        · exact cons_lt (by omega) (by omega) fun _ => cons_lt (by omega) (by omega) fun _ =>
            cons_lt (by omega) (by omega) (by omega)
        · exact cons_lt (by omega) (by omega) (by omega)
      · rw [if_neg (by omega), if_neg (by omega), if_neg (by omega)]
        exact cons_lt (by omega) (by omega) fun _ => cons_lt (by omega) (by omega) fun _ =>
          cons_lt (by omega) (by omega) fun _ => cons_lt (by omega) (by omega) (by omega)

/-- Texts have the order of their bytes. -/
theorem bytes_lt {a b : String} (less : a < b) : bytes a < bytes b := by
  have order (left right : List Char) (less : left < right) :
      left.flatMap String.utf8EncodeChar < right.flatMap String.utf8EncodeChar := by
    induction less with
    | @nil c rest =>
      rw [List.flatMap_nil, List.flatMap_cons]
      cases bytes : String.utf8EncodeChar c with
      | nil => exact (String.utf8EncodeChar_ne_nil bytes).elim
      | cons byte more => exact .nil
    | rel less =>
      rw [List.flatMap_cons, List.flatMap_cons]
      exact encode_lt less _ _
    | cons _ ih =>
      rw [List.flatMap_cons, List.flatMap_cons]
      exact List.append_left_lt ih
  rw [bytes_eq, bytes_eq]
  exact order _ _ less

end ForeignBridge.Value

namespace ForeignBridge.Utf8

/-! Reading. -/

variable {index start code width : ℕ} {rest : List UInt8}

theorem toNat_ofNat (small : width < 256) : (UInt8.ofNat width).toNat = width := by
  rw [UInt8.toNat_ofNat', Nat.mod_eq_of_lt small]

/-- A first byte after which nothing is owed. -/
theorem decodeFrom_single (lead : lead? width = some (code, [])) (small : width < 256) :
    decodeFrom index index 0 [] (UInt8.ofNat width :: rest) =
      (decodeFrom (index + 1) (index + 1) 0 [] rest).map (Char.ofNat code :: ·) := by
  rw [decodeFrom, toNat_ofNat small]
  simp only [lead]
  rfl

/-- A first byte after which something is owed. -/
theorem decodeFrom_lead {bounds : ℕ × ℕ} {owed : List (ℕ × ℕ)}
    (lead : lead? width = some (code, bounds :: owed)) (small : width < 256) :
    decodeFrom index index 0 [] (UInt8.ofNat width :: rest) =
      decodeFrom (index + 1) index code (bounds :: owed) rest := by
  rw [decodeFrom, toNat_ofNat small]
  simp only [lead]

/-- A byte within its bounds after which more is owed. -/
theorem decodeFrom_tail {low high : ℕ} {bounds : ℕ × ℕ} {owed : List (ℕ × ℕ)}
    (within : low ≤ width ∧ width ≤ high) (small : width < 256) :
    decodeFrom index start code ((low, high) :: bounds :: owed) (UInt8.ofNat width :: rest) =
      decodeFrom (index + 1) start (code * 64 + width % 64) (bounds :: owed) rest := by
  rw [decodeFrom, toNat_ofNat small, if_pos within, List.isEmpty_cons, if_neg Bool.false_ne_true]

/-- The last byte that is owed. -/
theorem decodeFrom_last {low high : ℕ} (within : low ≤ width ∧ width ≤ high) (small : width < 256) :
    decodeFrom index start code [(low, high)] (UInt8.ofNat width :: rest) =
      (decodeFrom (index + 1) (index + 1) 0 [] rest).map
        (Char.ofNat (code * 64 + width % 64) :: ·) := by
  rw [decodeFrom, toNat_ofNat small, if_pos within, List.isEmpty_nil, if_pos rfl]
  rfl

/-! First bytes. -/

theorem lead?_one (low : width ≤ 127) : lead? width = some (width, []) := by
  rw [lead?, if_pos low]

theorem lead?_two {n : ℕ} (least : 127 < n) (most : n ≤ 2047) :
    lead? (n / 64 % 32 + 192) = some (n / 64, [tail]) := by
  have bits : (n / 64 % 32 + 192) % 32 = n / 64 := by omega
  rw [lead?, if_neg (by omega), if_pos (by omega), bits]

/-- What follows the first byte of three is bounded so that no character is written in too many bytes,
and none is half of a pair. -/
theorem lead?_three {n : ℕ} (least : 2047 < n) (most : n ≤ 65535) (valid : n < 0xD800 ∨ 0xDFFF < n) :
    ∃ low high, lead? (n / 4096 % 16 + 224) = some (n / 4096, [(low, high), tail]) ∧
      low ≤ n / 64 % 64 + 128 ∧ n / 64 % 64 + 128 ≤ high := by
  have bits : (n / 4096 % 16 + 224) % 16 = n / 4096 := by omega
  rw [lead?, if_neg (by omega), if_neg (by omega)]
  split
  · have none : n / 4096 = 0 := by omega
    exact ⟨0xA0, 0xBF, by rw [none], by omega, by omega⟩
  · split
    · have last : n / 4096 = 13 := by omega
      exact ⟨0x80, 0x9F, by rw [last], by omega, by omega⟩
    · rw [if_pos (by omega), bits]
      exact ⟨0x80, 0xBF, rfl, by omega, by omega⟩

/-- What follows the first byte of four is bounded so that no character is written in too many bytes,
and none is too large. -/
theorem lead?_four {n : ℕ} (least : 65535 < n) (most : n < 0x110000) :
    ∃ low high, lead? (n / 262144 % 8 + 240) = some (n / 262144, [(low, high), tail, tail]) ∧
      low ≤ n / 4096 % 64 + 128 ∧ n / 4096 % 64 + 128 ≤ high := by
  have bits : (n / 262144 % 8 + 240) % 8 = n / 262144 := by omega
  rw [lead?, if_neg (by omega), if_neg (by omega), if_neg (by omega), if_neg (by omega),
    if_neg (by omega)]
  split
  · have none : n / 262144 = 0 := by omega
    exact ⟨0x90, 0xBF, by rw [none], by omega, by omega⟩
  · split
    · rw [bits]
      exact ⟨0x80, 0xBF, rfl, by omega, by omega⟩
    · have last : n / 262144 = 4 := by omega
      rw [if_pos (by omega), last]
      exact ⟨0x80, 0x8F, rfl, by omega, by omega⟩

/-- The bytes of a character are read as the character. -/
theorem decodeFrom_encode (c : Char) (index : ℕ) (rest : List UInt8) :
    ∃ next, decodeFrom index index 0 [] (String.utf8EncodeChar c ++ rest) =
      (decodeFrom next next 0 [] rest).map (c :: ·) := by
  have valid : c.toNat < 0xD800 ∨ 0xDFFF < c.toNat ∧ c.toNat < 0x110000 := c.valid
  have same : Char.ofNat c.toNat = c := Char.ofNat_toNat c
  unfold String.utf8EncodeChar
  rw [Char.toNat_val]
  generalize c.toNat = n at valid same
  simp only
  split
  · rename_i low
    exact ⟨_, same ▸ decodeFrom_single (lead?_one low) (by omega)⟩
  · split
    · have whole : n / 64 * 64 + (n % 64 + 128) % 64 = n := by omega
      simp only [List.cons_append, List.nil_append]
      rw [decodeFrom_lead (lead?_two (by omega) (by omega)) (by omega), tail,
        decodeFrom_last (by omega) (by omega), whole, same]
      exact ⟨_, rfl⟩
    · split
      · have whole : (n / 4096 * 64 + (n / 64 % 64 + 128) % 64) * 64 + (n % 64 + 128) % 64 = n := by
          omega
        obtain ⟨low, high, lead, within⟩ :=
          @lead?_three n (by omega) (by omega) (valid.imp_right And.left)
        simp only [List.cons_append, List.nil_append]
        rw [decodeFrom_lead lead (by omega), decodeFrom_tail within (by omega), tail,
          decodeFrom_last (by omega) (by omega), whole, same]
        exact ⟨_, rfl⟩
      · have whole : ((n / 262144 * 64 + (n / 4096 % 64 + 128) % 64) * 64 +
            (n / 64 % 64 + 128) % 64) * 64 + (n % 64 + 128) % 64 = n := by omega
        obtain ⟨low, high, lead, within⟩ := @lead?_four n (by omega) (by omega)
        simp only [List.cons_append, List.nil_append]
        rw [decodeFrom_lead lead (by omega), decodeFrom_tail within (by omega), tail,
          decodeFrom_tail (by omega) (by omega), decodeFrom_last (by omega) (by omega), whole, same]
        exact ⟨_, rfl⟩

/-- The bytes of a text are read as the text. -/
theorem decode_bytes (text : String) : decode (Value.bytes text) = .ok text := by
  have characters (chars : List Char) (index : ℕ) :
      decodeFrom index index 0 [] (chars.flatMap String.utf8EncodeChar) = .ok chars := by
    induction chars generalizing index with
    | nil => rfl
    | cons c more ih =>
      obtain ⟨next, step⟩ := decodeFrom_encode c index (more.flatMap String.utf8EncodeChar)
      rw [List.flatMap_cons, step, ih]
      rfl
  rw [decode, Value.bytes_eq, characters]
  exact congrArg Except.ok String.ofList_toList

/-- Only the null character has a null byte. -/
theorem ne_zero_of_mem_encode {c : Char} (some : c.toNat ≠ 0) :
    ∀ byte ∈ String.utf8EncodeChar c, byte ≠ 0 := by
  have positive {n : ℕ} (some : n ≠ 0) (small : n < 256) : UInt8.ofNat n ≠ 0 := by
    intro same
    have none := congrArg UInt8.toNat same
    rw [toNat_ofNat small] at none
    exact some none
  -- Every byte of a character of several bytes is 128 or more.
  have large (n : ℕ) {k : ℕ} (mark : 0 < k) (small : n + k < 256) : UInt8.ofNat (n + k) ≠ 0 :=
    positive (by omega) small
  unfold String.utf8EncodeChar
  rw [Char.toNat_val]
  generalize c.toNat = n at some
  simp only
  split
  · exact List.forall_mem_singleton.mpr (positive some (by omega))
  · split
    · refine List.forall_mem_cons.mpr ⟨large _ (by decide) (by omega), ?_⟩
      exact List.forall_mem_singleton.mpr (large _ (by decide) (by omega))
    · split
      · refine List.forall_mem_cons.mpr ⟨large _ (by decide) (by omega), ?_⟩
        refine List.forall_mem_cons.mpr ⟨large _ (by decide) (by omega), ?_⟩
        exact List.forall_mem_singleton.mpr (large _ (by decide) (by omega))
      · refine List.forall_mem_cons.mpr ⟨large _ (by decide) (by omega), ?_⟩
        refine List.forall_mem_cons.mpr ⟨large _ (by decide) (by omega), ?_⟩
        refine List.forall_mem_cons.mpr ⟨large _ (by decide) (by omega), ?_⟩
        exact List.forall_mem_singleton.mpr (large _ (by decide) (by omega))

/-- There is no null byte in a text without null characters. -/
theorem zero_notMem_bytes {text : String} (clean : Char.ofNat 0 ∉ text.toList) :
    0 ∉ Value.bytes text := by
  rw [Value.bytes_eq, List.mem_flatMap]
  rintro ⟨c, member, zero⟩
  refine ne_zero_of_mem_encode (fun none => ?_) 0 zero rfl
  rw [← Char.ofNat_toNat c, none] at member
  exact clean member

end ForeignBridge.Utf8
