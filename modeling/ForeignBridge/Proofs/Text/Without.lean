import Mathlib.Data.String.Basic
import ForeignBridge.Error

/-! # Texts without some character

A text is split at a character as the list of its characters is. So a text has just one list of segments
without the character that make it up when the character is put between them.

A text without null characters is the whole of what is read up to the first of them. Numbers are such
texts, and so is what is put together of such texts.
-/

namespace ForeignBridge.Text

open String (utf8Len)

/-- What has been split off stands first, and what is left is split as its characters are. The piece that
is being read lies between both. -/
private theorem splitOnAux_ofList (separator : Char) (done piece left : List Char)
    (parts : List String) :
    String.splitOnAux (String.ofList (done ++ piece ++ left)) (String.ofList [separator])
        ⟨utf8Len done⟩ ⟨utf8Len done + utf8Len piece⟩ 0 parts =
      parts.reverse ++
        (List.splitOnPPrepend (· == separator) left piece.reverse).map String.ofList := by
  -- The separator is read to its end by one step.
  have only : String.Pos.Raw.get (String.ofList [separator]) 0 = separator :=
    String.get_of_valid [] [separator]
  have step : String.Pos.Raw.next (String.ofList [separator]) 0 = ⟨separator.utf8Size⟩ := by
    have next := String.next_of_valid [] separator []
    rwa [String.utf8Len_nil, Nat.zero_add] at next
  have last : String.Pos.Raw.atEnd (String.ofList [separator]) ⟨separator.utf8Size⟩ = true := by
    have ended := (String.atEnd_of_valid [separator] []).mpr rfl
    rwa [String.utf8Len_cons, String.utf8Len_nil, Nat.zero_add] at ended
  induction left generalizing done piece parts with
  | nil =>
    have ended := (String.atEnd_of_valid (done ++ piece) []).mpr rfl
    rw [String.utf8Len_append] at ended
    rw [String.splitOnAux, ended]
    simp only [↓reduceIte]
    rw [String.extract_of_valid done piece [], List.reverse_cons, List.splitOnPPrepend_nil,
      List.reverse_reverse]
    rfl
  | cons char rest ih =>
    have going : String.Pos.Raw.atEnd (String.ofList (done ++ piece ++ char :: rest))
        ⟨utf8Len (done ++ piece)⟩ = false := by
      rw [Bool.eq_false_iff]
      exact (String.atEnd_of_valid (done ++ piece) (char :: rest)).not.mpr (List.cons_ne_nil _ _)
    have here := String.get_of_valid (done ++ piece) (char :: rest)
    have next := String.next_of_valid (done ++ piece) char rest
    rw [String.utf8Len_append] at going here next
    rw [String.splitOnAux, going, here, List.headD_cons, only, List.splitOnPPrepend_cons_eq_if]
    by_cases same : char = separator
    · subst same
      have back : String.Pos.Raw.unoffsetBy ⟨utf8Len done + utf8Len piece + char.utf8Size⟩
          ⟨char.utf8Size⟩ = ⟨utf8Len done + utf8Len piece⟩ := by
        rw [String.Pos.Raw.unoffsetBy, Nat.add_sub_cancel]
      have later := ih (done ++ piece ++ [char]) [] (String.ofList piece :: parts)
      simp only [String.utf8Len_append, String.utf8Len_cons, String.utf8Len_nil, Nat.zero_add,
        Nat.add_zero, List.append_nil, List.append_assoc, List.singleton_append] at later
      simp only [Bool.false_eq_true, beq_self_eq_true, ↓reduceIte, step, last, next, back,
        String.extract_of_valid done piece (char :: rest)]
      simpa [Nat.add_assoc] using later
    · have other : (char == separator) = false := beq_false_of_ne same
      have back : String.Pos.Raw.unoffsetBy ⟨utf8Len done + utf8Len piece⟩ 0 =
          ⟨utf8Len done + utf8Len piece⟩ := rfl
      have later := ih done (piece ++ [char]) parts
      simp only [Bool.false_eq_true, ↓reduceIte, other, back, next]
      simpa [Nat.add_assoc] using later

/-- A text is split at a character as its characters are. -/
theorem splitOn_eq (text : String) (separator : Char) :
    text.splitOn (String.ofList [separator]) =
      (text.toList.splitOn separator).map String.ofList := by
  have whole := splitOnAux_ofList separator [] [] text.toList []
  rw [String.splitOn, if_neg (by simp)]
  simpa [List.splitOn] using whole

/-- The character is in none of the pieces between. -/
private theorem notMem_splitOn {separator : Char} {chars : List Char} :
    ∀ piece ∈ chars.splitOn separator, separator ∉ piece := by
  induction chars with
  | nil => simp
  | cons char rest ih =>
    rw [List.splitOn_cons_eq_if_modifyHead]
    by_cases same : char = separator
    · simpa [same] using ih
    · rw [if_neg (by simpa using same)]
      cases pieces : rest.splitOn separator with
      | nil => simp
      | cons first others =>
        rw [pieces, List.forall_mem_cons] at ih
        rw [List.modifyHead_cons, List.forall_mem_cons, List.mem_cons, not_or]
        exact ⟨⟨Ne.symm same, ih.1⟩, ih.2⟩

/-- Texts without a character that make up a text when the character is put between them. -/
structure Segments (separator : Char) (text : String) (segments : List String) : Prop where
  nonempty : segments ≠ []
  apart : ∀ segment ∈ segments, separator ∉ segment.toList
  joined : (String.ofList [separator]).intercalate segments = text

/-- Every text is made up of one list of segments, those it is split into. -/
theorem segments_iff {separator : Char} {text : String} {segments : List String} :
    Segments separator text segments ↔ segments = text.splitOn (String.ofList [separator]) := by
  rw [splitOn_eq]
  constructor
  · rintro ⟨nonempty, apart, rfl⟩
    rw [String.toList_intercalate, String.toList_ofList, List.splitOn_intercalate separator
      (List.forall_mem_map.mpr apart) (by simpa using nonempty), List.map_map]
    simp
  · rintro rfl
    refine ⟨by simp, List.forall_mem_map.mpr fun piece member => ?_, String.toList_injective ?_⟩
    · rw [String.toList_ofList]
      exact notMem_splitOn piece member
    · rw [String.toList_intercalate, List.map_map]
      simp

/-- A text without the character is one segment. -/
theorem splitOn_of_not_mem {text : String} {separator : Char} (plain : separator ∉ text.toList) :
    text.splitOn (String.ofList [separator]) = [text] := by
  refine (segments_iff.mp ⟨List.cons_ne_nil _ _, List.forall_mem_singleton.mpr plain, ?_⟩).symm
  exact String.intercalate_singleton

theorem splitOn_dot {text : String} (plain : '.' ∉ text.toList) : text.splitOn "." = [text] :=
  splitOn_of_not_mem plain

end ForeignBridge.Text

namespace ForeignBridge

/-- There is no null character in a text. -/
def NulFree (text : String) : Prop := Char.ofNat 0 ∉ text.toList

instance (text : String) : Decidable (NulFree text) :=
  inferInstanceAs (Decidable (Char.ofNat 0 ∉ text.toList))

theorem nulFree_ofList {chars : List Char} : NulFree (String.ofList chars) ↔ Char.ofNat 0 ∉ chars := by
  rw [NulFree, String.toList_ofList]

namespace NulFree

theorem append {first second : String} (left : NulFree first) (right : NulFree second) :
    NulFree (first ++ second) := by
  rw [NulFree, String.toList_append, List.mem_append, not_or]
  exact ⟨left, right⟩

theorem intercalate {separator : String} (between : NulFree separator) {parts : List String}
    (each : ∀ part ∈ parts, NulFree part) : NulFree (separator.intercalate parts) := by
  induction parts with
  | nil => exact List.not_mem_nil
  | cons part rest ih =>
    obtain ⟨first, others⟩ := List.forall_mem_cons.mp each
    cases rest with
    | nil => rwa [String.intercalate_singleton]
    | cons next more =>
      rw [String.intercalate_cons_cons]
      exact (first.append between).append (ih others)

/-! Numbers. -/

theorem notMem_toDigits (n : Nat) : Char.ofNat 0 ∉ Nat.toDigits 10 n := by
  intro member
  have digit := Nat.isDigit_of_mem_toDigits (by decide) (by decide) member
  exact absurd digit (by decide)

theorem nat (n : Nat) : NulFree (toString n) := by
  rw [Nat.toString_eq_ofList_toDigits, nulFree_ofList]
  exact notMem_toDigits n

theorem int (n : Int) : NulFree (toString n) := by
  cases n with
  | ofNat n => exact nat n
  | negSucc n => exact append (show NulFree "-" by decide) (nat (n + 1))

end NulFree

/-! Null characters that are spelt out. -/

theorem toList_spellNuls (text : String) : (spellNuls text).toList =
    text.toList.flatMap fun c => if c = Char.ofNat 0 then ['\\', '0'] else [c] :=
  String.toList_ofList

/-- There are no null characters where they are spelt out. -/
theorem nulFree_spellNuls (text : String) : NulFree (spellNuls text) := by
  rw [NulFree, toList_spellNuls, List.mem_flatMap]
  rintro ⟨c, -, member⟩
  split at member
  · exact absurd member (by decide)
  · rename_i other
    exact other (List.mem_singleton.mp member).symm

/-- Where there are none, nothing is spelt out. -/
theorem spellNuls_of_nulFree {text : String} (clean : NulFree text) : spellNuls text = text := by
  refine String.toList_injective ?_
  rw [toList_spellNuls]
  rw [NulFree] at clean
  generalize text.toList = chars at clean
  induction chars with
  | nil => rfl
  | cons c rest ih =>
    rw [List.mem_cons, not_or] at clean
    rw [List.flatMap_cons, if_neg (Ne.symm clean.1), ih clean.2, List.singleton_append]

theorem spellNuls_ne_empty {text : String} (said : text ≠ "") : spellNuls text ≠ "" := by
  intro empty
  have none : (spellNuls text).toList = [] := by
    rw [empty]
    rfl
  rw [toList_spellNuls, List.flatMap_eq_nil_iff] at none
  refine said (String.toList_injective (List.eq_nil_iff_forall_not_mem.mpr fun c member => ?_))
  have nothing := none c member
  split at nothing <;> cases nothing

end ForeignBridge
