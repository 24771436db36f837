import ForeignBridge.Json.Basic
import ForeignBridge.Json.Reader
import ForeignBridge.Proofs.Json.Normal
import ForeignBridge.Proofs.Text.Without

/-! # Documents without null characters

There is no null character in the text of a document, whatever its strings are: it is written as an
escape in them. Nor is there one in what is said of a text that is no document.
-/

namespace ForeignBridge

/-! The digits of doubles. -/

namespace Layout

theorem nulFree_padded (width n : ℕ) : NulFree (padded width n) := by
  rw [padded, nulFree_ofList, List.mem_append, not_or]
  refine ⟨fun zero => ?_, NulFree.notMem_toDigits n⟩
  exact absurd (List.eq_of_mem_replicate zero) (by decide)

theorem nulFree_positional (d : Decimal) : NulFree (positional d) := by
  have digits := NulFree.notMem_toDigits d.digits
  have zeros (count : ℕ) : Char.ofNat 0 ∉ List.replicate count '0' :=
    fun zero => absurd (List.eq_of_mem_replicate zero) (by decide)
  unfold positional
  simp only
  split
  · refine .append (nulFree_ofList.mpr ?_) (show NulFree ".0" by decide)
    rw [List.mem_append, not_or]
    exact ⟨digits, zeros _⟩
  · rw [nulFree_ofList, List.mem_append, List.mem_cons, List.mem_append, not_or, not_or, not_or]
    refine ⟨?_, by decide, zeros _, fun member => digits (List.mem_of_mem_drop member)⟩
    split
    · decide
    · exact fun member => digits (List.mem_of_mem_take member)

theorem nulFree_scientific {layout : Layout} (plus : NulFree layout.plus) (d : Decimal) :
    NulFree (layout.scientific d) := by
  have digits := NulFree.notMem_toDigits d.digits
  unfold scientific
  simp only
  refine .append (.append (.append (nulFree_ofList.mpr ?_) (show NulFree "e" by decide)) ?_)
    (nulFree_padded _ _)
  · split
    · decide
    · rename_i first same
      rwa [same] at digits
    · rename_i first rest _ same
      rw [same, List.mem_cons, not_or] at digits
      rw [List.mem_cons, List.mem_cons, not_or, not_or]
      exact ⟨digits.1, by decide, digits.2⟩
  · split
    · decide
    · exact plus

/-- The text of a double has no null characters if the words of its layout have none. -/
theorem nulFree_write {layout : Layout} (plus : NulFree layout.plus)
    (notANumber : NulFree layout.notANumber) (infinite : NulFree layout.infinite) (x : Double) :
    NulFree (layout.write x) := by
  have sign : NulFree (if x.isNegative then "-" else "") := by split <;> decide
  unfold write
  split
  · exact notANumber
  · simp only
    split
    · exact sign.append infinite
    · split
      · exact sign.append (by decide)
      · refine sign.append ?_
        unfold decimal
        split
        · exact nulFree_positional _
        · exact nulFree_scientific plus _

end Layout

namespace Json

/-! Strings. -/

theorem hexDigit_ne_nul : ∀ n < 16, hexDigit n ≠ Char.ofNat 0 := by decide

/-- A null character in a string is one of those that are written by number. -/
theorem nul_notMem_escape (c : Char) : Char.ofNat 0 ∉ escape c := by
  have plain (left right : Char) (apart : left ≠ Char.ofNat 0 ∧ right ≠ Char.ofNat 0) :
      Char.ofNat 0 ∉ [left, right] := by
    rw [List.mem_cons, List.mem_singleton, not_or]
    exact ⟨apart.1.symm, apart.2.symm⟩
  unfold escape
  split_ifs with _ _ _ _ _ _ _ small
  iterate 7 exact plain _ _ (by decide)
  · have mark : Char.ofNat 0 ∉ ['\\', 'u', '0', '0'] := by decide
    have digits := plain _ _ ⟨hexDigit_ne_nul (c.toNat / 16) (by omega),
      hexDigit_ne_nul (c.toNat % 16) (by omega)⟩
    exact fun member => (List.mem_append.mp member).elim mark digits
  · intro member
    rw [← List.mem_singleton.mp member] at small
    exact small (by decide)

theorem nulFree_quote (text : String) : NulFree (quote text) := by
  refine .append (.append (show NulFree "\"" by decide) ?_) (show NulFree "\"" by decide)
  rw [nulFree_ofList, List.mem_flatMap]
  rintro ⟨c, -, member⟩
  exact nul_notMem_escape c member

theorem writeItems_eq (items : List Json) : writeItems items = items.map write := by
  induction items with
  | nil => rfl
  | cons item rest ih => rw [writeItems, ih, List.map_cons]

theorem writeMembers_eq (members : List (String × Json)) :
    writeMembers members = members.map fun member => quote member.1 ++ ":" ++ member.2.write := by
  induction members with
  | nil => rfl
  | cons member rest ih => rw [writeMembers, ih, List.map_cons]

/-- There is no null character in the text of a document. -/
theorem nulFree_write (document : Json) : NulFree document.write := by
  induction document using induction with
  | null => decide
  | bool b => cases b <;> decide
  | integer n => exact .int n
  | float x => exact Layout.nulFree_write (by decide) (by decide) (by decide) x
  | string text => exact nulFree_quote text
  | array items each =>
    have texts : ∀ text ∈ writeItems items, NulFree text := by
      rw [writeItems_eq]
      exact List.forall_mem_map.mpr each
    rw [write]
    exact .append (.append (show NulFree "[" by decide) (.intercalate (by decide) texts))
      (show NulFree "]" by decide)
  | object members each =>
    have texts : ∀ text ∈ writeMembers members, NulFree text := by
      rw [writeMembers_eq]
      refine List.forall_mem_map.mpr fun member among => ?_
      exact .append (.append (nulFree_quote _) (show NulFree ":" by decide)) (each member among)
    rw [write]
    exact .append (.append (show NulFree "\x7b" by decide) (.intercalate (by decide) texts))
      (show NulFree "\x7d" by decide)

/-- There is no null character in what is said of a fault. -/
theorem Fault.nulFree_message (fault : Fault) : NulFree fault.message := by
  have cause : NulFree fault.cause.text := by cases fault.cause <;> decide
  exact (((cause.append (show NulFree " at line " by decide)).append (.nat _)).append
    (show NulFree " column " by decide)).append (.nat _)

end Json

end ForeignBridge
