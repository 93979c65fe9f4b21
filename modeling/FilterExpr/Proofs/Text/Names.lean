import FilterExpr.Proofs.Text.Tables
import FilterExpr.Text.Name

/-!
# FilterExpr.Proofs.Text.Names

The lower-case form of a field is again the name of a field (`isName_lowerField`), and it is a normal
form: taking it twice changes nothing (`lowerField_lowerField`). Both are laws of `lowerFieldChar`
first, one character at a time. The upper-case form of a function name is a normal form as well
(`upperName_upperName`).
-/

namespace FilterExpr.Text

theorem isNameChar_of_isLetter {c : Char} (h : isLetter c = true) : isNameChar c = true := by
  rw [isNameChar, h, Bool.true_or]

theorem isLetter_of_isNameChar {c : Char} (h : isNameChar c = true) (hc : c ≠ '_') :
    isLetter c = true := by
  simpa [isNameChar, hc] using h

theorem all_isNameChar_of_isName {cs : List Char} (h : isName cs = true) :
    cs.all isNameChar = true := by
  cases cs with
  | nil => rfl
  | cons c cs =>
    rw [isName, Bool.and_eq_true] at h
    rw [List.all_cons, isNameChar_of_isLetter h.1, h.2, Bool.true_and]

/-! ## Lower case inside a field -/

theorem lowerFieldChar_ne_nil (c : Char) : lowerFieldChar c ≠ [] := by
  rw [lowerFieldChar]
  split
  · exact lower_ne_nil c
  · simp

theorem all_isNameChar_lowerFieldChar {c : Char} (h : isNameChar c = true) :
    (lowerFieldChar c).all isNameChar = true := by
  rw [lowerFieldChar]
  split
  · assumption
  · simpa using h

/-- A letter does not become an underscore. -/
theorem isLetter_of_mem_lowerFieldChar {c d : Char} (h : isLetter c = true)
    (hd : d ∈ lowerFieldChar c) : isLetter d = true := by
  have hall := all_isNameChar_lowerFieldChar (isNameChar_of_isLetter h)
  refine isLetter_of_isNameChar (List.all_eq_true.mp hall d hd) ?_
  rintro rfl
  have hc : c = '_' := by
    rw [lowerFieldChar] at hd
    split at hd
    · exact eq_underscore_of_mem_lower hd
    · exact (List.mem_singleton.mp hd).symm
  subst hc
  exact absurd h (by decide)

theorem lowerFieldChar_of_mem {c d : Char} (h : d ∈ lowerFieldChar c) : lowerFieldChar d = [d] := by
  rw [lowerFieldChar] at h
  split at h
  · rw [lowerFieldChar, lower_of_mem_lower h, ite_self]
  · rename_i hc
    rw [List.mem_singleton.mp h, lowerFieldChar, if_neg hc]

/-! ## Fields -/

theorem isName_flatMap_lowerFieldChar {cs : List Char} (h : isName cs = true) :
    isName (cs.flatMap lowerFieldChar) = true := by
  cases cs with
  | nil => cases h
  | cons c cs =>
    rw [isName, Bool.and_eq_true] at h
    obtain ⟨hc, hcs⟩ := h
    obtain ⟨d, ds, hds⟩ := List.exists_cons_of_ne_nil (lowerFieldChar_ne_nil c)
    have hall := all_isNameChar_lowerFieldChar (isNameChar_of_isLetter hc)
    rw [hds, List.all_cons, Bool.and_eq_true] at hall
    have hrest : (cs.flatMap lowerFieldChar).all isNameChar = true := by
      rw [List.all_flatMap, List.all_eq_true]
      intro e he
      exact all_isNameChar_lowerFieldChar (List.all_eq_true.mp hcs e he)
    rw [List.flatMap_cons, hds, List.cons_append, isName, List.all_append, hall.2, hrest,
      isLetter_of_mem_lowerFieldChar hc (by rw [hds]; exact List.mem_cons_self)]
    rfl

theorem isName_lowerField {field : String} (h : isName field.toList = true) :
    isName (lowerField field).toList = true := by
  rw [lowerField, String.toList_ofList]
  exact isName_flatMap_lowerFieldChar h

/-! ## Normal forms -/

theorem lowerField_lowerField (field : String) : lowerField (lowerField field) = lowerField field := by
  rw [lowerField, lowerField, String.toList_ofList,
    flatMap_flatMap_of_kept fun _ _ => lowerFieldChar_of_mem]

theorem upperName_upperName (name : String) : upperName (upperName name) = upperName name := by
  rw [upperName, upperName, String.toList_ofList,
    flatMap_flatMap_of_kept fun _ _ => upper_of_mem_upper]

end FilterExpr.Text
