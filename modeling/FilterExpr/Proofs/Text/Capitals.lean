import FilterExpr.Proofs.Text.Tables
import FilterExpr.Text.Name

/-!
# FilterExpr.Proofs.Text.Capitals

The capitals from `A` to `Z` and their small letters. `Char.toLower` changes these capitals and nothing
else, so whatever a capital shares with its small letter is kept by `Char.toLower`: being a letter or a
blank, the number of bytes, and the images under both case maps. Names that agree up to capitals
therefore have the same normal forms (`upperName_toLower`, `lowerField_toLower`).
-/

namespace FilterExpr.Text

def capitals : List Char := (List.range' 0x41 26).map Char.ofNat

theorem mem_capitals_of_isUpper {c : Char} (h : c.isUpper = true) : c ∈ capitals := by
  have hrange : 'A'.val ≤ c.val ∧ c.val ≤ 'Z'.val := of_decide_eq_true h
  have hfirst : 0x41 ≤ c.toNat := UInt32.le_iff_toNat_le.mp hrange.1
  have hlast : c.toNat ≤ 0x5A := UInt32.le_iff_toNat_le.mp hrange.2
  refine List.mem_map.mpr ⟨c.toNat, ?_, Char.ofNat_toNat c⟩
  rw [List.mem_range'_1]
  omega

theorem toLower_of_not_isUpper {c : Char} (h : ¬c.isUpper = true) : c.toLower = c := by
  refine dif_neg ?_
  rintro ⟨hfirst, hlast⟩
  exact h (decide_eq_true ⟨hfirst, hlast⟩)

/-- A law of characters that holds of the capitals is a law of `Char.toLower`. -/
theorem apply_toLower {α : Type} {f : Char → α}
    (h : capitals.map (fun c => f c.toLower) = capitals.map f) (c : Char) : f c.toLower = f c := by
  by_cases hc : c.isUpper = true
  · exact List.map_inj_left.mp h c (mem_capitals_of_isUpper hc)
  · rw [toLower_of_not_isUpper hc]

/-- What a capital shares with its small letter. -/
structure Traits where
  letter : Bool
  nameChar : Bool
  blank : Bool
  digit : Bool
  bytes : Nat
  upper : List Char
  lowerField : List Char
  deriving DecidableEq

def Traits.of (c : Char) : Traits :=
  ⟨isLetter c, isNameChar c, isBlank c, c.isDigit, c.utf8Size, Text.upper c, lowerFieldChar c⟩

theorem Traits.of_toLower (c : Char) : Traits.of c.toLower = Traits.of c :=
  apply_toLower (by decide +kernel) c

theorem isLetter_toLower (c : Char) : isLetter c.toLower = isLetter c :=
  congrArg Traits.letter (Traits.of_toLower c)

theorem isNameChar_toLower (c : Char) : isNameChar c.toLower = isNameChar c :=
  congrArg Traits.nameChar (Traits.of_toLower c)

theorem isBlank_toLower (c : Char) : isBlank c.toLower = isBlank c :=
  congrArg Traits.blank (Traits.of_toLower c)

theorem isDigit_toLower (c : Char) : c.toLower.isDigit = c.isDigit :=
  congrArg Traits.digit (Traits.of_toLower c)

theorem utf8Size_toLower (c : Char) : c.toLower.utf8Size = c.utf8Size :=
  congrArg Traits.bytes (Traits.of_toLower c)

theorem upper_toLower (c : Char) : upper c.toLower = upper c :=
  congrArg Traits.upper (Traits.of_toLower c)

theorem lowerFieldChar_toLower (c : Char) : lowerFieldChar c.toLower = lowerFieldChar c :=
  congrArg Traits.lowerField (Traits.of_toLower c)

theorem letter_of_isUpper {c : Char} (h : c.isUpper = true) :
    isLetter c = true ∧ c.isAlpha = true ∧ c.toLower.isAlpha = true := by
  have hall : capitals.all (fun c => isLetter c && (c.isAlpha && c.toLower.isAlpha)) = true := by
    decide +kernel
  simpa using List.all_eq_true.mp hall c (mem_capitals_of_isUpper h)

/-- Only a letter is the small form of another character. -/
theorem toLower_eq_iff {c d : Char} (hd : d.isAlpha = false) : c.toLower = d ↔ c = d := by
  by_cases hc : c.isUpper = true
  · obtain ⟨_, hupper, hlower⟩ := letter_of_isUpper hc
    constructor
    · rintro rfl
      rw [hlower] at hd
      cases hd
    · rintro rfl
      rw [hupper] at hd
      cases hd
  · rw [toLower_of_not_isUpper hc]

theorem toLower_of_not_isLetter {c : Char} (h : isLetter c = false) : c.toLower = c := by
  refine toLower_of_not_isUpper fun hc => ?_
  rw [(letter_of_isUpper hc).1] at h
  cases h

/-! ## Names -/

theorem toList_toLower (s : String) : s.toLower.toList = s.toList.map Char.toLower :=
  String.toList_map

theorem flatMap_map_toLower {α : Type} {f : Char → List α} (h : ∀ c, f c.toLower = f c)
    (cs : List Char) : (cs.map Char.toLower).flatMap f = cs.flatMap f := by
  rw [List.flatMap_map]
  exact congrArg (List.flatMap · cs) (funext h)

theorem upperName_toLower (name : String) : upperName name.toLower = upperName name := by
  rw [upperName, toList_toLower, flatMap_map_toLower upper_toLower]
  rfl

theorem lowerField_toLower (field : String) : lowerField field.toLower = lowerField field := by
  rw [lowerField, toList_toLower, flatMap_map_toLower lowerFieldChar_toLower]
  rfl

end FilterExpr.Text
