import FilterExpr.Proofs.Grammar
import FilterExpr.Proofs.Text.Names
import FilterExpr.Token.Scan

/-!
# FilterExpr.Proofs.Token.Lexable

The contents that tokens can have. `Value.lexable` describes them without reference to the scanner: a name
is a letter followed by letters and underscores, an integer is a row of digits, a decimal has
digits on the right of its one point, and a pattern holds printable characters only. Every
token that the scanner gives has such a content (`lexable_of_mem_scanAll`).

The equations of `scan` by the first character (`scan_number`, `scan_name`) are what proofs about the
scanner start from.
-/

namespace FilterExpr

open Text

/-! ## Contents -/

/-- A row of digits. -/
def isInteger (cs : List Char) : Bool := !cs.isEmpty && cs.all Char.isDigit

/-- Digits, a point, and a row of digits. -/
def isDecimal (cs : List Char) : Bool :=
  match cs.dropWhile Char.isDigit with
  | '.' :: fraction => isInteger fraction
  | _ => false

def Symbol.printable : Symbol → Bool
  | .char c => isPrintable c
  | .wildcard => true

/-- The contents of values that can be written in a filter. -/
def Value.lexable : Value → Bool
  | .identifier name => isName name.toList
  | .string pattern => pattern.symbols.all Symbol.printable
  | .integer digits => isInteger digits.toList
  | .decimal digits => isDecimal digits.toList

/-- The same for tokens. Tokens that carry no value have nothing to fulfil. -/
def Token.Kind.lexable (k : Token.Kind) : Bool := (Value.ofToken? k).all Value.lexable

theorem Value.lexable_token (v : Value) : v.token.lexable = v.lexable := by
  rw [Token.Kind.lexable, Value.ofToken?_token]
  rfl

theorem all_isDigit_of_isInteger {cs : List Char} (h : isInteger cs = true) :
    ∀ c ∈ cs, c.isDigit = true := by
  rw [isInteger, Bool.and_eq_true] at h
  exact List.all_eq_true.mp h.2

/-- The point of a decimal is the only character in it that is no digit. -/
theorem isDecimal_iff {cs : List Char} :
    isDecimal cs = true ↔ ∃ whole fraction, cs = whole ++ '.' :: fraction ∧
      (∀ c ∈ whole, c.isDigit = true) ∧ isInteger fraction = true := by
  constructor
  · intro h
    rw [isDecimal] at h
    split at h
    · rename_i fraction hdrop
      refine ⟨cs.takeWhile Char.isDigit, fraction, ?_, fun c hc => ?_, h⟩
      · rw [← hdrop, List.takeWhile_append_dropWhile]
      · exact List.all_eq_true.mp List.all_takeWhile c hc
    · cases h
  · rintro ⟨whole, fraction, rfl, hwhole, hfraction⟩
    rw [isDecimal, List.dropWhile_append_of_pos hwhole, List.dropWhile_cons_of_neg (by decide)]
    exact hfraction

/-! ## The first character of a token -/

namespace Token

theorem scan_number {c : Char} (h : c.isDigit = true ∨ c = '.') (cs : List Char) :
    scan c cs = scanNumber (c :: cs) := by
  have hleft : c ≠ '(' := by rintro rfl; revert h; decide
  have hright : c ≠ ')' := by rintro rfl; revert h; decide
  have hcomma : c ≠ ',' := by rintro rfl; revert h; decide
  have hquote : c ≠ '"' := by rintro rfl; revert h; decide
  rw [scan, if_neg hleft, if_neg hright, if_neg hcomma, if_neg hquote, if_pos h]

theorem scan_name {c : Char} (h : isLetter c = true) (cs : List Char) :
    scan c cs = ⟨.identifier (String.ofList (c :: cs.takeWhile isNameChar)),
      c :: cs.takeWhile isNameChar, cs.dropWhile isNameChar⟩ := by
  have hleft : c ≠ '(' := by rintro rfl; revert h; decide
  have hright : c ≠ ')' := by rintro rfl; revert h; decide
  have hcomma : c ≠ ',' := by rintro rfl; revert h; decide
  have hquote : c ≠ '"' := by rintro rfl; revert h; decide
  have hnumber : ¬(c.isDigit = true ∨ c = '.') := by
    rintro (hd | rfl)
    · rw [isLetter_eq_false_of_isDigit hd] at h
      cases h
    · revert h
      decide
  rw [scan, if_neg hleft, if_neg hright, if_neg hcomma, if_neg hquote, if_neg hnumber, if_pos h]

theorem scan_string (cs : List Char) : scan '"' cs = scanString '"' cs := by
  rw [scan, if_neg (by decide), if_neg (by decide), if_neg (by decide), if_pos rfl]

/-! ## What the scanners give -/

theorem printable_of_isEscapable {c : Char} (h : isEscapable c = true) : isPrintable c = true := by
  simp only [isEscapable, Bool.or_eq_true, beq_iff_eq] at h
  rcases h with (rfl | rfl) | rfl <;> decide +kernel

theorem printable_scanBody (cs : List Char) : (scanBody cs).symbols.all Symbol.printable = true := by
  have hbackslash : isPrintable '\\' = true := printable_of_isEscapable (by decide)
  fun_induction scanBody cs with
  | case1 => rfl
  | case2 => rfl
  | case3 cs _ ih =>
    rw [Body.cons, List.all_cons, ih]
    rfl
  | case4 => simp [Symbol.printable, hbackslash]
  | case5 d ds hd _ _ ih =>
    rw [Body.cons, List.all_cons, ih, Symbol.printable, printable_of_isEscapable hd]
    rfl
  | case6 d ds hd _ _ ih =>
    rw [Body.cons, List.all_cons, ih, Symbol.printable, hbackslash]
    rfl
  | case7 c cs _ _ _ hc ih =>
    rw [Body.cons, List.all_cons, ih, Symbol.printable, hc]
    rfl
  | case8 => rfl

theorem lexable_scanString (quote : Char) (cs : List Char) :
    (scanString quote cs).kind.lexable = true := by
  simp only [scanString]
  split
  · exact printable_scanBody cs
  · rfl

theorem lexable_scanNumber {c : Char} (h : c.isDigit = true ∨ c = '.') (cs : List Char) :
    (scanNumber (c :: cs)).kind.lexable = true := by
  have hwhole : ((c :: cs).takeWhile Char.isDigit).all Char.isDigit = true := List.all_takeWhile
  simp only [scanNumber]
  split
  · rename_i afterPoint _
    split
    · rfl
    split
    · rfl
    · rename_i hne
      have hfraction : isInteger (afterPoint.takeWhile Char.isDigit) = true := by
        rw [isInteger, List.all_takeWhile]
        simpa using hne
      simp only [Kind.lexable, Value.ofToken?, Option.all_some, Value.lexable, String.toList_ofList]
      exact isDecimal_iff.mpr ⟨_, _, rfl, List.all_eq_true.mp hwhole, hfraction⟩
  · rename_i hpoint
    rcases h with hd | rfl
    · simp only [Kind.lexable, Value.ofToken?, Option.all_some, Value.lexable, String.toList_ofList]
      rw [isInteger, hwhole, List.takeWhile_cons_of_pos hd]
      rfl
    · exact absurd (List.dropWhile_cons_of_neg (by decide)) (hpoint cs)

theorem lexable_scan (c : Char) (cs : List Char) : (scan c cs).kind.lexable = true := by
  rw [scan]
  split
  · rfl
  split
  · rfl
  split
  · rfl
  split
  · exact lexable_scanString c cs
  split
  · rename_i h
    exact lexable_scanNumber h cs
  split
  · rename_i h
    simp only [Kind.lexable, Value.ofToken?, Option.all_some, Value.lexable, String.toList_ofList]
    rw [isName, h, List.all_takeWhile]
    rfl
  · rfl

theorem lexable_of_mem_scanAll {offset : Nat} {cs : List Char} {t : Token}
    (h : t ∈ scanAll offset cs) : t.kind.lexable = true := by
  fun_induction scanAll offset cs with
  | case1 => cases h
  | case2 offset c cs _ ih => exact ih h
  | case3 offset c cs _ s stop ih =>
    rcases List.mem_cons.mp h with rfl | h
    · exact lexable_scan c cs
    · exact ih h

end Token

end FilterExpr
