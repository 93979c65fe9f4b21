import FilterExpr.Proofs.Token.Extent

/-!
# FilterExpr.Proofs.Token.Written

Scanning what was written. `kindsOf` is the scanner without the places of the tokens, and
`kindsOf_value` says that a value with lexable content, written in front of any text that does not
prolong it, is scanned as the token of that value. Names, numbers and patterns come first, each with
its own reason: the longest run of name characters, the longest run of digits, and the escapes.
-/

namespace FilterExpr.Token

open Text

/-! ## Kinds -/

/-- The kinds of the tokens of a text. -/
def kindsOf (cs : List Char) : List Kind := (scanAll 0 cs).map Token.kind

/-- The place where a text starts has no influence on the kinds. -/
theorem map_kind_scanAll (offset : Nat) (cs : List Char) :
    (scanAll offset cs).map Token.kind = kindsOf cs := by
  suffices h : ∀ other, (scanAll offset cs).map Token.kind = (scanAll other cs).map Token.kind from
    h 0
  fun_induction scanAll offset cs with
  | case1 =>
    intro other
    rw [scanAll]
  | case2 offset c cs hblank ih =>
    intro other
    rw [scanAll, if_pos hblank]
    exact ih _
  | case3 offset c cs hblank s stop ih =>
    intro other
    rw [scanAll, if_neg hblank, List.map_cons, List.map_cons, ih]

theorem kindsOf_nil : kindsOf [] = [] := by
  rw [kindsOf, scanAll]
  rfl

theorem kindsOf_blank {c : Char} (h : isBlank c = true) (cs : List Char) :
    kindsOf (c :: cs) = kindsOf cs := by
  rw [kindsOf, scanAll, if_pos h, map_kind_scanAll]

theorem kindsOf_scan {c : Char} (h : isBlank c = false) (cs : List Char) :
    kindsOf (c :: cs) = (scan c cs).kind :: kindsOf (scan c cs).rest := by
  rw [kindsOf, scanAll, if_neg (by simp [h]), List.map_cons, map_kind_scanAll]

@[simp] theorem kindsOf_space (cs : List Char) : kindsOf (' ' :: cs) = kindsOf cs :=
  kindsOf_blank (by decide) cs

@[simp] theorem kindsOf_comma (cs : List Char) : kindsOf (',' :: cs) = .comma :: kindsOf cs :=
  kindsOf_scan (by decide) cs

@[simp] theorem kindsOf_leftParen (cs : List Char) :
    kindsOf ('(' :: cs) = .leftParen :: kindsOf cs :=
  kindsOf_scan (by decide) cs

@[simp] theorem kindsOf_rightParen (cs : List Char) :
    kindsOf (')' :: cs) = .rightParen :: kindsOf cs :=
  kindsOf_scan (by decide) cs

/-! ## Names and numbers -/

theorem kindsOf_name {name rest : List Char} (h : isName name = true) (hrest : Ends rest) :
    kindsOf (name ++ rest) = .identifier (String.ofList name) :: kindsOf rest := by
  cases name with
  | nil => cases h
  | cons c cs =>
    rw [isName, Bool.and_eq_true, List.all_eq_true] at h
    obtain ⟨hc, hcs⟩ := h
    obtain ⟨htake, hdrop⟩ := takeWhile_append_stop hcs fun d hd => (hrest d hd).1
    have hblank : isBlank c = false := by
      cases hb : isBlank c with
      | false => rfl
      | true => rw [isLetter_eq_false_of_isBlank hb] at hc; cases hc
    rw [List.cons_append, kindsOf_scan hblank, scan_name hc, htake, hdrop]

/-- A number starts with a digit or with the point, and neither is a blank. -/
theorem kindsOf_number {c : Char} (h : c.isDigit = true ∨ c = '.') (cs : List Char) :
    kindsOf (c :: cs) = (scanNumber (c :: cs)).kind :: kindsOf (scanNumber (c :: cs)).rest := by
  have hblank : isBlank c = false := by
    rcases h with hd | rfl
    · exact isBlank_eq_false_of_isDigit hd
    · decide
  rw [kindsOf_scan hblank, scan_number h]

theorem kindsOf_integer {digits rest : List Char} (h : isInteger digits = true)
    (hrest : Ends rest) :
    kindsOf (digits ++ rest) = .integer (String.ofList digits) :: kindsOf rest := by
  have hdigits := all_isDigit_of_isInteger h
  have hscan := (NumberScan.integer rfl hdigits hrest.endsNumber).eq
  cases digits with
  | nil => cases h
  | cons c cs =>
    rw [List.cons_append] at hscan ⊢
    rw [kindsOf_number (.inl (hdigits c List.mem_cons_self)), hscan]

theorem kindsOf_decimal {digits rest : List Char} (h : isDecimal digits = true)
    (hrest : Ends rest) :
    kindsOf (digits ++ rest) = .decimal (String.ofList digits) :: kindsOf rest := by
  obtain ⟨whole, fraction, rfl, hwhole, hfraction⟩ := isDecimal_iff.mp h
  have hscan := (NumberScan.point rfl hwhole (all_isDigit_of_isInteger hfraction) hrest.endsNumber).eq
  have hne : fraction.isEmpty = false := by
    rw [isInteger, Bool.and_eq_true] at hfraction
    simpa using hfraction.1
  rw [hne, if_neg Bool.false_ne_true] at hscan
  cases whole with
  | nil =>
    rw [List.nil_append, List.cons_append] at hscan ⊢
    rw [kindsOf_number (.inr rfl), hscan]
  | cons c cs =>
    rw [List.cons_append, List.cons_append] at hscan ⊢
    rw [kindsOf_number (.inl (hwhole c List.mem_cons_self)), hscan]

/-! ## Patterns -/

theorem written_char (c : Char) :
    Symbol.written (.char c) = if isEscapable c = true then ['\\', c] else [c] := rfl

/-- By induction on the symbols: each written symbol is read as itself, up to the closing quote. -/
theorem scanBody_written {symbols : List Symbol} (h : symbols.all Symbol.printable = true)
    (rest : List Char) :
    scanBody (symbols.flatMap Symbol.written ++ '"' :: rest) =
      ⟨symbols, true, symbols.flatMap Symbol.written ++ ['"'], rest⟩ := by
  induction symbols with
  | nil =>
    rw [List.flatMap_nil, List.nil_append, scanBody_quote]
    rfl
  | cons s symbols ih =>
    rw [List.all_cons, Bool.and_eq_true] at h
    rw [List.flatMap_cons, List.append_assoc]
    cases s with
    | wildcard =>
      rw [Symbol.written, List.singleton_append, scanBody_wildcard, ih h.2]
      rfl
    | char c =>
      rw [written_char]
      cases hescape : isEscapable c with
      | true =>
        rw [if_pos rfl, List.cons_append, List.cons_append, List.nil_append,
          scanBody_escape hescape, ih h.2]
        rfl
      | false =>
        rw [if_neg (by decide), List.singleton_append, scanBody_plain hescape h.1, ih h.2]
        rfl

theorem kindsOf_pattern {p : Pattern} (h : p.symbols.all Symbol.printable = true)
    (rest : List Char) : kindsOf (p.render.toList ++ rest) = .string p :: kindsOf rest := by
  have hbody := scanBody_written h rest
  rw [Pattern.render, String.toList_ofList, List.cons_append, List.cons_append, List.append_assoc,
    List.singleton_append, kindsOf_scan (by decide), scan_string, scanString]
  simp only [hbody, if_true]

/-! ## Values -/

theorem kindsOf_value {v : Value} (h : v.lexable = true) {rest : List Char} (hrest : Ends rest) :
    kindsOf (v.render.toList ++ rest) = v.token :: kindsOf rest := by
  cases v with
  | identifier name => rw [Value.render, kindsOf_name h hrest, String.ofList_toList]; rfl
  | string pattern => exact kindsOf_pattern h rest
  | integer digits => rw [Value.render, kindsOf_integer h hrest, String.ofList_toList]; rfl
  | decimal digits => rw [Value.render, kindsOf_decimal h hrest, String.ofList_toList]; rfl

end FilterExpr.Token
