import FilterExpr.Condition.Where

/-!
# FilterExpr.Proofs.Pattern.Delimited

Literals end by themselves. A reader that knows only that a backslash takes the next character sees a text as
signs (`signs`): characters by themselves and characters that are taken. Such a reader finds the end of a
literal (`splitLiteral`) and decodes what stands between its quotes (`literalParts`).

Each symbol of a pattern is written as one sign (`Symbol.written_as`). So whatever a pattern holds and
whatever follows its literal, the literal is cut off whole and the pattern comes back from it: no character
of a pattern reaches the text around it.
-/

namespace FilterExpr

open Pattern (Part)

/-! ## Signs -/

/-- A character by itself, or one that is taken by a backslash. -/
inductive Sign where
  | bare (c : Char)
  | taken (c : Char)
  deriving DecidableEq, Repr

/-- The signs of a text. A backslash at the end has nothing to take and stands by itself. -/
def signs : List Char → List Sign
  | [] => []
  | c :: cs =>
    if c = '\\' then
      match cs with
      | [] => [.bare c]
      | d :: ds => .taken d :: signs ds
    else .bare c :: signs cs

@[simp] theorem signs_nil : signs [] = [] := rfl

@[simp] theorem signs_taken (c : Char) (cs : List Char) :
    signs ('\\' :: c :: cs) = .taken c :: signs cs := by
  rw [signs.eq_def]
  exact if_pos rfl

theorem signs_bare {c : Char} (h : c ≠ '\\') (cs : List Char) :
    signs (c :: cs) = .bare c :: signs cs := by
  rw [signs.eq_def]
  exact if_neg h

/-! ## Cutting a literal off -/

/-- What stands before the first quote that no backslash takes, and what stands behind that quote. -/
def splitAtQuote : List Char → Option (List Char × List Char)
  | [] => none
  | c :: cs =>
    if c = '"' then some ([], cs)
    else if c = '\\' then
      match cs with
      | [] => none
      | d :: ds => (splitAtQuote ds).map fun (body, rest) => (c :: d :: body, rest)
    else (splitAtQuote cs).map fun (body, rest) => (c :: body, rest)

/-- The body of the literal that a text starts with, and the text behind the literal. -/
def splitLiteral : List Char → Option (List Char × List Char)
  | [] => none
  | c :: cs => if c = '"' then splitAtQuote cs else none

theorem splitAtQuote_quote (cs : List Char) : splitAtQuote ('"' :: cs) = some ([], cs) := by
  rw [splitAtQuote.eq_def]
  exact if_pos rfl

theorem splitAtQuote_taken (c : Char) (cs : List Char) :
    splitAtQuote ('\\' :: c :: cs) =
      (splitAtQuote cs).map fun (body, rest) => ('\\' :: c :: body, rest) := by
  rw [splitAtQuote.eq_def]
  exact (if_neg (by decide)).trans (if_pos rfl)

theorem splitAtQuote_bare {c : Char} (hquote : c ≠ '"') (hbackslash : c ≠ '\\') (cs : List Char) :
    splitAtQuote (c :: cs) = (splitAtQuote cs).map fun (body, rest) => (c :: body, rest) := by
  rw [splitAtQuote.eq_def]
  exact (if_neg hquote).trans (if_neg hbackslash)

/-! ## Decoding -/

/-- A bare percent sign is a wildcard, and all else is text. -/
def Sign.part : Sign → Part
  | .bare c => if c = '%' then .wildcard else .text (String.singleton c)
  | .taken c => .text (String.singleton c)

/-- The parts that the body of a literal stands for. -/
def literalParts (body : List Char) : List Part := (signs body).map Sign.part

/-! ## Literals of patterns -/

/-- The sign that a symbol is written as. -/
def Symbol.sign : Symbol → Sign
  | .char c => if c = '\\' || c = '"' || c = '\'' || c = '%' then .taken c else .bare c
  | .wildcard => .bare '%'

/-- A symbol is written with a backslash, or as one character that is neither a quote nor a backslash. -/
theorem Symbol.written_as (s : Symbol) :
    (∃ c, s.sql = ['\\', c] ∧ s.sign = .taken c) ∨
      ∃ c, s.sql = [c] ∧ s.sign = .bare c ∧ c ≠ '"' ∧ c ≠ '\\' := by
  cases s with
  | wildcard => exact .inr ⟨'%', rfl, rfl, by decide, by decide⟩
  | char c =>
    by_cases h : (c = '\\' || c = '"' || c = '\'' || c = '%') = true
    · exact .inl ⟨c, if_pos h, if_pos h⟩
    · refine .inr ⟨c, if_neg h, if_neg h, ?_, ?_⟩
      · rintro rfl
        simp at h
      · rintro rfl
        simp at h

theorem signs_flatMap_sql (symbols : List Symbol) :
    signs (symbols.flatMap Symbol.sql) = symbols.map Symbol.sign := by
  induction symbols with
  | nil => rfl
  | cons s symbols ih =>
    obtain ⟨c, hsql, hsign⟩ | ⟨c, hsql, hsign, _, hbackslash⟩ := s.written_as
    · simp [hsql, hsign, ih]
    · simp [hsql, hsign, signs_bare hbackslash, ih]

theorem splitAtQuote_flatMap_sql (symbols : List Symbol) (rest : List Char) :
    splitAtQuote (symbols.flatMap Symbol.sql ++ '"' :: rest) =
      some (symbols.flatMap Symbol.sql, rest) := by
  induction symbols with
  | nil => exact splitAtQuote_quote rest
  | cons s symbols ih =>
    obtain ⟨c, hsql, _⟩ | ⟨c, hsql, _, hquote, hbackslash⟩ := s.written_as
    · simp [hsql, splitAtQuote_taken, ih]
    · simp [hsql, splitAtQuote_bare hquote hbackslash, ih]

theorem Symbol.symbols_part_sign (s : Symbol) : s.sign.part.symbols = [s] := by
  cases s with
  | wildcard => rfl
  | char c =>
    rw [Symbol.sign]
    split
    · simp [Sign.part, Part.symbols]
    · rename_i h
      have hpercent : c ≠ '%' := by
        rintro rfl
        simp at h
      simp [Sign.part, Part.symbols, hpercent]

namespace Pattern

theorem toList_sql (p : Pattern) :
    p.sql.toList = '"' :: (p.symbols.flatMap Symbol.sql ++ ['"']) := by
  rw [Pattern.sql, String.toList_ofList, List.cons_append]

theorem splitLiteral_sql (p : Pattern) (rest : List Char) :
    splitLiteral (p.sql.toList ++ rest) = some (p.symbols.flatMap Symbol.sql, rest) := by
  simpa [toList_sql, splitLiteral] using splitAtQuote_flatMap_sql p.symbols rest

theorem ofParts_literalParts (p : Pattern) :
    ofParts (literalParts (p.symbols.flatMap Symbol.sql)) = p := by
  have hparts : (literalParts (p.symbols.flatMap Symbol.sql)).flatMap Part.symbols = p.symbols := by
    simp [literalParts, signs_flatMap_sql, List.flatMap_map, Symbol.symbols_part_sign]
  rw [ofParts, hparts]

/-- A pattern and what follows its literal are told by the text. -/
theorem sql_append_cancel {p q : Pattern} {rest rest' : List Char}
    (h : p.sql.toList ++ rest = q.sql.toList ++ rest') : p = q ∧ rest = rest' := by
  have hsplit := p.splitLiteral_sql rest
  rw [h, q.splitLiteral_sql rest', Option.some.injEq, Prod.mk.injEq] at hsplit
  refine ⟨?_, hsplit.2.symm⟩
  rw [← p.ofParts_literalParts, ← hsplit.1, q.ofParts_literalParts]

/-- The literal of a pattern ends by itself and holds the whole pattern: in front of any text it is cut off
exactly at its last character, and the body between its quotes decodes to the pattern. So different
patterns have different literals. -/
theorem sql_self_delimiting :
    (∀ (p : Pattern) (rest : List Char), ∃ body,
      splitLiteral (p.sql.toList ++ rest) = some (body, rest) ∧
      p.sql.toList = '"' :: (body ++ ['"']) ∧ ofParts (literalParts body) = p) ∧
    Function.Injective Pattern.sql := by
  constructor
  · intro p rest
    exact ⟨_, p.splitLiteral_sql rest, p.toList_sql, p.ofParts_literalParts⟩
  · intro p q h
    have htexts : p.sql.toList ++ [] = q.sql.toList ++ [] := by rw [h]
    exact (sql_append_cancel htexts).1

end Pattern

end FilterExpr
