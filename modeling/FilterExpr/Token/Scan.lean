import FilterExpr.Text.Basic
import FilterExpr.Text.Name
import FilterExpr.Text.Printable
import FilterExpr.Token

/-!
# FilterExpr.Token.Scan

Scanning filter text. `scan` reads the token that starts at a given character and returns what it read,
the characters it took and the characters left. `scanAll` repeats it over a whole text, skipping
blanks between tokens and counting bytes for the spans.

The characters taken and those left make up the text that was there (`scan_text_append_rest`), and at
least one is taken (`scan_text_ne_nil`), so scanning ends.
-/

namespace FilterExpr.Token

open Text

/-- What a scanner read, the characters it took, and the characters left. -/
structure Scan where
  kind : Kind
  text : List Char
  rest : List Char
  deriving DecidableEq, Repr

/-! ## Numbers -/

/-- Digits with at most one point. A second point is taken and makes the number illegal, and so does
a point with no digit after it. -/
def scanNumber (cs : List Char) : Scan :=
  let whole := cs.takeWhile Char.isDigit
  match cs.dropWhile Char.isDigit with
  | '.' :: afterPoint =>
    let fraction := afterPoint.takeWhile Char.isDigit
    let text := whole ++ '.' :: fraction
    match afterPoint.dropWhile Char.isDigit with
    | '.' :: rest => ⟨.illegal (String.ofList (text ++ ['.'])), text ++ ['.'], rest⟩
    | rest =>
      if fraction.isEmpty then ⟨.illegal (String.ofList text), text, rest⟩
      else ⟨.decimal (String.ofList text), text, rest⟩
  | rest => ⟨.integer (String.ofList whole), whole, rest⟩

/-! ## Quoted patterns -/

/-- The inside of a quoted pattern up to its end: the symbols read, whether a closing quote ended it,
the characters taken (the closing quote included) and the characters left. -/
structure Body where
  symbols : List Symbol
  closed : Bool
  text : List Char
  rest : List Char
  deriving DecidableEq, Repr

/-- Puts characters that stand for one symbol in front. -/
def Body.cons (taken : List Char) (s : Symbol) (b : Body) : Body :=
  { b with symbols := s :: b.symbols, text := taken ++ b.text }

/-- The characters that a backslash takes literally. -/
def isEscapable (c : Char) : Bool := c == '\\' || c == '"' || c == '*'

/-- Reads the characters after an opening quote. A backslash before an escapable character is
dropped, any other backslash stands for itself, and a bare star is a wildcard. A character that is
not printable is taken and ends the reading. -/
def scanBody : List Char → Body
  | [] => ⟨[], false, [], []⟩
  | c :: cs =>
    if c = '"' then ⟨[], true, [c], cs⟩
    else if c = '*' then (scanBody cs).cons [c] .wildcard
    else if c = '\\' then
      match cs with
      | [] => ⟨[.char c], false, [c], []⟩
      | d :: ds =>
        if isEscapable d then (scanBody ds).cons [c, d] (.char d)
        else (scanBody (d :: ds)).cons [c] (.char c)
    else if isPrintable c then (scanBody cs).cons [c] (.char c)
    else ⟨[], false, [c], cs⟩

/-- Reads a quoted pattern from its opening quote on. -/
def scanString (quote : Char) (cs : List Char) : Scan :=
  let body := scanBody cs
  let pattern : Pattern := ⟨body.symbols⟩
  ⟨if body.closed then .string pattern else .illegal pattern.text, quote :: body.text, body.rest⟩

/-! ## One token -/

/-- Reads the token that starts with `c`, which is no blank. -/
def scan (c : Char) (cs : List Char) : Scan :=
  if c = '(' then ⟨.leftParen, [c], cs⟩
  else if c = ')' then ⟨.rightParen, [c], cs⟩
  else if c = ',' then ⟨.comma, [c], cs⟩
  else if c = '"' then scanString c cs
  else if c.isDigit ∨ c = '.' then scanNumber (c :: cs)
  else if isLetter c then
    let name := c :: cs.takeWhile isNameChar
    ⟨.identifier (String.ofList name), name, cs.dropWhile isNameChar⟩
  else ⟨.illegal (String.singleton c), [c], cs⟩

theorem scanBody_text_append_rest (cs : List Char) :
    (scanBody cs).text ++ (scanBody cs).rest = cs := by
  fun_induction scanBody cs <;> simp_all [Body.cons]

theorem scanNumber_text_append_rest (cs : List Char) :
    (scanNumber cs).text ++ (scanNumber cs).rest = cs := by
  have hcs := List.takeWhile_append_dropWhile (p := Char.isDigit) (l := cs)
  simp only [scanNumber]
  split
  · rename_i afterPoint h
    have hfr := List.takeWhile_append_dropWhile (p := Char.isDigit) (l := afterPoint)
    rw [h] at hcs
    split
    · rename_i rest h'
      rw [h'] at hfr
      simpa [hfr] using hcs
    · split <;> simpa [hfr] using hcs
  · exact hcs

theorem scan_text_append_rest (c : Char) (cs : List Char) :
    (scan c cs).text ++ (scan c cs).rest = c :: cs := by
  simp only [scan]
  split <;> try rfl
  split <;> try rfl
  split <;> try rfl
  split
  · simp [scanString, scanBody_text_append_rest]
  split
  · exact scanNumber_text_append_rest (c :: cs)
  split
  · simp
  · rfl

theorem scanNumber_text_ne_nil {c : Char} (h : c.isDigit = true ∨ c = '.') (cs : List Char) :
    (scanNumber (c :: cs)).text ≠ [] := by
  cases h with
  | inl hd =>
    simp only [scanNumber, List.takeWhile_cons, hd, if_true]
    split
    · split
      · simp
      · split <;> simp
    · simp
  | inr hp =>
    subst hp
    simp only [scanNumber, show Char.isDigit '.' = false from rfl, List.dropWhile_cons]
    simp only [Bool.false_eq_true, if_false]
    split
    · simp
    · split <;> simp

theorem scan_text_ne_nil (c : Char) (cs : List Char) : (scan c cs).text ≠ [] := by
  simp only [scan]
  split <;> try simp
  split <;> try simp
  split <;> try simp
  split
  · simp [scanString]
  split
  · rename_i h
    exact scanNumber_text_ne_nil h cs
  split <;> simp

theorem scan_rest_length_lt (c : Char) (cs : List Char) :
    (scan c cs).rest.length < (c :: cs).length := by
  have hlen := congrArg List.length (scan_text_append_rest c cs)
  have hpos := List.length_pos_iff.mpr (scan_text_ne_nil c cs)
  rw [List.length_append] at hlen
  omega

/-! ## All tokens -/

/-- The tokens of a text that starts at byte `offset`, without the end of input. -/
def scanAll (offset : Nat) (cs : List Char) : List Token :=
  match cs with
  | [] => []
  | c :: cs =>
    if isBlank c then scanAll (offset + c.utf8Size) cs
    else
      let s := scan c cs
      let stop := offset + byteLength s.text
      ⟨s.kind, ⟨offset, stop⟩⟩ :: scanAll stop s.rest
termination_by cs.length
decreasing_by
  · simp
  · exact scan_rest_length_lt c _

end FilterExpr.Token

namespace FilterExpr

/-- The tokens of a text, the end of input last. -/
def tokenize (source : String) : List Token :=
  Token.scanAll 0 source.toList ++ [.endAt source.utf8ByteSize]

end FilterExpr
