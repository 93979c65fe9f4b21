/-!
# FilterExpr.Pattern

Text patterns: characters that stand for themselves, and wildcards that stand for any text. A pattern is
the sequence of its symbols, so two patterns are equal exactly if they hold the same symbols in the
same order. `Pattern.parts` is the view in which neighbouring characters form one text, and
`Pattern.render` is the form with quotes in which a pattern is written in a filter.
-/

namespace FilterExpr

inductive Symbol where
  | char (c : Char)
  | wildcard
  deriving DecidableEq, Repr

/-- The character shown for a symbol where wildcards have no form of their own. -/
def Symbol.flat : Symbol → Char
  | .char c => c
  | .wildcard => '\uFFFD'

/-- How a symbol is written between quotes: the quote, the backslash and the star need a backslash
to stand for themselves, and a bare star is a wildcard. -/
def Symbol.written : Symbol → List Char
  | .char c => if c = '\\' || c = '"' || c = '*' then ['\\', c] else [c]
  | .wildcard => ['*']

structure Pattern where
  symbols : List Symbol
  deriving DecidableEq, Repr

namespace Pattern

/-- A stretch of a pattern. -/
inductive Part where
  | text (chars : String)
  | wildcard
  deriving DecidableEq, Repr

def Part.symbols : Part → List Symbol
  | .text chars => chars.toList.map .char
  | .wildcard => [.wildcard]

/-! ## Building patterns -/

def empty : Pattern := ⟨[]⟩

/-- The pattern that matches `text` only. -/
def literal (text : String) : Pattern := ⟨text.toList.map .char⟩

def ofParts (parts : List Part) : Pattern := ⟨parts.flatMap Part.symbols⟩

def push (p : Pattern) (c : Char) : Pattern := ⟨p.symbols ++ [.char c]⟩

def pushText (p : Pattern) (text : String) : Pattern := ⟨p.symbols ++ text.toList.map .char⟩

def pushWildcard (p : Pattern) : Pattern := ⟨p.symbols ++ [.wildcard]⟩

/-! ## Views -/

def isEmpty (p : Pattern) : Bool := p.symbols.isEmpty

def hasWildcard (p : Pattern) : Bool := p.symbols.contains .wildcard

/-- Puts a character in front, into the leading text if there is one. -/
def consPart (c : Char) : List Part → List Part
  | .text chars :: parts => .text (String.singleton c ++ chars) :: parts
  | parts => .text (String.singleton c) :: parts

def group : List Symbol → List Part
  | [] => []
  | .wildcard :: symbols => .wildcard :: group symbols
  | .char c :: symbols => consPart c (group symbols)

/-- The longest texts between wildcards, none of them empty, with the wildcards in their places. -/
def parts (p : Pattern) : List Part := group p.symbols

theorem flatMap_symbols_consPart (c : Char) (parts : List Part) :
    (consPart c parts).flatMap Part.symbols = .char c :: parts.flatMap Part.symbols := by
  cases parts with
  | nil => simp [consPart, Part.symbols]
  | cons part parts => cases part <;> simp [consPart, Part.symbols]

theorem flatMap_symbols_group (symbols : List Symbol) :
    (group symbols).flatMap Part.symbols = symbols := by
  induction symbols with
  | nil => rfl
  | cons s symbols ih =>
    cases s with
    | char c => rw [group, flatMap_symbols_consPart, ih]
    | wildcard => simp [group, Part.symbols, ih]

/-- The parts hold all that the pattern holds. -/
theorem ofParts_parts (p : Pattern) : ofParts p.parts = p := by
  rw [ofParts, parts, flatMap_symbols_group]

/-- The pattern as plain text, each wildcard shown as the replacement character. -/
def text (p : Pattern) : String := String.ofList (p.symbols.map Symbol.flat)

def render (p : Pattern) : String :=
  String.ofList ('"' :: p.symbols.flatMap Symbol.written ++ ['"'])

end Pattern

end FilterExpr
