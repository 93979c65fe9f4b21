/-!
# FilterExpr.Json

JSON values as far as this library writes them: strings, arrays and objects with their members in
order. `Json.compact` writes a value without blanks, `Json.pretty` one item a line with an indent of
two spaces.
-/

namespace FilterExpr

inductive Json where
  | string (text : String)
  | array (items : List Json)
  | object (members : List (String × Json))

namespace Json

/-- The short escape of a control character, if it has one. -/
def shortEscape? (c : Char) : Option Char :=
  if c = '\x08' then some 'b'
  else if c = '\t' then some 't'
  else if c = '\n' then some 'n'
  else if c = '\x0c' then some 'f'
  else if c = '\r' then some 'r'
  else none

/-- A hexadecimal digit in lower case. -/
def hexDigit (n : Nat) : Char := Nat.digitChar (n % 16)

/-- How a character is written in a string: the quote, the backslash and the controls below the space
need an escape. -/
def writtenChar (c : Char) : List Char :=
  if c = '"' || c = '\\' then ['\\', c]
  else if c.toNat < 0x20 then
    match shortEscape? c with
    | some e => ['\\', e]
    | none => ['\\', 'u', '0', '0', hexDigit (c.toNat / 16), hexDigit c.toNat]
  else [c]

/-- A string between quotes. -/
def quote (text : String) : String :=
  String.ofList ('"' :: text.toList.flatMap writtenChar ++ ['"'])

/-! ## Without blanks -/

mutual

def compact : Json → String
  | .string text => quote text
  | .array items => "[" ++ compactItems items ++ "]"
  | .object members => "\x7b" ++ compactMembers members ++ "\x7d"

def compactItems : List Json → String
  | [] => ""
  | [item] => item.compact
  | item :: next :: items => item.compact ++ "," ++ compactItems (next :: items)

def compactMembers : List (String × Json) → String
  | [] => ""
  | [member] => compactMember member
  | member :: next :: members => compactMember member ++ "," ++ compactMembers (next :: members)

def compactMember : String × Json → String
  | (key, value) => quote key ++ ":" ++ value.compact

end

/-! ## One item a line -/

/-- The start of a line at a level of nesting. -/
def newline (level : Nat) : String := String.ofList ('\n' :: List.replicate (2 * level) ' ')

mutual

/-- A value whose first line stands at a level of nesting. -/
def prettyAt (level : Nat) : Json → String
  | .string text => quote text
  | .array [] => "[]"
  | .array (item :: items) =>
    "[" ++ prettyItems (level + 1) (item :: items) ++ newline level ++ "]"
  | .object [] => "\x7b\x7d"
  | .object (member :: members) =>
    "\x7b" ++ prettyMembers (level + 1) (member :: members) ++ newline level ++ "\x7d"

def prettyItems (level : Nat) : List Json → String
  | [] => ""
  | [item] => newline level ++ item.prettyAt level
  | item :: next :: items =>
    newline level ++ item.prettyAt level ++ "," ++ prettyItems level (next :: items)

def prettyMembers (level : Nat) : List (String × Json) → String
  | [] => ""
  | [member] => newline level ++ prettyMember level member
  | member :: next :: members =>
    newline level ++ prettyMember level member ++ "," ++ prettyMembers level (next :: members)

def prettyMember (level : Nat) : String × Json → String
  | (key, value) => quote key ++ ": " ++ value.prettyAt level

end

def pretty (j : Json) : String := j.prettyAt 0

end Json

end FilterExpr
