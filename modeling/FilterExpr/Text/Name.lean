import FilterExpr.Text.Case
import FilterExpr.Text.Letter

/-!
# FilterExpr.Text.Name

Names of functions and fields: a letter followed by letters and underscores. Function names are
compared in upper case. Field names are kept in lower case, one character at a time, and a character
whose lower-case form is no part of a name stays as it is.
-/

namespace FilterExpr.Text

/-- The characters that may follow the first letter of a name. -/
def isNameChar (c : Char) : Bool :=
  isLetter c || c == '_'

/-- A letter followed by letters and underscores. -/
def isName : List Char → Bool
  | [] => false
  | c :: cs => isLetter c && cs.all isNameChar

/-- The upper-case form of a function name. -/
def upperName (name : String) : String :=
  String.ofList (name.toList.flatMap upper)

/-- The lower-case form of `c` inside a field name: `c` itself where the full form has a character
that cannot stand in a name. -/
def lowerFieldChar (c : Char) : List Char :=
  if (lower c).all isNameChar then lower c else [c]

/-- The lower-case form of a field name. -/
def lowerField (field : String) : String :=
  String.ofList (field.toList.flatMap lowerFieldChar)

end FilterExpr.Text
