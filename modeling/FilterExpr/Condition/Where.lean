import FilterExpr.Condition

/-!
# FilterExpr.Condition.Where

Conditions as MySQL `WHERE` fragments. Fields are written as the columns that a mapping gives for
them; a field with no column, or with an empty one, is rejected. Quoted text is written so that no
character of it can end the literal.
-/

namespace FilterExpr

/-- The column for a field, if the field is allowed. -/
abbrev FieldMapping := String → Option String

namespace FieldMapping

/-- Every field is its own column. -/
def identity : FieldMapping := some

end FieldMapping

/-- A field that the mapping does not allow. -/
structure RejectedField where
  field : String
  deriving DecidableEq, Repr

def RejectedField.message (e : RejectedField) : String := "invalid field [" ++ e.field ++ "]"

def Comparison.sql : Comparison → String
  | .eq => "="
  | .neq => "!="
  | .gt => ">"
  | .gte => ">="
  | .lt => "<"
  | .lte => "<="

def Search.sql : Search → String
  | .contains => "LIKE"
  | .within => "IN"

/-- How a symbol is written in a literal: a backslash before each character that would end the
literal or act as a wildcard, and a percent sign for a wildcard. -/
def Symbol.sql : Symbol → List Char
  | .char c => if c = '\\' || c = '"' || c = '\'' || c = '%' then ['\\', c] else [c]
  | .wildcard => ['%']

def Pattern.sql (p : Pattern) : String :=
  String.ofList ('"' :: p.symbols.flatMap Symbol.sql ++ ['"'])

def Literal.sql : Literal → String
  | .string pattern => pattern.sql
  | .integer digits => digits
  | .decimal digits => digits

/-- The column for a field, which is never empty. -/
def FieldMapping.column (mapping : FieldMapping) (field : String) : Except RejectedField String :=
  match mapping field with
  | some column => if column.isEmpty then .error ⟨field⟩ else .ok column
  | none => .error ⟨field⟩

namespace Condition

/-- The fragment for a condition. Of several rejected fields the leftmost is reported. -/
def toSql (mapping : FieldMapping) : Condition → Except RejectedField String
  | .not c => do
    let inner ← c.toSql mapping
    return "NOT(" ++ inner ++ ")"
  | .join j l r => do
    let left ← l.toSql mapping
    let right ← r.toSql mapping
    return "(" ++ left ++ ") " ++ j.name ++ " (" ++ right ++ ")"
  | .compare op field value => do
    let column ← mapping.column field
    return column ++ " " ++ op.sql ++ " " ++ value.sql
  | .search op field pattern => do
    let column ← mapping.column field
    return column ++ " " ++ op.sql ++ " " ++ pattern.sql

end Condition

end FilterExpr
