import FilterExpr.Token

/-!
# FilterExpr.Value

Values that stand as parameters: names, quoted patterns and numbers. Numbers are kept as written.
-/

namespace FilterExpr

inductive Value where
  | identifier (name : String)
  | string (pattern : Pattern)
  | integer (digits : String)
  | decimal (digits : String)
  deriving DecidableEq, Repr

namespace Value

inductive Kind where
  | identifier
  | string
  | integer
  | decimal
  deriving DecidableEq, Repr

/-- The kind as messages name it. -/
def Kind.name : Kind → String
  | .identifier => "IDENTIFIER"
  | .string => "STRING"
  | .integer => "INTEGER"
  | .decimal => "DECIMAL"

/-- The kind as data names it. -/
def Kind.tag : Kind → String
  | .identifier => "identifier"
  | .string => "string"
  | .integer => "integer"
  | .decimal => "decimal"

def kind : Value → Kind
  | .identifier _ => .identifier
  | .string _ => .string
  | .integer _ => .integer
  | .decimal _ => .decimal

/-- The value of a token that carries one. -/
def ofToken? : Token.Kind → Option Value
  | .identifier name => some (.identifier name)
  | .string pattern => some (.string pattern)
  | .integer digits => some (.integer digits)
  | .decimal digits => some (.decimal digits)
  | _ => none

/-- The content as plain text, each wildcard shown as the replacement character. -/
def literal : Value → String
  | .identifier name => name
  | .string pattern => pattern.text
  | .integer digits => digits
  | .decimal digits => digits

/-- The value as it is written in a filter. -/
def render : Value → String
  | .identifier name => name
  | .string pattern => pattern.render
  | .integer digits => digits
  | .decimal digits => digits

def identifier? : Value → Option String
  | .identifier name => some name
  | _ => none

def isIdentifier (v : Value) : Bool := v.identifier?.isSome

end Value

end FilterExpr
