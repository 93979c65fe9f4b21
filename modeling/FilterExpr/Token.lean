import FilterExpr.Pattern
import FilterExpr.Span

/-!
# FilterExpr.Token

Tokens of filter text. `Token.Kind` is what was read, with its content; `Token.Class` is the kind
without the content, which is what messages name.
-/

namespace FilterExpr

namespace Token

inductive Class where
  | illegal
  | eof
  | identifier
  | string
  | integer
  | decimal
  | comma
  | leftParen
  | rightParen
  deriving DecidableEq, Repr

def Class.name : Class → String
  | .illegal => "ILLEGAL"
  | .eof => "EOF"
  | .identifier => "IDENTIFIER"
  | .string => "STRING"
  | .integer => "INTEGER"
  | .decimal => "DECIMAL"
  | .comma => "COMMA"
  | .leftParen => "LPAREN"
  | .rightParen => "RPAREN"

inductive Kind where
  | illegal (text : String)
  | eof
  | identifier (name : String)
  | string (pattern : Pattern)
  | integer (digits : String)
  | decimal (digits : String)
  | comma
  | leftParen
  | rightParen
  deriving DecidableEq, Repr

namespace Kind

def toClass : Kind → Class
  | .illegal _ => .illegal
  | .eof => .eof
  | .identifier _ => .identifier
  | .string _ => .string
  | .integer _ => .integer
  | .decimal _ => .decimal
  | .comma => .comma
  | .leftParen => .leftParen
  | .rightParen => .rightParen

/-- The content of a token as text. The end of input shows as the zero character. -/
def literal : Kind → String
  | .illegal text => text
  | .eof => "\x00"
  | .identifier name => name
  | .string pattern => pattern.text
  | .integer digits => digits
  | .decimal digits => digits
  | .comma => ","
  | .leftParen => "("
  | .rightParen => ")"

end Kind

end Token

structure Token where
  kind : Token.Kind
  span : Span
  deriving DecidableEq, Repr

namespace Token

def toClass (t : Token) : Class := t.kind.toClass

def literal (t : Token) : String := t.kind.literal

/-- The end of a text that is `offset` bytes long. -/
def endAt (offset : Nat) : Token := ⟨.eof, .point offset⟩

end Token

end FilterExpr
