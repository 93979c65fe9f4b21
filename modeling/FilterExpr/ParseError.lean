import FilterExpr.Text.Quoted
import FilterExpr.Token

/-!
# FilterExpr.ParseError

Why a filter could not be read, and where. A cause never holds the spelling of a name, so texts that
differ in the case of names only fail alike.
-/

namespace FilterExpr

namespace ParseError

/-- What was due at the place of the error. -/
inductive Wanted where
  | functionName
  | openingParen
  | firstField
  | parameter
  | separator
  | endOfInput
  | other (label : String)
  deriving DecidableEq, Repr

def Wanted.label : Wanted → String
  | .functionName => "function name"
  | .openingParen => "\"(\""
  | .firstField => "field identifier as first parameter"
  | .parameter => "a parameter"
  | .separator => "\",\" or \")\""
  | .endOfInput => "end of input"
  | .other label => label

inductive Cause where
  /-- Calls are nested deeper than the limit. -/
  | tooDeep (limit : Nat)
  /-- A token that does not fit. -/
  | unexpected (wanted : Wanted) (found : Token.Class)
  /-- Text that is no token. -/
  | illegal (wanted : Wanted) (text : String)
  | other (message : String)
  deriving DecidableEq, Repr

end ParseError

structure ParseError where
  cause : ParseError.Cause
  span : Span
  deriving DecidableEq, Repr

namespace ParseError

/-- The error that blames a token. -/
def blame (wanted : Wanted) (t : Token) : ParseError :=
  match t.kind with
  | .illegal text => ⟨.illegal wanted text, t.span⟩
  | kind => ⟨.unexpected wanted kind.toClass, t.span⟩

/-- The message without the place. -/
def message (e : ParseError) : String :=
  match e.cause with
  | .tooDeep limit => "maximum nesting depth of " ++ toString limit ++ " exceeded"
  | .unexpected wanted found => "expected " ++ wanted.label ++ ", found " ++ found.name
  | .illegal wanted text => "illegal token " ++ Text.quoted text ++ ", expected " ++ wanted.label
  | .other message => message

/-- What was due, if a token is to blame. -/
def wanted? (e : ParseError) : Option Wanted :=
  match e.cause with
  | .unexpected wanted _ => some wanted
  | .illegal wanted _ => some wanted
  | _ => none

/-- The class of the token to blame. -/
def found? (e : ParseError) : Option Token.Class :=
  match e.cause with
  | .unexpected _ found => some found
  | .illegal _ _ => some .illegal
  | _ => none

/-- The message with the place. -/
def render (e : ParseError) : String := e.message ++ " at position " ++ e.span.render

end ParseError

end FilterExpr
