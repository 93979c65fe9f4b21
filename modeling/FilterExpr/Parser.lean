import FilterExpr.Call
import FilterExpr.ParseError
import FilterExpr.Token.Cursor

/-!
# FilterExpr.Parser

Reading tokens into a call tree. The grammar is

    filter    = call END
    call      = NAME "(" parameter ("," parameter)* ")"
    parameter = call | NAME | STRING | INTEGER | DECIMAL

where the first parameter of a call starts with a name.

`Parser.step` is a machine that takes one token at a time and looks at the one after it. Its state
holds the calls that are open. `Parser.run` takes tokens as long as the machine can, and
`State.error` says what is wrong at the token where it stops. A `Parser` can be used again: it goes
on where it stopped, and calls that were left open still count for the nesting limit.
-/

namespace FilterExpr

namespace Parser

/-- A call that is open: its name and the parameters read so far, the last one first. -/
structure Frame where
  name : String
  given : List Param
  deriving DecidableEq

/-- The call that a frame becomes when it is closed. -/
def Frame.close (f : Frame) : Call := ⟨f.name, f.given.reverse⟩

def Frame.push (f : Frame) (p : Param) : Frame := { f with given := p :: f.given }

/-- What is due next. The open calls are listed from the inside out, the innermost apart. -/
inductive State where
  /-- The name of the root call. -/
  | root
  /-- The opening parenthesis after a name. -/
  | opening (name : String) (outer : List Frame)
  /-- The first parameter of a call. -/
  | first (name : String) (outer : List Frame)
  /-- A parameter after a comma. -/
  | parameter (inner : Frame) (outer : List Frame)
  /-- A comma or the closing parenthesis. -/
  | separator (inner : Frame) (outer : List Frame)
  /-- The end of input. -/
  | finished (filter : Call)
  deriving DecidableEq

namespace State

/-- The number of open calls. -/
def height : State → Nat
  | .root => 0
  | .opening _ outer => outer.length + 1
  | .first _ outer => outer.length + 1
  | .parameter _ outer => outer.length + 1
  | .separator _ outer => outer.length + 1
  | .finished _ => 0

/-- The state after the innermost call is closed. -/
def close (inner : Frame) : List Frame → State
  | [] => .finished inner.close
  | f :: outer => .separator (f.push (.call inner.close)) outer

end State

/-- Whether a token ends the parameter before it. -/
def endsParameter (t : Token) : Bool :=
  t.kind = .comma || t.kind = .rightParen

/-- Takes a parameter or the name of a call that is one; the token after it tells which. -/
def stepParameter (inner : Frame) (outer : List Frame) (current next : Token) : Option State :=
  if next.kind = .leftParen then
    match current.kind with
    | .identifier name => some (.opening name (inner :: outer))
    | _ => none
  else if endsParameter next then
    (Value.ofToken? current.kind).map fun v => .separator (inner.push (.value v)) outer
  else none

/-- Takes the current token. At most `limit` calls may be open, with the `opened` calls that were left open
before the machine was started. -/
def step (limit opened : Nat) (s : State) (current next : Token) : Option State :=
  match s with
  | .root =>
    match current.kind with
    | .identifier name => some (.opening name [])
    | _ => none
  | .opening name outer =>
    if opened + s.height ≤ limit ∧ current.kind = .leftParen then some (.first name outer) else none
  | .first name outer =>
    if current.toClass = .identifier then stepParameter ⟨name, []⟩ outer current next else none
  | .parameter inner outer => stepParameter inner outer current next
  | .separator inner outer =>
    match current.kind with
    | .comma => some (.parameter inner outer)
    | .rightParen => some (.close inner outer)
    | _ => none
  | .finished _ => none

/-- Takes tokens as long as the machine can, and returns its state and the tokens left. The end of
input stands behind the last token. -/
def run (limit opened : Nat) (eof : Token) : State → List Token → State × List Token
  | s, [] => (s, [])
  | s, t :: ts =>
    match step limit opened s t (ts.headD eof) with
    | some s' => run limit opened eof s' ts
    | none => (s, t :: ts)

/-- What is wrong where a parameter is due and cannot be taken. -/
def parameterError (current next : Token) : ParseError :=
  if (Value.ofToken? current.kind).isNone then .blame .parameter current
  else if next.kind = .leftParen then .blame .functionName current
  else .blame .separator next

/-- What is wrong in a state that cannot take the current token. -/
def State.error (limit opened : Nat) (s : State) (current next : Token) : ParseError :=
  match s with
  | .root => .blame .functionName current
  | .opening _ _ =>
    if opened + s.height ≤ limit then .blame .openingParen current
    else ⟨.tooDeep limit, current.span⟩
  | .first _ _ =>
    if current.toClass = .identifier then parameterError current next
    else .blame .firstField current
  | .parameter _ _ => parameterError current next
  | .separator _ _ => .blame .separator current
  | .finished _ => .blame .endOfInput current

/-- The limit on nesting where none is asked for. -/
def defaultLimit : Nat := 64

end Parser

/-- A reader of filters: the tokens left, the end of input behind them, the limit on nesting, and the
number of calls that earlier readings left open. -/
structure Parser where
  pending : List Token
  eof : Token
  limit : Nat := Parser.defaultLimit
  opened : Nat := 0
  deriving DecidableEq

namespace Parser

/-- A reader of the tokens from a place on. -/
def ofCursor (c : Cursor) : Parser := { pending := c.pending, eof := c.eof }

def ofSource (source : String) : Parser := ofCursor (.start source)

def withLimit (p : Parser) (limit : Nat) : Parser := { p with limit := limit }

/-- Reads a filter that extends to the end of input. -/
def read (p : Parser) : Except ParseError Call × Parser :=
  match run p.limit p.opened p.eof .root p.pending with
  | (.finished filter, []) => (.ok filter, { p with pending := [] })
  | (s, rest) =>
    (.error (s.error p.limit p.opened (rest.headD p.eof) (rest.tail.headD p.eof)),
      { p with pending := rest, opened := p.opened + s.height })

end Parser

/-- Reads a filter from text. -/
def parse (source : String) (limit : Nat := Parser.defaultLimit) : Except ParseError Call :=
  ((Parser.ofSource source).withLimit limit).read.1

end FilterExpr
