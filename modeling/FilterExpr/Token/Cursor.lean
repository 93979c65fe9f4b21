import FilterExpr.Token.Scan

/-!
# FilterExpr.Token.Cursor

Reading tokens one at a time. A cursor is a place in a text; `next` reads the token there and moves
behind it, and at the end of the text it keeps giving the end of input.
-/

namespace FilterExpr

structure Cursor where
  source : String
  /-- The byte offset of the place. -/
  offset : Nat
  /-- The characters from the place on. -/
  rest : List Char
  deriving DecidableEq, Repr

namespace Cursor

open Token

/-- The cursor at the start of a text. -/
def start (source : String) : Cursor := ⟨source, 0, source.toList⟩

def reset (c : Cursor) : Cursor := start c.source

/-- The end of input of the text. -/
def eof (c : Cursor) : Token := .endAt c.source.utf8ByteSize

/-- The cursor at the end of the text. -/
def finish (c : Cursor) : Cursor := { c with offset := c.source.utf8ByteSize, rest := [] }

/-- Reads the next token from a place given by its offset and the characters there. -/
def nextFrom (source : String) : Nat → List Char → Token × Cursor
  | offset, [] => (.endAt source.utf8ByteSize, ⟨source, offset, []⟩)
  | offset, c :: cs =>
    if Text.isBlank c then nextFrom source (offset + c.utf8Size) cs
    else
      let s := scan c cs
      let stop := offset + byteLength s.text
      (⟨s.kind, ⟨offset, stop⟩⟩, ⟨source, stop, s.rest⟩)

def next (c : Cursor) : Token × Cursor := nextFrom c.source c.offset c.rest

/-- The tokens from the place on, without the end of input. -/
def pending (c : Cursor) : List Token := scanAll c.offset c.rest

/-- Reads all tokens from the place on, the end of input last. -/
def drain (c : Cursor) : List Token × Cursor := (c.pending ++ [c.eof], c.finish)

end Cursor

end FilterExpr
