/-!
# FilterExpr.Span

Spans: half-open ranges of byte offsets into a text in UTF-8. `byteLength` measures a text and
`Span.slice?` cuts a span out of it, which works if both ends lie between characters.
-/

namespace FilterExpr

/-- The bytes that the characters take in UTF-8. -/
def byteLength (cs : List Char) : Nat := cs.foldr (fun c n => c.utf8Size + n) 0

@[simp] theorem byteLength_nil : byteLength [] = 0 := rfl

@[simp] theorem byteLength_cons (c : Char) (cs : List Char) :
    byteLength (c :: cs) = c.utf8Size + byteLength cs := rfl

@[simp] theorem byteLength_append (cs ds : List Char) :
    byteLength (cs ++ ds) = byteLength cs + byteLength ds := by
  induction cs with
  | nil => simp
  | cons c cs ih => rw [List.cons_append, byteLength_cons, byteLength_cons, ih, Nat.add_assoc]

structure Span where
  start : Nat
  stop : Nat
  deriving DecidableEq, Repr

namespace Span

/-- The empty span at an offset. -/
def point (offset : Nat) : Span := ⟨offset, offset⟩

def length (s : Span) : Nat := s.stop - s.start

def isEmpty (s : Span) : Bool := s.start == s.stop

/-- From the start of the first span to the stop of the second. -/
def through (s t : Span) : Span := ⟨s.start, t.stop⟩

def render (s : Span) : String := toString s.start ++ ".." ++ toString s.stop

/-- Splits off the characters that take exactly `n` bytes. -/
def splitBytes? : Nat → List Char → Option (List Char × List Char)
  | n, [] => if n = 0 then some ([], []) else none
  | n, c :: cs =>
    if n = 0 then some ([], c :: cs)
    else if c.utf8Size ≤ n then
      (splitBytes? (n - c.utf8Size) cs).map fun (front, rest) => (c :: front, rest)
    else none

/-- The text of a span, if it lies in `source` and cuts no character. -/
def slice? (s : Span) (source : String) : Option String :=
  if s.start ≤ s.stop then
    (splitBytes? s.start source.toList).bind fun (_, rest) =>
      (splitBytes? (s.stop - s.start) rest).map fun (front, _) => String.ofList front
  else none

end Span

end FilterExpr
