import FilterExpr.Proofs.Session.Parser

/-!
# FilterExpr.Proofs.Session.Cursor

Working with a cursor, step by step. A session is any sequence of operations on one cursor: reading a token,
going back to the start, reading all that is left, and reading all tokens or a filter from a copy of the
cursor. What the session answers is what a list of tokens with a mark in it answers
(`session_refines_marked`): the list never changes, and the place of the cursor matters only as a
number.

`Shows` relates a cursor to such a list: from the mark on, the list holds the tokens that the cursor will
give. Each operation keeps it (`Shows.perform`). `read_ofTokens_iff` and `span_of_read_error` say what a
reading from the middle of a list gives: the filter that the tokens there derive, or an error at one of
them.
-/

namespace FilterExpr

open Token (Kind)

/-! ## Operations -/

namespace Cursor

inductive Op where
  /-- Reads a token. -/
  | next
  /-- Goes back to the start of the text. -/
  | reset
  /-- Reads all tokens that are left. -/
  | drain
  /-- Reads all tokens that are left, from a copy. -/
  | drainCopy
  /-- Reads a filter, from a copy. -/
  | readCopy
  deriving DecidableEq, Repr

inductive Answer where
  | none
  | token (t : Token)
  | tokens (ts : List Token)
  | filter (result : Except ParseError Call)

def perform (c : Cursor) : Op → Answer × Cursor
  | .next => (.token c.next.1, c.next.2)
  | .reset => (.none, c.reset)
  | .drain => (.tokens c.drain.1, c.drain.2)
  | .drainCopy => (.tokens c.drain.1, c)
  | .readCopy => (.filter (Parser.ofCursor c).read.1, c)

/-- The answers to a sequence of operations. -/
def session : Cursor → List Op → List Answer
  | _, [] => []
  | c, op :: ops => (c.perform op).1 :: session (c.perform op).2 ops

end Cursor

/-- A reader of a list of tokens, the last of which stands for the end of input. -/
def Parser.ofTokens (ts : List Token) : Parser :=
  { pending := ts.dropLast, eof := ts.getLastD (.endAt 0) }

/-- A list of tokens with a mark at one of them. -/
structure Marked where
  tokens : List Token
  mark : Fin tokens.length

namespace Marked

open Cursor (Op Answer)

/-- The tokens from the mark on. -/
def rest (m : Marked) : List Token := m.tokens.drop m.mark

/-- The mark on the next token, if there is one. -/
def succ (m : Marked) : Marked :=
  { m with mark := ⟨min (m.mark + 1) (m.tokens.length - 1), by have := m.mark.isLt; omega⟩ }

def first (m : Marked) : Marked := { m with mark := ⟨0, m.mark.pos⟩ }

def last (m : Marked) : Marked :=
  { m with mark := ⟨m.tokens.length - 1, by have := m.mark.isLt; omega⟩ }

def perform (m : Marked) : Op → Answer × Marked
  | .next => (.token (m.tokens.get m.mark), m.succ)
  | .reset => (.none, m.first)
  | .drain => (.tokens m.rest, m.last)
  | .drainCopy => (.tokens m.rest, m)
  | .readCopy => (.filter (Parser.ofTokens m.rest).read.1, m)

def session : Marked → List Op → List Answer
  | _, [] => []
  | m, op :: ops => (m.perform op).1 :: session (m.perform op).2 ops

/-- The tokens of a text, with the mark at the first. -/
def start (source : String) : Marked :=
  { tokens := tokenize source, mark := ⟨0, by rw [tokenize, List.length_append]; exact Nat.succ_pos _⟩ }

end Marked

/-! ## Cursors and marked lists -/

namespace Cursor

/-- The cursor gives the tokens of the list from the mark on. -/
structure Shows (c : Cursor) (m : Marked) : Prop where
  tokens_eq : m.tokens = tokenize c.source
  rest_eq : m.rest = c.pending ++ [c.eof]

theorem shows_start (source : String) : Shows (start source) (.start source) := ⟨rfl, rfl⟩

namespace Shows

variable {c : Cursor} {m : Marked}

theorem mark_add_length (h : Shows c m) : m.mark + (c.pending.length + 1) = m.tokens.length := by
  have hlength := congrArg List.length h.rest_eq
  rw [Marked.rest, List.length_drop, List.length_append, List.length_singleton] at hlength
  have hmark := m.mark.isLt
  omega

theorem get_mark (h : Shows c m) : m.tokens.get m.mark = c.pending.headD c.eof := by
  have hdrop : m.rest = m.tokens.get m.mark :: m.tokens.drop (m.mark + 1) :=
    List.drop_eq_getElem_cons m.mark.isLt
  rw [h.rest_eq] at hdrop
  cases hp : c.pending with
  | nil =>
    rw [hp] at hdrop
    exact (List.cons.inj hdrop).1.symm
  | cons t ts =>
    rw [hp] at hdrop
    exact (List.cons.inj hdrop).1.symm

theorem next (h : Shows c m) : Shows c.next.2 m.succ := by
  refine ⟨by rw [source_next]; exact h.tokens_eq, ?_⟩
  have hmark := h.mark_add_length
  have hsucc : (m.succ.mark : Nat) = min (m.mark + 1 : Nat) (m.tokens.length - 1) := rfl
  have hrest : m.succ.rest = m.tokens.drop m.succ.mark := rfl
  rw [hrest, pending_next, eof_next]
  cases hp : c.pending with
  | nil =>
    -- the mark is at the end already
    have hstay : (m.succ.mark : Nat) = m.mark := by
      rw [hp, List.length_nil] at hmark
      omega
    rw [hstay]
    exact h.rest_eq.trans (by rw [hp]; rfl)
  | cons t ts =>
    have hmove : (m.succ.mark : Nat) = m.mark + 1 := by
      rw [hp, List.length_cons] at hmark
      omega
    have htail : m.tokens.drop (m.mark + 1) = m.rest.tail := List.tail_drop.symm
    rw [hmove, htail, h.rest_eq, hp]
    rfl

theorem reset (h : Shows c m) : Shows c.reset m.first :=
  ⟨h.tokens_eq, h.tokens_eq⟩

theorem finish (h : Shows c m) : Shows c.finish m.last := by
  refine ⟨h.tokens_eq, ?_⟩
  have hlast : m.last.rest = m.tokens.drop (m.tokens.length - 1) := rfl
  have hpending : c.finish.pending = [] := by simp [pending, Cursor.finish, Token.scanAll]
  rw [hlast, hpending, h.tokens_eq, tokenize, List.length_append, List.length_singleton,
    Nat.add_sub_cancel, List.drop_left]
  rfl

theorem ofTokens_rest (h : Shows c m) : Parser.ofTokens m.rest = Parser.ofCursor c := by
  rw [Parser.ofTokens, h.rest_eq, List.dropLast_concat, List.getLastD_concat]
  rfl

/-- Each operation gives the same answer, and leaves cursor and list at the same place. -/
theorem perform (h : Shows c m) (op : Op) :
    (c.perform op).1 = (m.perform op).1 ∧ Shows (c.perform op).2 (m.perform op).2 := by
  cases op with
  | next => exact ⟨by rw [Cursor.perform, Marked.perform, h.get_mark, next_fst], h.next⟩
  | reset => exact ⟨rfl, h.reset⟩
  | drain => exact ⟨by rw [Cursor.perform, Marked.perform, h.rest_eq]; rfl, h.finish⟩
  | drainCopy => exact ⟨by rw [Cursor.perform, Marked.perform, h.rest_eq]; rfl, h⟩
  | readCopy => exact ⟨by rw [Cursor.perform, Marked.perform, h.ofTokens_rest], h⟩

theorem session (h : Shows c m) (ops : List Op) : c.session ops = m.session ops := by
  induction ops generalizing c m with
  | nil => rfl
  | cons op ops ih =>
    obtain ⟨hanswer, hshows⟩ := h.perform op
    rw [Cursor.session, Marked.session, hanswer, ih hshows]

end Shows

end Cursor

/-! ## Reading from the middle -/

namespace Parser

theorem read_ofTokens_iff {ts : List Token} {eof : Token} (heof : eof.kind = .eof) {f : Call} :
    (ofTokens (ts ++ [eof])).read.1 = .ok f ↔
      Grammar.IsFilter ((ts ++ [eof]).map Token.kind) f ∧ f.depth ≤ defaultLimit := by
  have hpending : (ofTokens (ts ++ [eof])).pending = ts := List.dropLast_concat
  rw [read_eq_ok_iff, hpending, List.map_append, List.map_singleton, heof, Grammar.isFilter_iff,
    and_assoc]
  rfl

theorem State.span_error (limit opened : Nat) (s : State) (current next : Token) :
    (s.error limit opened current next).span = current.span ∨
      (s.error limit opened current next).span = next.span := by
  have hparameter : (parameterError current next).span = current.span ∨
      (parameterError current next).span = next.span := by
    obtain ⟨wanted, h | h⟩ := exists_blame_parameterError current next
    · exact .inl (by rw [h, ParseError.span_blame])
    · exact .inr (by rw [h, ParseError.span_blame])
  cases s with
  | root => exact .inl (ParseError.span_blame _ _)
  | opening name outer =>
    simp only [State.error]
    split
    · exact .inl (ParseError.span_blame _ _)
    · exact .inl rfl
  | first name outer =>
    simp only [State.error]
    split
    · exact hparameter
    · exact .inl (ParseError.span_blame _ _)
  | parameter inner outer => exact hparameter
  | separator inner outer => exact .inl (ParseError.span_blame _ _)
  | finished filter => exact .inl (ParseError.span_blame _ _)

/-- An error lies at a token that was still to be read. -/
theorem span_of_read_error {p : Parser} {e : ParseError} (h : p.read.1 = .error e) :
    ∃ t ∈ p.pending ++ [p.eof], e.span = t.span := by
  obtain ⟨used, hused, _⟩ := run_open (p.limit - p.opened) p.eof .root p.pending
  have hmem (ts : List Token) : ts.headD p.eof ∈ ts ++ [p.eof] := by
    cases ts <;> simp
  have hpending (ts : List Token) (t : Token) : t ∈ ts ++ [p.eof] → t ∈ used ++ ts ++ [p.eof] := by
    intro ht
    rw [List.append_assoc]
    exact List.mem_append_right used ht
  rw [read, run_fresh] at h
  split at h
  · cases h
  · rename_i s rest _ hrun
    cases h
    rw [hrun] at hused
    rw [hused]
    rcases s.span_error p.limit p.opened (rest.headD p.eof) (rest.tail.headD p.eof) with hspan | hspan
    · exact ⟨_, hpending rest _ (hmem rest), hspan⟩
    · refine ⟨_, hpending rest _ ?_, hspan⟩
      cases rest with
      | nil => exact hmem []
      | cons t rest => exact List.mem_cons_of_mem t (hmem rest)

end Parser

/-- A session with a cursor answers what the list of all tokens with a mark in it answers. A filter that is
read at the mark is the one that the tokens from there on derive, and an error lies at one of them. -/
theorem session_refines_marked (source : String) (ops : List Cursor.Op) :
    (Cursor.start source).session ops = (Marked.start source).session ops ∧
    ∀ k : Fin (tokenize source).length,
      (∀ f, (Parser.ofTokens ((tokenize source).drop k)).read.1 = .ok f ↔
        Grammar.IsFilter (((tokenize source).drop k).map Token.kind) f ∧
          f.depth ≤ Parser.defaultLimit) ∧
      (∀ e, (Parser.ofTokens ((tokenize source).drop k)).read.1 = .error e →
        ∃ t ∈ (tokenize source).drop k, e.span = t.span) := by
  refine ⟨(Cursor.shows_start source).session ops, fun ⟨k, hk⟩ => ?_⟩
  have hdrop : (tokenize source).drop k =
      (Token.scanAll 0 source.toList).drop k ++ [.endAt source.utf8ByteSize] := by
    rw [tokenize, List.length_append, List.length_singleton] at hk
    rw [tokenize, List.drop_append_of_le_length (by omega)]
  simp only [hdrop]
  refine ⟨fun f => Parser.read_ofTokens_iff rfl, fun e he => ?_⟩
  have hspan := Parser.span_of_read_error he
  rwa [Parser.ofTokens, List.dropLast_concat, List.getLastD_concat] at hspan

end FilterExpr
