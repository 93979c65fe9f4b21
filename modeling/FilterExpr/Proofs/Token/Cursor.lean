import FilterExpr.Proofs.Basic
import FilterExpr.Token.Cursor

/-!
# FilterExpr.Proofs.Token.Cursor

How a cursor moves.

* `pending_next` and `next_fst`: reading a token takes the first of the tokens that are ahead, and at the
  end it gives the end of input and stays there. `next_skip` says it of the token that is read after any
  number of others.
* `Advances`: a cursor moves by whole characters. Every reading of a token is such a movement
  (`advances_next`), so a cursor that was started on a text always stands between two characters of it
  (`At`, `at_of_advances`).
-/

namespace FilterExpr.Cursor

open Token Text

/-! ## Tokens one at a time -/

theorem nextFrom_spec (source : String) (offset : Nat) (cs : List Char) :
    (nextFrom source offset cs).1 = (scanAll offset cs).headD (.endAt source.utf8ByteSize) ∧
      (nextFrom source offset cs).2.pending = (scanAll offset cs).tail ∧
      (nextFrom source offset cs).2.source = source := by
  fun_induction nextFrom source offset cs with
  | case1 offset => simp [pending, scanAll]
  | case2 offset c cs hblank ih =>
    rw [scanAll, if_pos hblank]
    exact ih
  | case3 offset c cs hblank s stop =>
    rw [scanAll, if_neg hblank]
    exact ⟨rfl, rfl, rfl⟩

@[simp] theorem next_fst (c : Cursor) : c.next.1 = c.pending.headD c.eof :=
  (nextFrom_spec c.source c.offset c.rest).1

@[simp] theorem pending_next (c : Cursor) : c.next.2.pending = c.pending.tail :=
  (nextFrom_spec c.source c.offset c.rest).2.1

@[simp] theorem source_next (c : Cursor) : c.next.2.source = c.source :=
  (nextFrom_spec c.source c.offset c.rest).2.2

@[simp] theorem eof_next (c : Cursor) : c.next.2.eof = c.eof := by
  rw [eof, source_next]
  rfl

/-- The cursor after `n` more tokens. -/
def skip : Nat → Cursor → Cursor
  | 0, c => c
  | n + 1, c => skip n c.next.2

theorem skip_skip (n k : Nat) (c : Cursor) : skip n (skip k c) = skip (k + n) c := by
  induction k generalizing c with
  | zero => rw [Nat.zero_add]; rfl
  | succ k ih =>
    rw [Nat.add_right_comm]
    exact ih c.next.2

theorem pending_skip (n : Nat) (c : Cursor) : (skip n c).pending = c.pending.drop n := by
  induction n generalizing c with
  | zero => rfl
  | succ n ih => rw [skip, ih, pending_next, List.drop_tail]

theorem source_skip (n : Nat) (c : Cursor) : (skip n c).source = c.source := by
  induction n generalizing c with
  | zero => rfl
  | succ n ih => rw [skip, ih, source_next]

theorem next_skip (n : Nat) (c : Cursor) : (skip n c).next.1 = c.pending.getD n c.eof := by
  rw [next_fst, pending_skip, eof, source_skip, List.headD_eq_head?_getD, List.head?_drop,
    List.getD_eq_getElem?_getD]
  rfl

/-- The token that is read from a text after `n` others. -/
theorem next_skip_start (source : String) (n : Nat) :
    ((start source).skip n).next.1 = (tokenize source).getD n (.endAt source.utf8ByteSize) := by
  rw [next_skip, tokenize, getD_concat]
  rfl

/-! ## Characters one at a time -/

/-- The cursor behind the next character. -/
def advance (c : Cursor) : Cursor :=
  match c.rest with
  | [] => c
  | d :: ds => { c with offset := c.offset + d.utf8Size, rest := ds }

/-- The second cursor is reached from the first one by moving over characters. -/
inductive Advances : Cursor → Cursor → Prop where
  | refl {c : Cursor} : Advances c c
  | cons {c d : Cursor} : Advances c.advance d → Advances c d

/-- Moving over the characters `text`. -/
theorem advances_append (source : String) (offset : Nat) (text rest : List Char) :
    Advances ⟨source, offset, text ++ rest⟩ ⟨source, offset + byteLength text, rest⟩ := by
  induction text generalizing offset with
  | nil => exact .refl
  | cons d text ih =>
    refine .cons ?_
    rw [byteLength_cons, ← Nat.add_assoc]
    exact ih (offset + d.utf8Size)

theorem advances_nextFrom (source : String) (offset : Nat) (cs : List Char) :
    Advances ⟨source, offset, cs⟩ (nextFrom source offset cs).2 := by
  fun_induction nextFrom source offset cs with
  | case1 offset => exact .refl
  | case2 offset c cs _ ih => exact .cons ih
  | case3 offset c cs _ s stop =>
    have hmove := advances_append source offset s.text s.rest
    rw [scan_text_append_rest] at hmove
    exact hmove

/-- Reading a token moves over whole characters. -/
theorem advances_next (c : Cursor) : Advances c c.next.2 :=
  advances_nextFrom c.source c.offset c.rest

/-! ## Places in a text -/

/-- The cursor stands in `source` behind the characters `front`. -/
structure At (source : String) (front : List Char) (c : Cursor) : Prop where
  source_eq : c.source = source
  text_eq : source.toList = front ++ c.rest
  offset_eq : c.offset = byteLength front

theorem at_start (source : String) : At source [] (start source) := ⟨rfl, rfl, rfl⟩

theorem At.advance {source : String} {front : List Char} {c : Cursor} (h : At source front c) :
    ∃ text, c.rest = text ++ c.advance.rest ∧ At source (front ++ text) c.advance := by
  obtain ⟨hsource, htext, hoffset⟩ := h
  rw [Cursor.advance]
  cases hrest : c.rest with
  | nil => exact ⟨[], hrest.symm, hsource, by rw [htext, List.append_nil], by simpa using hoffset⟩
  | cons d ds =>
    rw [hrest] at htext
    exact ⟨[d], rfl, hsource, by simpa using htext, by simp [hoffset]⟩

theorem At.advances {source : String} {front : List Char} {c d : Cursor} (h : At source front c)
    (hd : Advances c d) : ∃ text, c.rest = text ++ d.rest ∧ At source (front ++ text) d := by
  induction hd generalizing front with
  | refl => exact ⟨[], rfl, by simpa using h⟩
  | cons _ ih =>
    obtain ⟨text, hrest, hat⟩ := h.advance
    obtain ⟨more, hmore, hat'⟩ := ih hat
    refine ⟨text ++ more, ?_, by simpa using hat'⟩
    rw [hrest, hmore, List.append_assoc]

/-- A cursor that was started on a text stands between two characters of it. -/
theorem at_of_advances {source : String} {c : Cursor} (h : Advances (start source) c) :
    ∃ front, At source front c := by
  obtain ⟨text, _, hat⟩ := (at_start source).advances h
  exact ⟨_, hat⟩

end FilterExpr.Cursor
