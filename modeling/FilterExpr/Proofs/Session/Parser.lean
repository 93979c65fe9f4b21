import FilterExpr.Proofs.Parser.Moves
import FilterExpr.Proofs.Token.Layout

/-!
# FilterExpr.Proofs.Session.Parser

Using a reader again. A session is any sequence of readings and changes of the limit on one reader, whether
the readings succeed or fail. Each reading goes on behind the tokens that the earlier ones took, and
calls that were left open by a failure stay on the account.

* `openAfter` says which calls are open behind some tokens, from the tokens alone. `run_open` and `read_open`:
  the machine, and with it a reader, keeps exactly this account.
* `read_fresh`: a reading is that of a fresh reader of the tokens left, with the open calls taken off the
  limit.
* `Tracks`: the tokens that a session took and those that are left are the tokens of the text, and no more
  calls are open than tokens were taken. Every operation keeps it (`Tracks.perform`).
* `Lookahead`: a reader that holds two tokens and a cursor behind them sees the same tokens.
-/

namespace FilterExpr

open Token (Kind)

namespace Parser

/-! ## Open calls -/

/-- What a token does to the calls that are open, the innermost first: a name opens a call if none is open
or if a parenthesis follows, and a closing parenthesis closes the innermost call. -/
def openStep (calls : List String) (current next : Kind) : List String :=
  match current with
  | .identifier name => if calls = [] ∨ next = .leftParen then name :: calls else calls
  | .rightParen => calls.tail
  | _ => calls

/-- The calls that are open behind some tokens. The token `behind` comes after them. -/
def openAfter (behind : Token) : List String → List Token → List String
  | calls, [] => calls
  | calls, t :: ts => openAfter behind (openStep calls t.kind (ts.headD behind).kind) ts

/-- The names of the calls that are open in a state, the innermost first. -/
def State.calls : State → List String
  | .root => []
  | .opening name outer => name :: outer.map Frame.name
  | .first name outer => name :: outer.map Frame.name
  | .parameter inner outer => inner.name :: outer.map Frame.name
  | .separator inner outer => inner.name :: outer.map Frame.name
  | .finished _ => []

theorem State.length_calls (s : State) : s.calls.length = s.height := by
  cases s <;> simp [State.calls, State.height]

theorem State.calls_close (inner : Frame) (outer : List Frame) :
    (State.close inner outer).calls = outer.map Frame.name := by
  cases outer with
  | nil => rfl
  | cons f outer => rfl

theorem openStep_call (calls : List String) (name : String) :
    openStep calls (.identifier name) .leftParen = name :: calls := if_pos (Or.inr rfl)

theorem openStep_value (v : Value) {next : Kind} (hnext : Separates next) (name : String)
    (calls : List String) : openStep (name :: calls) v.token next = name :: calls := by
  have hparen : next ≠ .leftParen := fun h => not_separates_leftParen (h ▸ hnext)
  cases v with
  | identifier field => exact if_neg (by simp [hparen])
  | _ => rfl

/-- Each move does to the open calls what its token says. -/
theorem Step.calls {limit : Nat} {s s' : State} {k next : Kind} (h : Step limit s k next s') :
    s'.calls = openStep s.calls k next := by
  cases h with
  | root => rfl
  | opening _ => rfl
  | firstCall => exact (openStep_call _ _).symm
  | @firstName function name _ _ hnext => exact (openStep_value (.identifier name) hnext _ _).symm
  | call => exact (openStep_call _ _).symm
  | @value v _ _ _ hnext => exact (openStep_value v hnext _ _).symm
  | comma => rfl
  | close => exact State.calls_close _ _

theorem length_openStep_le (calls : List String) (current next : Kind) :
    (openStep calls current next).length ≤ calls.length + 1 := by
  unfold openStep
  split
  · split <;> simp
  · rw [List.length_tail]
    omega
  · omega

theorem length_openAfter_le (behind : Token) (calls : List String) (ts : List Token) :
    (openAfter behind calls ts).length ≤ calls.length + ts.length := by
  induction ts generalizing calls with
  | nil => exact Nat.le_refl _
  | cons t ts ih =>
    have hstep := length_openStep_le calls t.kind (ts.headD behind).kind
    have hrest := ih (openStep calls t.kind (ts.headD behind).kind)
    rw [openAfter, List.length_cons]
    omega

/-- By induction on the tokens: the machine takes the tokens up to where it stops, and has then open what
they left open. -/
theorem run_open (limit : Nat) (eof : Token) (s : State) (ts : List Token) :
    ∃ used, ts = used ++ (run limit 0 eof s ts).2 ∧
      (run limit 0 eof s ts).1.calls = openAfter ((run limit 0 eof s ts).2.headD eof) s.calls used := by
  induction ts generalizing s with
  | nil => exact ⟨[], rfl, rfl⟩
  | cons t ts ih =>
    rw [run]
    cases h : step limit 0 s t (ts.headD eof) with
    | none => exact ⟨[], rfl, rfl⟩
    | some s' =>
      obtain ⟨used, hts, hcalls⟩ := ih s'
      refine ⟨t :: used, congrArg (t :: ·) hts, ?_⟩
      have hnext : used.headD ((run limit 0 eof s' ts).2.headD eof) = ts.headD eof := by
        rw [← headD_append, ← hts]
      rw [openAfter, hnext, ← (Step.of_step h).calls]
      exact hcalls

/-! ## One reading -/

/-- The token that is `n` tokens ahead. Behind the last one, the end of input is repeated. -/
def ahead (p : Parser) (n : Nat) : Token := p.pending.getD n p.eof

/-- What a reading leaves behind. -/
theorem read_snd (p : Parser) :
    p.read.2 = { p with
      pending := (run (p.limit - p.opened) 0 p.eof .root p.pending).2
      opened := p.opened + (run (p.limit - p.opened) 0 p.eof .root p.pending).1.height } := by
  rw [read, run_fresh]
  split
  · rename_i h
    rw [h]
    rfl
  · rename_i h
    rw [h]

theorem ahead_zero (p : Parser) : p.ahead 0 = p.pending.headD p.eof := by
  rw [ahead]
  cases p.pending <;> rfl

/-- A reading takes the tokens up to where it stops, and the calls that these left open are added to the
account. -/
theorem read_open (p : Parser) :
    ∃ used, p.pending = used ++ p.read.2.pending ∧
      p.read.2.opened = p.opened + (openAfter (p.read.2.ahead 0) [] used).length := by
  obtain ⟨used, hused, hcalls⟩ := run_open (p.limit - p.opened) p.eof .root p.pending
  refine ⟨used, ?_, ?_⟩
  · rw [read_snd]
    exact hused
  · rw [ahead_zero, read_snd, ← State.length_calls, hcalls]
    rfl

theorem opened_of_read_ok {p : Parser} {f : Call} (h : p.read.1 = .ok f) :
    p.read.2.opened = p.opened := by
  have hrun : run (p.limit - p.opened) 0 p.eof .root p.pending = (.finished f, []) :=
    run_root_iff.mpr (read_eq_ok_iff.mp h)
  rw [read_snd, hrun]
  rfl

/-- A reading changes only the tokens left and the number of open calls. -/
theorem read_snd_eq_self {p : Parser} (hpending : p.read.2.pending = p.pending)
    (hopened : p.read.2.opened = p.opened) : p.read.2 = p := by
  rw [read_snd] at hpending hopened ⊢
  simp only at hpending hopened
  rw [hpending, hopened]

/-- The same reader, with no call open. The calls that were open are taken off the limit. -/
def fresh (p : Parser) : Parser := { pending := p.pending, eof := p.eof, limit := p.limit - p.opened }

end Parser

/-- The same error, but naming another limit. -/
def ParseError.naming (limit : Nat) (e : ParseError) : ParseError :=
  match e.cause with
  | .tooDeep _ => { e with cause := .tooDeep limit }
  | _ => e

theorem ParseError.naming_blame (limit : Nat) (wanted : Wanted) (t : Token) :
    (blame wanted t).naming limit = blame wanted t := by
  obtain ⟨kind, span⟩ := t
  cases kind <;> rfl

namespace Parser

theorem exists_blame_parameterError (current next : Token) :
    ∃ wanted, parameterError current next = .blame wanted current ∨
      parameterError current next = .blame wanted next := by
  rw [parameterError]
  split
  · exact ⟨_, .inl rfl⟩
  split
  · exact ⟨_, .inl rfl⟩
  · exact ⟨_, .inr rfl⟩

theorem naming_parameterError (limit : Nat) (current next : Token) :
    (parameterError current next).naming limit = parameterError current next := by
  obtain ⟨wanted, h | h⟩ := exists_blame_parameterError current next
  · rw [h, ParseError.naming_blame]
  · rw [h, ParseError.naming_blame]

theorem State.error_fresh (limit opened : Nat) (s : State) (current next : Token) :
    s.error limit opened current next =
      (s.error (limit - opened) 0 current next).naming limit := by
  cases s with
  | root => exact (ParseError.naming_blame limit _ _).symm
  | opening name outer =>
    simp only [State.error, State.fits_fresh limit opened]
    split
    · exact (ParseError.naming_blame limit _ _).symm
    · rfl
  | first name outer =>
    simp only [State.error]
    split
    · exact (naming_parameterError limit _ _).symm
    · exact (ParseError.naming_blame limit _ _).symm
  | parameter inner outer => exact (naming_parameterError limit _ _).symm
  | separator inner outer => exact (ParseError.naming_blame limit _ _).symm
  | finished filter => exact (ParseError.naming_blame limit _ _).symm

/-- A reader with open calls reads like a fresh one with a smaller limit. Only the limit that an error
names is its own. -/
theorem read_fresh (p : Parser) : p.read.1 = p.fresh.read.1.mapError (.naming p.limit) := by
  have herror (s : State) (rest : List Token) :=
    congrArg (Except.error : ParseError → Except ParseError Call)
      (s.error_fresh p.limit p.opened (rest.headD p.eof) (rest.tail.headD p.eof))
  have hfresh : run p.fresh.limit p.fresh.opened p.fresh.eof .root p.fresh.pending =
      run p.limit p.opened p.eof .root p.pending := (run_fresh p.limit p.opened p.eof .root p.pending).symm
  rw [read, read, hfresh]
  obtain ⟨s, rest⟩ := run p.limit p.opened p.eof .root p.pending
  cases s with
  | finished filter =>
    cases rest with
    | nil => rfl
    | cons t rest => exact herror (.finished filter) (t :: rest)
  | _ => exact herror _ rest

/-! ## Sessions -/

inductive Op where
  | read
  | withLimit (limit : Nat)
  deriving DecidableEq, Repr

def perform (p : Parser) : Op → Parser
  | .read => p.read.2
  | .withLimit limit => p.withLimit limit

/-- The reader after a sequence of operations. -/
def after (p : Parser) (ops : List Op) : Parser := ops.foldl perform p

/-- The tokens of the text are those that were taken and those that are left, and no more calls are open
than tokens were taken. -/
structure Tracks (source : String) (used : List Token) (p : Parser) : Prop where
  tokens_eq : Token.scanAll 0 source.toList = used ++ p.pending
  eof_eq : p.eof = .endAt source.utf8ByteSize
  opened_le : p.opened ≤ used.length

namespace Tracks

variable {source : String} {used : List Token} {p : Parser}

theorem read (h : Tracks source used p) : ∃ more, Tracks source (used ++ more) p.read.2 := by
  obtain ⟨more, hpending, hopened⟩ := p.read_open
  refine ⟨more, ?_, ?_, ?_⟩
  · rw [h.tokens_eq, hpending, List.append_assoc]
  · rw [read_snd]
    exact h.eof_eq
  · have hlength := length_openAfter_le (p.read.2.ahead 0) [] more
    have hle := h.opened_le
    rw [hopened, List.length_append]
    rw [List.length_nil] at hlength
    omega

theorem perform (h : Tracks source used p) (op : Op) :
    ∃ more, Tracks source (used ++ more) (p.perform op) := by
  cases op with
  | read => exact h.read
  | withLimit limit => exact ⟨[], by rw [List.append_nil]; exact ⟨h.tokens_eq, h.eof_eq, h.opened_le⟩⟩

theorem after (h : Tracks source used p) (ops : List Op) :
    ∃ more, Tracks source (used ++ more) (p.after ops) := by
  induction ops generalizing used p with
  | nil => exact ⟨[], by rw [List.append_nil]; exact h⟩
  | cons op ops ih =>
    obtain ⟨more, hop⟩ := h.perform op
    obtain ⟨more', hops⟩ := ih hop
    exact ⟨more ++ more', by rw [← List.append_assoc]; exact hops⟩

end Tracks

theorem tracks_ofSource (source : String) : Tracks source [] (ofSource source) :=
  ⟨rfl, rfl, Nat.le_refl 0⟩

/-! ## Two tokens ahead -/

/-- A cursor, with the two tokens before it read already. -/
structure Lookahead where
  current : Token
  peek : Token
  cursor : Cursor

namespace Lookahead

def start (c : Cursor) : Lookahead := ⟨c.next.1, c.next.2.next.1, c.next.2.next.2⟩

/-- Gives the current token away and reads another one. -/
def advance (l : Lookahead) : Lookahead := ⟨l.peek, l.cursor.next.1, l.cursor.next.2⟩

def skip : Nat → Lookahead → Lookahead
  | 0, l => l
  | n + 1, l => skip n l.advance

theorem skip_start (k : Nat) (c : Cursor) :
    skip k (start c) = ⟨(c.skip k).next.1, (c.skip (k + 1)).next.1, c.skip (k + 2)⟩ := by
  induction k generalizing c with
  | zero => rfl
  | succ k ih =>
    have hadvance : (start c).advance = start c.next.2 := rfl
    rw [skip, hadvance, ih]
    rfl

/-- The tokens ahead are those that the reader has ahead, with the end of input repeated for ever. -/
structure Sees (l : Lookahead) (p : Parser) : Prop where
  current_eq : l.current = p.ahead 0
  peek_eq : l.peek = p.ahead 1
  cursor_eq : ∀ n, (l.cursor.skip n).next.1 = p.ahead (n + 2)

end Lookahead

namespace Tracks

variable {source : String} {used : List Token} {p : Parser}

theorem ahead_eq (h : Tracks source used p) (n : Nat) :
    p.ahead n = (tokenize source).getD (used.length + n) (.endAt source.utf8ByteSize) := by
  rw [tokenize, getD_concat, h.tokens_eq, ahead, h.eof_eq, List.getD_eq_getElem?_getD,
    List.getD_eq_getElem?_getD, List.getElem?_append_right (Nat.le_add_right _ _),
    Nat.add_sub_cancel_left]

theorem sees (h : Tracks source used p) :
    ((Lookahead.start (.start source)).skip used.length).Sees p := by
  rw [Lookahead.skip_start]
  refine ⟨?_, ?_, fun n => ?_⟩
  · exact (Cursor.next_skip_start source _).trans (h.ahead_eq 0).symm
  · exact (Cursor.next_skip_start source _).trans (h.ahead_eq 1).symm
  · rw [Cursor.skip_skip, Cursor.next_skip_start, h.ahead_eq, Nat.add_assoc, Nat.add_comm 2 n]

theorem length_le (h : Tracks source used p) :
    used.length + p.pending.length ≤ source.utf8ByteSize := by
  have hlength := Token.length_scanAll_le 0 source.toList
  rw [h.tokens_eq, List.length_append, byteLength_toList] at hlength
  exact hlength

/-- In the middle of a reading, too, no more calls are open than tokens were taken. -/
theorem opened_le_of_moves (h : Tracks source used p) {limit : Nat} {behind : Token} {s : State}
    {taken : List Token} (hmoves : Moves limit behind .root taken s) :
    p.opened + s.height ≤ (used ++ taken).length := by
  have hopened := h.opened_le
  have hheight := hmoves.height_le_length
  rw [List.length_append]
  omega

end Tracks

/-- At any point of a session the tokens taken and those left are the tokens of the text, and never more
calls are open than tokens were taken, not even in the middle of a reading. A reading gives what a fresh
reader would with the open calls taken off the limit, and adds to them the calls that it leaves open. -/
theorem session_keeps_account (source : String) (ops : List Op) :
    let p := (ofSource source).after ops
    (∃ used, tokenize source = used ++ p.pending ++ [.endAt source.utf8ByteSize] ∧
      (∀ t ∈ used ++ p.pending, t.toClass ≠ .eof) ∧
      (∀ n, p.ahead n = (tokenize source).getD (used.length + n) (.endAt source.utf8ByteSize)) ∧
      ((Lookahead.start (.start source)).skip used.length).Sees p ∧
      p.opened ≤ used.length ∧ used.length ≤ source.utf8ByteSize ∧
      ∀ taken rest s, p.pending = taken ++ rest →
        Moves (p.limit - p.opened) (rest.headD p.eof) .root taken s →
        p.opened + s.height ≤ (used ++ taken).length ∧
          (used ++ taken).length ≤ source.utf8ByteSize) ∧
    p.read.1 = p.fresh.read.1.mapError (.naming p.limit) ∧
    (∀ f, p.read.1 = .ok f → p.read.2.opened = p.opened) ∧
    (∀ e, p.read.1 = .error e → ∃ used, p.pending = used ++ p.read.2.pending ∧
      p.read.2.opened = p.opened + (openAfter (p.read.2.ahead 0) [] used).length ∧
      (used = [] → p.read.2 = p)) := by
  intro p
  obtain ⟨used, htracks⟩ := (tracks_ofSource source).after ops
  rw [List.nil_append] at htracks
  have hlength := htracks.length_le
  refine ⟨⟨used, ?_, ?_, htracks.ahead_eq, htracks.sees, htracks.opened_le, by omega, ?_⟩, p.read_fresh,
    fun f => opened_of_read_ok, fun e _ => ?_⟩
  · rw [tokenize, htracks.tokens_eq]
  · intro t ht
    rw [← htracks.tokens_eq] at ht
    exact (Token.of_mem_scanAll ht).1
  · intro taken rest s hpending hmoves
    refine ⟨htracks.opened_le_of_moves hmoves, ?_⟩
    rw [hpending, List.length_append] at hlength
    rw [List.length_append]
    omega
  · obtain ⟨used, hpending, hopened⟩ := p.read_open
    refine ⟨used, hpending, hopened, ?_⟩
    rintro rfl
    exact read_snd_eq_self hpending.symm hopened

end Parser

end FilterExpr
