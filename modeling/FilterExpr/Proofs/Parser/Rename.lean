import FilterExpr.Parser

/-!
# FilterExpr.Proofs.Parser.Rename

The parser never looks at the spelling of a name. If the names in the tokens are changed by a function
`g`, the machine makes the same moves (`step_rename`, `run_rename`), so it returns the tree with its
names changed by `g`, or the very same error (`read_rename`).
-/

namespace FilterExpr

open Token (Kind)

/-! ## Changing names -/

def Value.rename (g : String → String) : Value → Value
  | .identifier name => .identifier (g name)
  | .string pattern => .string pattern
  | .integer digits => .integer digits
  | .decimal digits => .decimal digits

mutual

/-- The tree with all names changed, those of functions and those of fields. -/
def Call.rename (g : String → String) : Call → Call
  | ⟨name, params⟩ => ⟨g name, Param.renameAll g params⟩

def Param.renameAll (g : String → String) : List Param → List Param
  | [] => []
  | p :: ps => p.rename g :: Param.renameAll g ps

def Param.rename (g : String → String) : Param → Param
  | .value v => .value (v.rename g)
  | .call c => .call (c.rename g)

end

def Token.Kind.rename (g : String → String) : Kind → Kind
  | .identifier name => .identifier (g name)
  | .illegal text => .illegal text
  | .eof => .eof
  | .string pattern => .string pattern
  | .integer digits => .integer digits
  | .decimal digits => .decimal digits
  | .comma => .comma
  | .leftParen => .leftParen
  | .rightParen => .rightParen

def Token.rename (g : String → String) (t : Token) : Token := { t with kind := t.kind.rename g }

namespace Parser

def Frame.rename (g : String → String) (f : Frame) : Frame :=
  ⟨g f.name, f.given.map (Param.rename g)⟩

def State.rename (g : String → String) : State → State
  | .root => .root
  | .opening name outer => .opening (g name) (outer.map (Frame.rename g))
  | .first name outer => .first (g name) (outer.map (Frame.rename g))
  | .parameter inner outer => .parameter (inner.rename g) (outer.map (Frame.rename g))
  | .separator inner outer => .separator (inner.rename g) (outer.map (Frame.rename g))
  | .finished filter => .finished (filter.rename g)

end Parser

section

variable (g : String → String)

theorem Param.renameAll_eq_map (ps : List Param) : Param.renameAll g ps = ps.map (Param.rename g) := by
  induction ps with
  | nil => rfl
  | cons p ps ih => rw [Param.renameAll, ih, List.map_cons]

/-! ## What tokens show -/

@[simp] theorem Token.kind_rename (t : Token) : (t.rename g).kind = t.kind.rename g := rfl

@[simp] theorem Token.span_rename (t : Token) : (t.rename g).span = t.span := rfl

@[simp] theorem Token.Kind.toClass_rename (k : Kind) : (k.rename g).toClass = k.toClass := by
  cases k <;> rfl

@[simp] theorem Token.toClass_rename (t : Token) : (t.rename g).toClass = t.toClass :=
  t.kind.toClass_rename g

theorem Token.Kind.rename_eq_iff {k l : Kind} (hl : l.toClass ≠ .identifier) :
    k.rename g = l ↔ k = l := by
  cases k with
  | identifier name =>
    constructor
    · rintro rfl
      exact absurd rfl hl
    · rintro rfl
      exact absurd rfl hl
  | _ => rfl

theorem Value.ofToken?_rename (k : Token.Kind) :
    Value.ofToken? (k.rename g) = (Value.ofToken? k).map (Value.rename g) := by
  cases k <;> rfl

theorem ParseError.blame_rename (wanted : Wanted) (t : Token) :
    blame wanted (t.rename g) = blame wanted t := by
  obtain ⟨kind, span⟩ := t
  cases kind <;> rfl

namespace Parser

theorem endsParameter_rename (t : Token) : endsParameter (t.rename g) = endsParameter t := by
  simp (disch := decide) only [endsParameter, Token.kind_rename, Kind.rename_eq_iff]

/-! ## The machine -/

theorem Frame.rename_push (f : Frame) (p : Param) :
    (f.push p).rename g = (f.rename g).push (p.rename g) := rfl

theorem Frame.rename_close (f : Frame) : f.close.rename g = (f.rename g).close := by
  rw [Frame.close, Call.rename, Param.renameAll_eq_map, List.map_reverse]
  rfl

theorem State.rename_close (inner : Frame) (outer : List Frame) :
    (State.close inner outer).rename g =
      State.close (inner.rename g) (outer.map (Frame.rename g)) := by
  cases outer with
  | nil => rw [State.close, State.rename, Frame.rename_close]; rfl
  | cons f outer =>
    rw [State.close, State.rename, Frame.rename_push, Param.rename, Frame.rename_close]
    rfl

theorem State.height_rename (s : State) : (s.rename g).height = s.height := by
  cases s <;> simp [State.rename, State.height]

theorem stepParameter_rename (inner : Frame) (outer : List Frame) (t next : Token) :
    stepParameter (inner.rename g) (outer.map (Frame.rename g)) (t.rename g) (next.rename g) =
      (stepParameter inner outer t next).map (State.rename g) := by
  simp (disch := decide) only [stepParameter, Token.kind_rename, Kind.rename_eq_iff,
    endsParameter_rename]
  split
  · cases t.kind <;> rfl
  · split
    · rw [Value.ofToken?_rename]
      cases Value.ofToken? t.kind <;> rfl
    · rfl

theorem step_rename (limit opened : Nat) (s : State) (t next : Token) :
    step limit opened (s.rename g) (t.rename g) (next.rename g) =
      (step limit opened s t next).map (State.rename g) := by
  cases s with
  | root =>
    simp only [State.rename, step, Token.kind_rename]
    cases t.kind <;> rfl
  | opening name outer =>
    have hheight := State.height_rename g (.opening name outer)
    rw [State.rename] at hheight ⊢
    simp (disch := decide) only [step, hheight, Token.kind_rename, Kind.rename_eq_iff]
    split <;> rfl
  | first name outer =>
    simp only [State.rename, step, Token.toClass_rename]
    split
    · exact stepParameter_rename g ⟨name, []⟩ outer t next
    · rfl
  | parameter inner outer => exact stepParameter_rename g inner outer t next
  | separator inner outer =>
    simp only [State.rename, step, Token.kind_rename]
    cases t.kind with
    | rightParen => exact congrArg some (State.rename_close g inner outer).symm
    | _ => rfl
  | finished filter => rfl

theorem headD_map_rename (ts : List Token) (eof : Token) :
    (ts.map (Token.rename g)).headD (eof.rename g) = (ts.headD eof).rename g := by
  cases ts <;> rfl

/-- By induction on the tokens: the machine stops at the same token, in the same state but for names. -/
theorem run_rename (limit opened : Nat) (eof : Token) (s : State) (ts : List Token) :
    run limit opened (eof.rename g) (s.rename g) (ts.map (Token.rename g)) =
      ((run limit opened eof s ts).1.rename g, (run limit opened eof s ts).2.map (Token.rename g)) := by
  induction ts generalizing s with
  | nil => rfl
  | cons t ts ih =>
    rw [List.map_cons, run, run, headD_map_rename, step_rename]
    cases step limit opened s t (ts.headD eof) with
    | none => rfl
    | some s' => exact ih s'

/-! ## Errors -/

theorem parameterError_rename (t next : Token) :
    parameterError (t.rename g) (next.rename g) = parameterError t next := by
  simp (disch := decide) only [parameterError, Token.kind_rename, Value.ofToken?_rename,
    Option.isNone_map, Kind.rename_eq_iff, ParseError.blame_rename]

theorem State.error_rename (limit opened : Nat) (s : State) (t next : Token) :
    (s.rename g).error limit opened (t.rename g) (next.rename g) = s.error limit opened t next := by
  cases s with
  | root => exact ParseError.blame_rename g _ t
  | opening name outer =>
    have hheight := State.height_rename g (.opening name outer)
    rw [State.rename] at hheight ⊢
    simp only [State.error, hheight, ParseError.blame_rename, Token.span_rename]
  | first name outer =>
    simp only [State.rename, State.error, Token.toClass_rename, parameterError_rename,
      ParseError.blame_rename]
  | parameter inner outer => exact parameterError_rename g t next
  | separator inner outer => exact ParseError.blame_rename g _ t
  | finished filter => exact ParseError.blame_rename g _ t

end Parser

/-- The same reader, with the names in its tokens changed. -/
def Parser.rename (p : Parser) : Parser :=
  { p with pending := p.pending.map (Token.rename g), eof := p.eof.rename g }

theorem Parser.read_rename (p : Parser) :
    (p.rename g).read.1 = p.read.1.map (Call.rename g) := by
  have hrun : run p.limit p.opened (p.eof.rename g) .root (p.pending.map (Token.rename g)) = _ :=
    run_rename g p.limit p.opened p.eof .root p.pending
  have herror (s : State) (rest : List Token) :
      (s.rename g).error p.limit p.opened ((rest.map (Token.rename g)).headD (p.eof.rename g))
          ((rest.map (Token.rename g)).tail.headD (p.eof.rename g)) =
        s.error p.limit p.opened (rest.headD p.eof) (rest.tail.headD p.eof) := by
    rw [← List.map_tail, headD_map_rename, headD_map_rename, State.error_rename]
  simp only [Parser.read, Parser.rename, hrun]
  obtain ⟨s, rest⟩ := run p.limit p.opened p.eof .root p.pending
  cases s with
  | finished filter =>
    cases rest with
    | nil => rfl
    | cons t rest => exact congrArg Except.error (herror (.finished filter) (t :: rest))
  | _ => exact congrArg Except.error (herror _ rest)

end

end FilterExpr
