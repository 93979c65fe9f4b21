import FilterExpr.Proofs.Parser.Moves
import FilterExpr.Proofs.Token.Layout
import Mathlib.Order.Bounds.Basic

/-!
# FilterExpr.Proofs.Parser.Viable

Where an error points. Tokens are viable if some filter starts with them, its end of input included.

* `State.viable`: the tokens that the machine has taken are viable, since the open calls can be closed.
* `Moves.step_of_filter`: over the tokens of a filter the machine has a move at every token. So a token
  for which there is none ends the viable tokens.
* `State.error_cases`: an error blames the token that has no move, whatever comes next. Or a value has no
  move because of the token behind it: then that token is to blame, except that a literal in front of a
  parenthesis is to blame itself.

Together: the error of a text is at the first token with which its tokens are not viable.
-/

namespace FilterExpr

open Token (Kind)

theorem Grammar.IsFilter.kinds_eq {ks : List Kind} {f : Call} (h : IsFilter ks f) :
    ks = f.kinds ++ [.eof] ∧ f.headed = true := by
  cases h with
  | filter hcall =>
    obtain ⟨rfl, hheaded⟩ := hcall.kinds_eq
    exact ⟨rfl, hheaded⟩

/-- Some filter starts with the tokens. -/
def Viable (ks : List Kind) : Prop := ∃ ls f, Grammar.IsFilter ls f ∧ ks <+: ls

theorem Viable.of_prefix {ks ls : List Kind} (h : Viable ls) (hks : ks <+: ls) : Viable ks := by
  obtain ⟨ms, f, hf, hls⟩ := h
  exact ⟨ms, f, hf, hks.trans hls⟩

theorem viable_kinds {f : Call} (hf : f.headed = true) : Viable f.kinds :=
  ⟨f.kinds ++ [.eof], f, Grammar.isFilter_iff.mpr ⟨rfl, hf⟩, List.prefix_append _ _⟩

namespace Parser

/-! ## What was taken is viable -/

theorem Step.viable {limit : Nat} {s s' : State} {k next : Kind} (h : Step limit s k next s')
    (hs : s.Sound limit) (hviable : Viable s'.taken) : Viable s.taken := by
  rw [h.taken hs] at hviable
  exact hviable.of_prefix (List.prefix_append _ _)

/-- By induction on the open calls, from the inside out: each is closed in turn. -/
theorem viable_separator {limit : Nat} {outer : List Frame} :
    ∀ {inner : Frame}, (State.separator inner outer).Sound limit →
      Viable (State.separator inner outer).taken := by
  induction outer with
  | nil =>
    intro inner hs
    have hclose : Step limit (.separator inner []) .rightParen .eof (.finished inner.close) :=
      .close
    exact hclose.viable hs (viable_kinds (hclose.sound hs).1)
  | cons f outer ih =>
    intro inner hs
    have hclose : Step limit (.separator inner (f :: outer)) .rightParen .eof
        (.separator (f.push (.call inner.close)) outer) := .close
    exact hclose.viable hs (ih (hclose.sound hs))

theorem State.viable {limit : Nat} {s : State} (hs : s.Sound limit) (hheight : s.height ≤ limit) :
    Viable s.taken := by
  have hfirst {name : String} {outer : List Frame} (h : (State.first name outer).Sound limit) :
      Viable (State.first name outer).taken := by
    have hstep : Step limit (.first name outer) (.identifier "a") .comma
        (.separator ⟨name, [.value (.identifier "a")]⟩ outer) := .firstName (.inl rfl)
    exact hstep.viable h (viable_separator (hstep.sound h))
  cases s with
  | root =>
    have hcall : Viable (Call.mk "a" [.value (.identifier "a")]).kinds := viable_kinds rfl
    exact hcall.of_prefix List.nil_prefix
  | opening name outer =>
    have hstep : Step limit (.opening name outer) .leftParen .eof (.first name outer) :=
      .opening hheight
    exact hstep.viable hs (hfirst (hstep.sound hs))
  | first name outer => exact hfirst hs
  | parameter inner outer =>
    have hstep : Step limit (.parameter inner outer) (Value.identifier "a").token .comma
        (.separator (inner.push (.value (.identifier "a"))) outer) := .value (.inl rfl)
    exact hstep.viable hs (viable_separator (hstep.sound hs))
  | separator inner outer => exact viable_separator hs
  | finished f => exact viable_kinds hs.1

/-! ## What is refused is not viable -/

/-- Over the tokens of a filter there is a move at every token but the end of input, where the machine
has finished. -/
theorem Moves.step_of_filter {limit : Nat} {current : Token} {used : List Token} {s : State}
    (h : Moves limit current .root used s) {ks : List Kind} {f : Call}
    (hf : Grammar.IsFilter (used.map Token.kind ++ current.kind :: ks) f) :
    (s = .finished f ∧ current.kind = .eof) ∨
      ∃ limit' next s', ks.head? = some next ∧ Step limit' s current.kind next s' := by
  -- a limit that neither the moves nor the filter reach
  have hmoves : Moves (used.length + f.depth) current .root used s :=
    h.with_limit (by simp [State.height])
  have hdepth : f.depth ≤ used.length + f.depth := Nat.le_add_left _ _
  rcases List.eq_nil_or_concat ks with rfl | ⟨ls, k, rfl⟩
  · -- the machine has taken all tokens of the filter
    obtain ⟨hkinds, hheaded⟩ := hf.kinds_eq
    obtain ⟨hused, hend⟩ := List.append_inj' hkinds rfl
    have hrun : run (used.length + f.depth) 0 current .root (used ++ []) = (.finished f, []) :=
      run_root_iff.mpr ⟨by rw [List.append_nil]; exact hused, hheaded, hdepth⟩
    rw [Moves.run_eq hmoves] at hrun
    cases hrun
    exact .inl ⟨rfl, by simpa using hend⟩
  · -- the machine goes on over the tokens that are left
    obtain ⟨hkinds, hheaded⟩ := hf.kinds_eq
    rw [List.concat_eq_append, ← List.cons_append, ← List.append_assoc] at hkinds
    obtain ⟨hinit, hend⟩ := List.append_inj' hkinds rfl
    let rest : List Token := ls.map fun k => ⟨k, .point 0⟩
    have hrest : rest.map Token.kind = ls := by
      simp only [rest, List.map_map]
      exact List.map_id _
    have hrun : run (used.length + f.depth) 0 (.endAt 0) .root (used ++ current :: rest) =
        (.finished f, []) := by
      refine run_root_iff.mpr ⟨?_, hheaded, hdepth⟩
      rw [List.map_append, List.map_cons, hrest]
      exact hinit
    have hnext : (ls.concat k).head? = some (rest.headD (.endAt 0)).kind := by
      cases ls with
      | nil => rw [(List.cons.inj hend).1]; rfl
      | cons l ls => rfl
    rw [Moves.run_eq hmoves, run] at hrun
    cases hstep : step (used.length + f.depth) 0 s current (rest.headD (.endAt 0)) with
    | none =>
      rw [hstep] at hrun
      cases hrun
    | some s' => exact .inr ⟨_, _, s', hnext, Step.of_step hstep⟩

/-- A token that has no move, whatever comes next. -/
theorem Moves.not_viable {limit : Nat} {current : Token} {used : List Token} {s : State}
    (h : Moves limit current .root used s) (hheight : s.height ≤ limit)
    (hstuck : ∀ next s', ¬Step limit s current.kind next s')
    (hend : ∀ f, s = .finished f → current.kind ≠ .eof) :
    ¬Viable (used.map Token.kind ++ [current.kind]) := by
  rintro ⟨_, f, hf, ks, rfl⟩
  rw [List.append_assoc] at hf
  obtain ⟨hs, heof⟩ | ⟨limit', next, s', _, hstep⟩ := h.step_of_filter hf
  · exact hend f hs heof
  · exact hstuck next s' (hstep.with_limit hheight)

/-- A token that has no move because of the token behind it. -/
theorem Moves.not_viable_next {limit : Nat} {current next : Token} {used : List Token} {s : State}
    (h : Moves limit current .root used s) (hheight : s.height ≤ limit)
    (hstuck : ∀ s', ¬Step limit s current.kind next.kind s') (hcurrent : current.kind ≠ .eof) :
    ¬Viable ((used ++ [current]).map Token.kind ++ [next.kind]) := by
  rintro ⟨_, f, hf, ks, rfl⟩
  simp only [List.map_append, List.map_cons, List.map_nil, List.append_assoc, List.cons_append,
    List.nil_append] at hf
  obtain ⟨_, heof⟩ | ⟨limit', next', s', hnext, hstep⟩ := h.step_of_filter hf
  · exact hcurrent heof
  · cases hnext
    exact hstuck s' (hstep.with_limit hheight)

/-! ## What is blamed -/

theorem parameterError_of_value {current : Token} {v : Value} (hv : current.kind = v.token)
    (next : Token) :
    ∃ wanted, parameterError current next =
      .blame wanted (if next.kind = .leftParen then current else next) := by
  rw [parameterError, hv, Value.ofToken?_token]
  by_cases hnext : next.kind = .leftParen
  · exact ⟨.functionName, by simp [hnext]⟩
  · exact ⟨.separator, by simp [hnext]⟩

theorem parameterError_of_no_value {current : Token} (hnone : Value.ofToken? current.kind = none)
    (next : Token) : parameterError current next = .blame .parameter current := by
  rw [parameterError, hnone]
  rfl

/-- The two reasons why the machine halts: no token of this kind can come here, or it is a value and
something is wrong with the token behind it. -/
theorem State.error_cases {limit : Nat} {s : State} {current next : Token}
    (hheight : s.height ≤ limit) (hstuck : ∀ s', ¬Step limit s current.kind next.kind s') :
    (∃ wanted, s.error limit 0 current next = .blame wanted current ∧
      ∀ next' s', ¬Step limit s current.kind next' s') ∨
    (∃ wanted v s', current.kind = Value.token v ∧ Step limit s current.kind .comma s' ∧
      (next.kind = .leftParen → v.isIdentifier = false) ∧
      s.error limit 0 current next =
        .blame wanted (if next.kind = .leftParen then current else next)) := by
  cases s with
  | root =>
    refine .inl ⟨_, rfl, fun next' s' hstep => ?_⟩
    generalize current.kind = k at hstep hstuck
    cases hstep
    exact hstuck _ .root
  | opening name outer =>
    refine .inl ⟨.openingParen, ?_, fun next' s' hstep => ?_⟩
    · rw [State.error, if_pos (by rw [Nat.zero_add]; exact hheight)]
    · generalize current.kind = k at hstep hstuck
      cases hstep
      exact hstuck _ (.opening hheight)
  | first name outer =>
    by_cases hclass : current.toClass = .identifier
    · obtain ⟨field, hfield⟩ := kind_eq_identifier hclass
      have hv : current.kind = (Value.identifier field).token := hfield
      obtain ⟨wanted, herror⟩ := parameterError_of_value hv next
      have hstep : Step limit (.first name outer) current.kind .comma
          (.separator ⟨name, [.value (.identifier field)]⟩ outer) := by
        rw [hfield]
        exact .firstName (.inl rfl)
      refine .inr ⟨wanted, _, _, hv, hstep, fun hparen => ?_, ?_⟩
      · rw [hfield, hparen] at hstuck
        exact absurd .firstCall (hstuck _)
      · rw [State.error, if_pos hclass, herror]
    · refine .inl ⟨.firstField, by rw [State.error, if_neg hclass], fun next' s' hstep => ?_⟩
      rw [Token.toClass] at hclass
      generalize current.kind = k at hstep hclass
      cases hstep with
      | firstCall => exact hclass rfl
      | firstName _ => exact hclass rfl
  | parameter inner outer =>
    cases hvalue : Value.ofToken? current.kind with
    | none =>
      refine .inl ⟨.parameter, parameterError_of_no_value hvalue next, fun next' s' hstep => ?_⟩
      generalize current.kind = k at hstep hvalue
      cases hstep with
      | call => cases hvalue
      | @value v _ _ _ _ =>
        rw [Value.ofToken?_token] at hvalue
        cases hvalue
    | some v =>
      have hv : current.kind = v.token := (Value.token_of_ofToken? hvalue).symm
      obtain ⟨wanted, herror⟩ := parameterError_of_value hv next
      have hstep : Step limit (.parameter inner outer) current.kind .comma
          (.separator (inner.push (.value v)) outer) := by
        rw [hv]
        exact .value (.inl rfl)
      refine .inr ⟨wanted, v, _, hv, hstep, fun hparen => ?_, herror⟩
      rw [hv, hparen] at hstuck
      cases v with
      | identifier field => exact absurd .call (hstuck _)
      | _ => rfl
  | separator inner outer =>
    refine .inl ⟨_, rfl, fun next' s' hstep => ?_⟩
    generalize current.kind = k at hstep hstuck
    cases hstep with
    | comma => exact hstuck _ .comma
    | close => exact hstuck _ .close
  | finished f =>
    refine .inl ⟨_, rfl, fun next' s' hstep => ?_⟩
    cases hstep

end Parser

/-- Strings and numbers. -/
def Token.Class.isLiteral : Token.Class → Bool
  | .string => true
  | .integer => true
  | .decimal => true
  | _ => false

/-- The token to blame if `t` is the first one that does not fit behind `before`. Only a name can be
called, so a literal in front of a parenthesis is to blame itself. -/
def culprit (before : List Token) (t : Token) : Token :=
  match before.getLast? with
  | some last => if t.kind = .leftParen ∧ last.toClass.isLiteral = true then last else t
  | none => t

theorem culprit_concat (before : List Token) (last t : Token) :
    culprit (before ++ [last]) t =
      if t.kind = .leftParen ∧ last.toClass.isLiteral = true then last else t := by
  rw [culprit, List.getLast?_concat]

namespace Parser

theorem Step.isLiteral_eq_false {limit : Nat} {s s' : State} {k : Kind}
    (h : Step limit s k .leftParen s') : k.toClass.isLiteral = false := by
  cases h with
  | value hnext => exact absurd hnext not_separates_leftParen
  | _ => rfl

/-- The machine never takes a literal in front of a parenthesis. -/
theorem Moves.culprit_eq {limit : Nat} {t : Token} {used : List Token} {s : State}
    (h : Moves limit t .root used s) : culprit used t = t := by
  rcases List.eq_nil_or_concat used with rfl | ⟨init, last, rfl⟩
  · rfl
  · rw [List.concat_eq_append] at h ⊢
    obtain ⟨s₁, _, hstep⟩ := h.last
    rw [culprit_concat, if_neg]
    rintro ⟨hparen, hliteral⟩
    rw [hparen] at hstep
    rw [Token.toClass, hstep.isLiteral_eq_false] at hliteral
    cases hliteral

theorem Halts.taken {limit : Nat} {eof : Token} {used rest : List Token} {s : State}
    (h : Halts limit eof .root used s rest) :
    s.Sound limit ∧ s.taken = used.map Token.kind := by
  have hsound := run_sound eof .root (used ++ rest) (show State.Sound limit .root from trivial)
  rw [h.moves.run_eq, run_of_stuck h.stuck, List.map_append] at hsound
  exact ⟨hsound.1, List.append_cancel_right hsound.2⟩

/-- Where the machine halts below the limit, the tokens split at the first one that does not fit. -/
theorem Halts.exists_misfit {limit : Nat} {eof : Token} {used rest : List Token} {s : State}
    (h : Halts limit eof .root used s rest) (heof : eof.kind = .eof) (hlimit : used.length < limit)
    (hend : ∀ f, s = .finished f → (rest.headD eof).kind ≠ .eof) :
    ∃ before t after wanted, used ++ rest ++ [eof] = before ++ t :: after ∧
      Viable (before.map Token.kind) ∧ ¬Viable (before.map Token.kind ++ [t.kind]) ∧
      s.error limit 0 (rest.headD eof) (rest.tail.headD eof) =
        .blame wanted (culprit before t) := by
  obtain ⟨hsound, htaken⟩ := h.taken
  have hused : s.height ≤ used.length := h.moves.height_le_length
  have hheight : s.height ≤ limit := by omega
  obtain ⟨wanted, herror, hstuck⟩ | ⟨wanted, v, s', hv, hstep, hparen, herror⟩ :=
    State.error_cases hheight h.stuck
  · -- the current token fits nothing
    refine ⟨used, rest.headD eof, (rest ++ [eof]).tail, wanted, ?_, ?_, ?_, ?_⟩
    · rw [List.append_assoc, ← concat_eq_headD_cons]
    · rw [← htaken]
      exact State.viable hsound hheight
    · exact h.moves.not_viable hheight hstuck hend
    · rw [herror, h.moves.culprit_eq]
  · -- the current token is a value, and the token behind it does not fit
    have hcurrent : (rest.headD eof).kind ≠ .eof := hstep.ne_eof
    cases rest with
    | nil => exact absurd heof hcurrent
    | cons current rest =>
      have hheight' : s'.height ≤ limit := by
        have := hstep.height_le
        omega
      refine ⟨used ++ [current], rest.headD eof, (rest ++ [eof]).tail, wanted, ?_, ?_, ?_, ?_⟩
      · rw [← concat_eq_headD_cons]
        simp
      · have hviable := State.viable (hstep.sound hsound) hheight'
        rw [hstep.taken hsound, htaken] at hviable
        rw [List.map_append]
        exact hviable
      · exact h.moves.not_viable_next hheight h.stuck hcurrent
      · have hliteral : (rest.headD eof).kind = .leftParen → current.toClass.isLiteral = true := by
          intro hnext
          have hname := hparen hnext
          rw [Token.toClass, show current.kind = v.token from hv]
          cases v with
          | identifier name => cases hname
          | _ => rfl
        rw [herror, culprit_concat]
        simp only [and_iff_left_of_imp hliteral]
        rfl

end Parser

/-! ## The first token that does not fit -/

theorem isLeast_misfit {ks ls : List Kind} {k : Kind} (hviable : Viable ks)
    (hmisfit : ¬Viable (ks ++ [k])) :
    IsLeast {n | ¬Viable ((ks ++ k :: ls).take (n + 1))} ks.length := by
  constructor
  · have htake : (ks ++ k :: ls).take (ks.length + 1) = ks ++ [k] := by
      rw [List.take_length_add_append]
      rfl
    change ¬Viable _
    rw [htake]
    exact hmisfit
  · intro n hn
    refine Nat.le_of_not_lt fun hlt => hn ?_
    rw [List.take_append_of_le_length hlt]
    exact hviable.of_prefix (List.take_prefix _ _)

/-- The error lies at the token and names its class, and it has the form for illegal tokens exactly if the
token is illegal. -/
structure ParseError.Blames (e : ParseError) (t : Token) : Prop where
  span_eq : e.span = t.span
  found_eq : e.found? = some t.toClass
  illegal_iff : (∃ text wanted, e.message =
    "illegal token " ++ Text.quoted text ++ ", expected " ++ Wanted.label wanted) ↔
      t.toClass = .illegal

theorem ParseError.blames_blame (wanted : Wanted) (t : Token) : (blame wanted t).Blames t :=
  ⟨span_blame wanted t, found?_blame wanted t, message_blame_iff wanted t⟩

/-- If a text is not read and the limit is out of reach, there is a first token `t` with which its tokens do
not start any filter. The error blames this token, or, if it is a parenthesis right behind a string or
a number, that literal. -/
theorem parse_error_at_first_misfit {source : String} {limit : Nat} {e : ParseError}
    (hlimit : (tokenize source).length < limit) (h : parse source limit = .error e) :
    ∃ before t after, tokenize source = before ++ t :: after ∧
      IsLeast {k | ¬Viable (((tokenize source).map Token.kind).take (k + 1))} before.length ∧
      e.Blames (culprit before t) := by
  obtain ⟨used, s, rest, hscan, hhalts, hnot, rfl⟩ := parse_eq_error_iff.mp h
  have htokens : tokenize source = used ++ rest ++ [.endAt source.utf8ByteSize] := by
    rw [← hscan]
    rfl
  have hused : used.length < limit := by
    rw [htokens] at hlimit
    simp only [List.length_append] at hlimit
    omega
  have hend : ∀ f, s = .finished f → (rest.headD (.endAt source.utf8ByteSize)).kind ≠ .eof := by
    intro f hs heof
    cases rest with
    | nil => exact hnot f hs rfl
    | cons t rest =>
      have hmem : t ∈ Token.scanAll 0 source.toList := by
        rw [hscan]
        simp
      exact (Token.of_mem_scanAll hmem).1 (congrArg Kind.toClass heof)
  obtain ⟨before, t, after, wanted, hsplit, hviable, hmisfit, herror⟩ :=
    hhalts.exists_misfit rfl hused hend
  have htokens' : tokenize source = before ++ t :: after := htokens.trans hsplit
  refine ⟨before, t, after, htokens', ?_, ?_⟩
  · rw [htokens', List.map_append, List.map_cons, ← List.length_map Token.kind]
    exact isLeast_misfit hviable hmisfit
  · rw [herror]
    exact ParseError.blames_blame wanted _

/-- A number that is called: the parenthesis does not fit, and the number in front of it is blamed. -/
theorem parse_error_at_called_number :
    (tokenize "and(eq(a,1), 5(b,2))").length < 64 ∧
    parse "and(eq(a,1), 5(b,2))" 64 = .error ⟨.unexpected .functionName .integer, ⟨13, 14⟩⟩ ∧
    ∃ before t after, tokenize "and(eq(a,1), 5(b,2))" = before ++ t :: after ∧
      IsLeast {k | ¬Viable (((tokenize "and(eq(a,1), 5(b,2))").map Token.kind).take (k + 1))}
        before.length ∧
      ParseError.Blames ⟨.unexpected .functionName .integer, ⟨13, 14⟩⟩ (culprit before t) := by
  have hlimit : (tokenize "and(eq(a,1), 5(b,2))").length < 64 := by decide +kernel
  have hparse : parse "and(eq(a,1), 5(b,2))" 64 =
      .error ⟨.unexpected .functionName .integer, ⟨13, 14⟩⟩ := by decide +kernel
  exact ⟨hlimit, hparse, parse_error_at_first_misfit hlimit hparse⟩

end FilterExpr
