import FilterExpr.Parser
import FilterExpr.Proofs.Grammar

/-!
# FilterExpr.Proofs.Parser.Machine

What the parsing machine does. A machine that is started with calls open moves like a fresh one with a
smaller limit (`step_fresh`, `run_fresh`), so that the rest is about fresh machines. `Parser.Step` lists
their moves, one constructor a move, and is the graph of `Parser.step` (`step_eq_some_iff`); it speaks of
the kinds of the current token and of the next one, since a move depends on nothing else.

* `State.taken`: the tokens on the way from the start to a state can be read off the state.
* `State.Sound`: the parameters collected so far are derivable and fit under the limit.
* `run_sound`: a run from a sound state ends in a sound state, and what it took is what the final state
  has more than the first one.
* `run_call`: on the tokens of a call that is headed and fits under the limit, the machine opens the
  call, collects its parameters and closes it.

Together they give `run_root_iff`: the machine accepts exactly the tokens that a tree spells, and returns
that tree.
-/

namespace FilterExpr

open Token (Kind)

namespace Parser

/-! ## Calls that were open before -/

theorem State.fits_fresh (limit opened : Nat) (name : String) (outer : List Frame) :
    opened + (State.opening name outer).height ≤ limit ↔
      0 + (State.opening name outer).height ≤ limit - opened := by
  rw [State.height]
  omega

theorem step_fresh (limit opened : Nat) (s : State) (current next : Token) :
    step limit opened s current next = step (limit - opened) 0 s current next := by
  cases s with
  | opening name outer => simp only [step, State.fits_fresh limit opened]
  | _ => rfl

/-- By induction on the tokens: the calls that were open are taken off the limit at every step. -/
theorem run_fresh (limit opened : Nat) (eof : Token) (s : State) (ts : List Token) :
    run limit opened eof s ts = run (limit - opened) 0 eof s ts := by
  induction ts generalizing s with
  | nil => rfl
  | cons t ts ih =>
    rw [run, run, step_fresh]
    cases step (limit - opened) 0 s t (ts.headD eof) with
    | none => rfl
    | some s' => exact ih s'

/-! ## Moves -/

/-- A kind of token that ends a parameter. -/
def Separates (k : Kind) : Prop := k = .comma ∨ k = .rightParen

/-- The moves of a fresh machine on a current token, with the next one in view. -/
inductive Step (limit : Nat) : State → Kind → Kind → State → Prop where
  | root {name : String} {next : Kind} :
      Step limit .root (.identifier name) next (.opening name [])
  | opening {name : String} {outer : List Frame} {next : Kind} : outer.length + 1 ≤ limit →
      Step limit (.opening name outer) .leftParen next (.first name outer)
  | firstCall {function name : String} {outer : List Frame} :
      Step limit (.first function outer) (.identifier name) .leftParen
        (.opening name (⟨function, []⟩ :: outer))
  | firstName {function name : String} {outer : List Frame} {next : Kind} : Separates next →
      Step limit (.first function outer) (.identifier name) next
        (.separator ⟨function, [.value (.identifier name)]⟩ outer)
  | call {name : String} {inner : Frame} {outer : List Frame} :
      Step limit (.parameter inner outer) (.identifier name) .leftParen
        (.opening name (inner :: outer))
  | value {v : Value} {inner : Frame} {outer : List Frame} {next : Kind} : Separates next →
      Step limit (.parameter inner outer) v.token next (.separator (inner.push (.value v)) outer)
  | comma {inner : Frame} {outer : List Frame} {next : Kind} :
      Step limit (.separator inner outer) .comma next (.parameter inner outer)
  | close {inner : Frame} {outer : List Frame} {next : Kind} :
      Step limit (.separator inner outer) .rightParen next (.close inner outer)

theorem endsParameter_iff {t : Token} : endsParameter t = true ↔ Separates t.kind := by
  simp [endsParameter, Separates]

theorem not_separates_leftParen : ¬Separates .leftParen := by
  rintro (h | h) <;> cases h

/-- The two ways to take a parameter. -/
theorem stepParameter_eq_some {inner : Frame} {outer : List Frame} {t next : Token} {s : State}
    (h : stepParameter inner outer t next = some s) :
    (∃ name, t.kind = .identifier name ∧ next.kind = .leftParen ∧
      s = .opening name (inner :: outer)) ∨
    (∃ v : Value, t.kind = v.token ∧ Separates next.kind ∧
      s = .separator (inner.push (.value v)) outer) := by
  rw [stepParameter] at h
  split at h
  · rename_i hnext
    split at h
    · rename_i name hname
      cases h
      exact .inl ⟨name, hname, hnext, rfl⟩
    · cases h
  · split at h
    · rename_i hends
      obtain ⟨v, hv, rfl⟩ := Option.map_eq_some_iff.mp h
      exact .inr ⟨v, (Value.token_of_ofToken? hv).symm, endsParameter_iff.mp hends, rfl⟩
    · cases h

theorem stepParameter_call {inner : Frame} {outer : List Frame} {t next : Token} {name : String}
    (ht : t.kind = .identifier name) (hnext : next.kind = .leftParen) :
    stepParameter inner outer t next = some (.opening name (inner :: outer)) := by
  rw [stepParameter, if_pos hnext, ht]

theorem stepParameter_value {inner : Frame} {outer : List Frame} {t next : Token} {v : Value}
    (ht : t.kind = v.token) (hnext : Separates next.kind) :
    stepParameter inner outer t next = some (.separator (inner.push (.value v)) outer) := by
  have hparen : next.kind ≠ .leftParen := fun h => not_separates_leftParen (h ▸ hnext)
  rw [stepParameter, if_neg hparen, if_pos (endsParameter_iff.mpr hnext), ht, Value.ofToken?_token]
  rfl

theorem kind_eq_identifier {t : Token} (h : t.toClass = .identifier) :
    ∃ name, t.kind = .identifier name := by
  rw [Token.toClass] at h
  cases hk : t.kind with
  | identifier name => exact ⟨name, rfl⟩
  | _ => rw [hk] at h; cases h

theorem Step.of_step {limit : Nat} {s s' : State} {t next : Token}
    (h : step limit 0 s t next = some s') : Step limit s t.kind next.kind s' := by
  cases s with
  | root =>
    simp only [step] at h
    split at h
    · rename_i name hk
      cases h
      rw [hk]
      exact .root
    · cases h
  | opening name outer =>
    simp only [step] at h
    split at h
    · rename_i hc
      cases h
      rw [hc.2]
      rw [Nat.zero_add] at hc
      exact .opening hc.1
    · cases h
  | first function outer =>
    simp only [step] at h
    split at h
    · rename_i hclass
      rcases stepParameter_eq_some h with ⟨name, hk, hnext, rfl⟩ | ⟨v, hk, hnext, rfl⟩
      · rw [hk, hnext]
        exact .firstCall
      · obtain ⟨name, hname⟩ := kind_eq_identifier hclass
        rw [hname] at hk ⊢
        cases v with
        | identifier n => cases hk; exact .firstName hnext
        | _ => cases hk
    · cases h
  | parameter inner outer =>
    rcases stepParameter_eq_some h with ⟨name, hk, hnext, rfl⟩ | ⟨v, hk, hnext, rfl⟩
    · rw [hk, hnext]
      exact .call
    · rw [hk]
      exact .value hnext
  | separator inner outer =>
    simp only [step] at h
    split at h
    · rename_i hk
      cases h
      rw [hk]
      exact .comma
    · rename_i hk
      cases h
      rw [hk]
      exact .close
    · cases h
  | finished f => cases h

theorem Step.step_eq {limit : Nat} {s s' : State} {t next : Token}
    (h : Step limit s t.kind next.kind s') : step limit 0 s t next = some s' := by
  generalize hk : t.kind = k at h
  generalize hn : next.kind = n at h
  cases h with
  | root => simp only [step, hk]
  | opening hlimit =>
    simp only [step]
    rw [if_pos ⟨by rw [Nat.zero_add]; exact hlimit, hk⟩]
  | firstCall =>
    simp only [step]
    rw [if_pos (by rw [Token.toClass, hk]; rfl), stepParameter_call hk hn]
  | firstName hnext =>
    simp only [step]
    rw [if_pos (by rw [Token.toClass, hk]; rfl),
      stepParameter_value (v := .identifier _) hk (hn ▸ hnext)]
    rfl
  | call => exact stepParameter_call hk hn
  | value hnext => exact stepParameter_value hk (hn ▸ hnext)
  | comma => simp only [step, hk]
  | close => simp only [step, hk]

theorem step_eq_some_iff {limit : Nat} {s s' : State} {t next : Token} :
    step limit 0 s t next = some s' ↔ Step limit s t.kind next.kind s' :=
  ⟨Step.of_step, Step.step_eq⟩

theorem run_cons_of_step {limit : Nat} {eof t : Token} {ts : List Token} {s s' : State}
    (h : Step limit s t.kind (ts.headD eof).kind s') :
    run limit 0 eof s (t :: ts) = run limit 0 eof s' ts := by
  rw [run, step_eq_some_iff.mpr h]

/-! ## What a state has taken -/

/-- The tokens of an open call up to its last parameter. -/
def Frame.kinds (f : Frame) : List Kind :=
  .identifier f.name :: .leftParen :: Param.allKinds f.given.reverse

/-- The tokens of an open call up to where its next parameter stands. -/
def Frame.before (f : Frame) : List Kind :=
  .identifier f.name :: .leftParen :: Param.lead f.given.reverse

theorem Frame.kinds_push (f : Frame) (p : Param) : (f.push p).kinds = f.before ++ p.kinds := by
  rw [Frame.kinds, Frame.push, List.reverse_cons, Param.allKinds_concat]
  rfl

theorem Frame.before_eq {f : Frame} (h : f.given ≠ []) : f.before = f.kinds ++ [.comma] := by
  rw [Frame.before, Param.lead, if_neg (by simpa using h)]
  rfl

theorem Frame.kinds_close (f : Frame) : f.close.kinds = f.kinds ++ [.rightParen] := by
  rw [Frame.close, Call.kinds, Frame.kinds]
  rfl

/-- The tokens of the open calls, which are listed from the inside out. -/
def outerKinds : List Frame → List Kind
  | [] => []
  | f :: outer => outerKinds outer ++ f.before

/-- The tokens that lead from the start to a state. -/
def State.taken : State → List Kind
  | .root => []
  | .opening name outer => outerKinds outer ++ [.identifier name]
  | .first name outer => outerKinds (⟨name, []⟩ :: outer)
  | .parameter inner outer => outerKinds (inner :: outer)
  | .separator inner outer => outerKinds outer ++ inner.kinds
  | .finished filter => filter.kinds

theorem State.taken_close (inner : Frame) (outer : List Frame) :
    (State.close inner outer).taken = outerKinds outer ++ inner.kinds ++ [.rightParen] := by
  cases outer with
  | nil => simp [State.close, State.taken, outerKinds, Frame.kinds_close]
  | cons f outer =>
    simp [State.close, State.taken, outerKinds, Frame.kinds_push, Param.kinds, Frame.kinds_close]

/-! ## What a state has checked -/

/-- The parameters of an open call at a height are derivable, and they fit under the limit. -/
structure Frame.Sound (limit height : Nat) (f : Frame) : Prop where
  height_le : height ≤ limit
  depth_le : ∀ p ∈ f.given, height + p.depth ≤ limit
  headed : ∀ p ∈ f.given, p.headed = true
  nameFirst : f.given ≠ [] → Param.nameFirst f.given.reverse = true

def SoundStack (limit : Nat) : List Frame → Prop
  | [] => True
  | f :: outer => f.Sound limit (outer.length + 1) ∧ SoundStack limit outer

/-- The invariant of the machine. Behind a parameter the innermost call is not empty. -/
def State.Sound (limit : Nat) : State → Prop
  | .root => True
  | .opening _ outer => SoundStack limit outer
  | .first name outer => SoundStack limit (⟨name, []⟩ :: outer)
  | .parameter inner outer => inner.given ≠ [] ∧ SoundStack limit (inner :: outer)
  | .separator inner outer => inner.given ≠ [] ∧ SoundStack limit (inner :: outer)
  | .finished filter => filter.headed = true ∧ filter.depth ≤ limit

theorem Frame.Sound.empty {limit height : Nat} (h : height ≤ limit) (name : String) :
    Frame.Sound limit height ⟨name, []⟩ where
  height_le := h
  depth_le := by simp
  headed := by simp
  nameFirst := by simp

theorem Frame.Sound.push {limit height : Nat} {f : Frame} (h : f.Sound limit height) {p : Param}
    (hdepth : height + p.depth ≤ limit) (hheaded : p.headed = true)
    (hfirst : f.given = [] → p.startsWithName = true) : (f.push p).Sound limit height where
  height_le := h.height_le
  depth_le := List.forall_mem_cons.mpr ⟨hdepth, h.depth_le⟩
  headed := List.forall_mem_cons.mpr ⟨hheaded, h.headed⟩
  nameFirst := by
    intro _
    rw [Frame.push, List.reverse_cons]
    by_cases hg : f.given = []
    · rw [hg]
      exact hfirst hg
    · rw [Param.nameFirst_concat (by simpa using hg)]
      exact h.nameFirst hg

/-- A call that is closed is derivable, and with its own height it fits under the limit. -/
theorem Frame.Sound.close {limit height : Nat} {f : Frame} (h : f.Sound limit (height + 1))
    (hne : f.given ≠ []) : f.close.headed = true ∧ height + f.close.depth ≤ limit := by
  have hheight := h.height_le
  refine ⟨Call.headed_iff.mpr ⟨h.nameFirst hne, fun p hp => h.headed p (by simpa using hp)⟩, ?_⟩
  have hdepth : f.close.depth ≤ limit - height := by
    refine Call.depth_le_iff.mpr ⟨by omega, fun p hp => ?_⟩
    have := h.depth_le p (by simpa using hp)
    omega
  omega

theorem State.sound_close {limit : Nat} {inner : Frame} {outer : List Frame}
    (hne : inner.given ≠ []) (h : SoundStack limit (inner :: outer)) :
    (State.close inner outer).Sound limit := by
  obtain ⟨hinner, houter⟩ := h
  obtain ⟨hheaded, hdepth⟩ := hinner.close hne
  cases outer with
  | nil => exact ⟨hheaded, by simpa using hdepth⟩
  | cons f outer => exact ⟨by simp [Frame.push], houter.1.push hdepth hheaded fun _ => rfl, houter.2⟩

theorem Step.sound {limit : Nat} {s s' : State} {k next : Kind} (h : Step limit s k next s')
    (hs : s.Sound limit) : s'.Sound limit := by
  cases h with
  | root => trivial
  | opening hlimit => exact ⟨.empty hlimit _, hs⟩
  | firstCall => exact hs
  | firstName _ =>
    obtain ⟨hf, houter⟩ := hs
    refine ⟨by simp, ?_, houter⟩
    exact hf.push (p := .value _) (by simpa [Param.depth] using hf.height_le) rfl fun _ => rfl
  | call => exact hs.2
  | value _ =>
    obtain ⟨hne, hf, houter⟩ := hs
    refine ⟨by simp [Frame.push], ?_, houter⟩
    exact hf.push (by simpa [Param.depth] using hf.height_le) rfl fun hg => absurd hg hne
  | comma => exact hs
  | close => exact State.sound_close hs.1 hs.2

theorem Step.taken {limit : Nat} {s s' : State} {k next : Kind} (h : Step limit s k next s')
    (hs : s.Sound limit) : s'.taken = s.taken ++ [k] := by
  cases h with
  | root => rfl
  | opening _ => simp [State.taken, outerKinds, Frame.before, Param.lead]
  | firstCall => rfl
  | firstName _ => simp [State.taken, outerKinds, Frame.before, Frame.kinds, Param.lead,
      Param.allKinds, Param.kinds, Value.token]
  | call => rfl
  | value _ => simp [State.taken, outerKinds, Frame.kinds_push, Param.kinds]
  | comma => simp [State.taken, outerKinds, Frame.before_eq hs.1]
  | close => rw [State.taken_close]; rfl

/-- By induction on the tokens: each move keeps the invariant and adds one token to what was taken. -/
theorem run_sound {limit : Nat} (eof : Token) (s : State) (ts : List Token) (hs : s.Sound limit) :
    (run limit 0 eof s ts).1.Sound limit ∧
      (run limit 0 eof s ts).1.taken ++ (run limit 0 eof s ts).2.map Token.kind =
        s.taken ++ ts.map Token.kind := by
  induction ts generalizing s with
  | nil => exact ⟨hs, rfl⟩
  | cons t ts ih =>
    rw [run]
    cases h : step limit 0 s t (ts.headD eof) with
    | none => exact ⟨hs, rfl⟩
    | some s' =>
      have hstep := Step.of_step h
      obtain ⟨hsound, htaken⟩ := ih s' (hstep.sound hs)
      refine ⟨hsound, ?_⟩
      rw [htaken, hstep.taken hs, List.append_assoc]
      rfl

/-! ## Running over the tokens of a tree -/

theorem Frame.close_reverse (c : Call) : Frame.close ⟨c.name, c.params.reverse⟩ = c := by
  cases c
  rw [Frame.close, List.reverse_reverse]

/-- The parameter `p` may be read into the open call `inner`. -/
def Awaits (s : State) (inner : Frame) (outer : List Frame) (p : Param) : Prop :=
  s = .parameter inner outer ∨
    inner.given = [] ∧ s = .first inner.name outer ∧ p.startsWithName = true

theorem Awaits.value {limit : Nat} {s : State} {inner : Frame} {outer : List Frame} {v : Value}
    (h : Awaits s inner outer (.value v)) {next : Kind} (hnext : Separates next) :
    Step limit s v.token next (.separator (inner.push (.value v)) outer) := by
  rcases h with rfl | ⟨hg, rfl, hv⟩
  · exact .value hnext
  · obtain ⟨name, given⟩ := inner
    subst hg
    cases v with
    | identifier n => exact .firstName hnext
    | _ => cases hv

theorem Awaits.call {limit : Nat} {s : State} {inner : Frame} {outer : List Frame} {c : Call}
    (h : Awaits s inner outer (.call c)) :
    Step limit s (.identifier c.name) .leftParen (.opening c.name (inner :: outer)) := by
  rcases h with rfl | ⟨hg, rfl, _⟩
  · exact .call
  · obtain ⟨name, given⟩ := inner
    subst hg
    exact .firstCall

/-- The machine reads a call whose name it has taken, on tokens that spell the rest of it. -/
def ReadsCall (limit : Nat) (c : Call) : Prop :=
  ∀ (eof : Token) (outer : List Frame) (ts rest : List Token), outer.length + c.depth ≤ limit →
    ts.map Token.kind = c.kinds.tail →
    run limit 0 eof (.opening c.name outer) (ts ++ rest) =
      run limit 0 eof (.close ⟨c.name, c.params.reverse⟩ outer) rest

theorem run_param {limit : Nat} {eof u : Token} {s : State} {inner : Frame} {outer : List Frame}
    {p : Param} {ts rest : List Token} (hs : Awaits s inner outer p)
    (hcall : ∀ c, p = .call c → ReadsCall limit c) (hdepth : outer.length + 1 + p.depth ≤ limit)
    (hts : ts.map Token.kind = p.kinds) (hu : Separates u.kind) :
    run limit 0 eof s (ts ++ u :: rest) =
      run limit 0 eof (.separator (inner.push p) outer) (u :: rest) := by
  cases p with
  | value v =>
    obtain ⟨t, rfl, ht⟩ := List.map_eq_singleton_iff.mp hts
    exact run_cons_of_step (by rw [ht]; exact hs.value hu)
  | call c =>
    rw [Param.kinds, Call.kinds_eq] at hts
    obtain ⟨t, ts, rfl, ht, hts⟩ := List.map_eq_cons_iff.mp hts
    obtain ⟨l, ls, rfl, hl, _⟩ := List.map_eq_cons_iff.mp hts
    have hname : Step limit s t.kind l.kind (.opening c.name (inner :: outer)) := by
      rw [ht, hl]
      exact hs.call
    rw [List.cons_append, run_cons_of_step (by exact hname)]
    rw [hcall c rfl eof (inner :: outer) (l :: ls) (u :: rest) hdepth
      (by rw [hts, Call.kinds_eq, List.tail_cons])]
    rw [State.close, Frame.close_reverse]

/-- By induction on the parameters after the first: each is read into the open call, and the token
behind it leads on to the next one or closes the call. -/
theorem run_params {limit : Nat} {eof : Token} {outer : List Frame} {ps : List Param} :
    ∀ {p : Param} {s : State} {inner : Frame} {ts rest : List Token}, Awaits s inner outer p →
      (∀ c, .call c ∈ p :: ps → ReadsCall limit c) →
      (∀ q ∈ p :: ps, outer.length + 1 + q.depth ≤ limit) →
      ts.map Token.kind = Param.allKinds (p :: ps) ++ [.rightParen] →
      run limit 0 eof s (ts ++ rest) =
        run limit 0 eof (.close ⟨inner.name, (p :: ps).reverse ++ inner.given⟩ outer) rest := by
  induction ps with
  | nil =>
    intro p s inner ts rest hs hcall hdepth hts
    obtain ⟨us, vs, rfl, hus, hvs⟩ := List.map_eq_append_iff.mp hts
    obtain ⟨r, rfl, hr⟩ := List.map_eq_singleton_iff.mp hvs
    rw [List.append_assoc, List.singleton_append,
      run_param hs (fun c hc => hcall c (by simp [hc])) (hdepth p (by simp)) hus (.inr hr)]
    exact run_cons_of_step (by rw [hr]; exact .close)
  | cons q qs ih =>
    intro p s inner ts rest hs hcall hdepth hts
    rw [Param.allKinds, List.append_assoc, List.cons_append] at hts
    obtain ⟨us, vs, rfl, hus, hvs⟩ := List.map_eq_append_iff.mp hts
    obtain ⟨r, vs, rfl, hr, hvs⟩ := List.map_eq_cons_iff.mp hvs
    rw [List.append_assoc, List.cons_append,
      run_param hs (fun c hc => hcall c (by simp [hc])) (hdepth p (by simp)) hus (.inl hr),
      run_cons_of_step (by rw [hr]; exact .comma),
      ih (.inl rfl) (fun c hc => hcall c (by simp [hc])) (fun q hq => hdepth q (by simp [hq])) hvs]
    simp [Frame.push]

theorem run_call {limit : Nat} (c : Call) : c.headed = true → ReadsCall limit c := by
  induction c using Call.induction with
  | step name params ih =>
    intro hheaded eof outer ts rest hdepth hts
    obtain ⟨hfirst, hall⟩ := Call.headed_iff.mp hheaded
    have hfit : Call.depth ⟨name, params⟩ ≤ limit - outer.length := by omega
    obtain ⟨hpos, hfit⟩ := Call.depth_le_iff.mp hfit
    rw [Call.kinds_eq, List.tail_cons] at hts
    obtain ⟨l, ts, rfl, hl, hts⟩ := List.map_eq_cons_iff.mp hts
    have hopen : Step limit (.opening name outer) l.kind ((ts ++ rest).headD eof).kind
        (.first name outer) := by
      rw [hl]
      exact .opening (by omega)
    rw [List.cons_append, run_cons_of_step hopen]
    cases params with
    | nil => cases hfirst
    | cons p ps =>
      have hawaits : Awaits (.first name outer) ⟨name, []⟩ outer p := .inr ⟨rfl, rfl, hfirst⟩
      rw [run_params hawaits
        (fun c hc => ih c hc (hall _ hc)) (fun q hq => by have := hfit q hq; omega) hts]
      simp

/-- The machine ends with a filter and no token left exactly if the tokens spell that filter. -/
theorem run_root_iff {limit : Nat} {eof : Token} {ts : List Token} {f : Call} :
    run limit 0 eof .root ts = (.finished f, []) ↔
      ts.map Token.kind = f.kinds ∧ f.headed = true ∧ f.depth ≤ limit := by
  constructor
  · intro h
    have hrun := run_sound eof .root ts (show State.Sound limit .root from trivial)
    rw [h] at hrun
    obtain ⟨⟨hheaded, hdepth⟩, htaken⟩ := hrun
    exact ⟨by simpa [State.taken] using htaken.symm, hheaded, hdepth⟩
  · rintro ⟨hts, hheaded, hdepth⟩
    have hts' := hts
    rw [Call.kinds_eq] at hts'
    obtain ⟨t, ts, rfl, ht, _⟩ := List.map_eq_cons_iff.mp hts'
    have hroot : Step limit .root t.kind (ts.headD eof).kind (.opening f.name []) := by
      rw [ht]
      exact .root
    have hcall := run_call f hheaded eof [] ts [] (by simpa using hdepth)
      (by rw [← hts, List.map_cons, List.tail_cons])
    rw [List.append_nil] at hcall
    rw [run_cons_of_step hroot, hcall, State.close, Frame.close_reverse, run]

end Parser

end FilterExpr
