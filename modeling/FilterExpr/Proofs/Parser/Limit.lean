import FilterExpr.Proofs.Parser.Viable
import FilterExpr.Proofs.Session.Parser

/-!
# FilterExpr.Proofs.Parser.Limit

The limit on nesting only ever cuts. A machine with a limit goes the way of one without, up to the name
of the first call that is nested too deep, and stops at the token behind that name.

* `State.Fits`: the invariant. At most as many calls are open as the limit allows, or one more whose name
  alone was taken. From a state of the second kind there is no move.
* `halts_cases`: so a machine with a limit halts where the one without does, or behind such a name, which
  the one without takes too.
* `openCalls` counts the open calls from the tokens alone. `Moves.openCalls_eq`: this is the height of the
  states on the way.
* `limit_cases`: the two outcomes for a text, with the first name that is too deep found by the count.
-/

namespace FilterExpr

open Token (Kind)

namespace Parser

/-! ## What the limit allows -/

/-- At most `limit` calls are open, or the name of one more was taken. -/
def State.Fits (limit : Nat) (s : State) : Prop :=
  s.height ≤ limit ∨ ∃ name outer, s = .opening name outer ∧ outer.length = limit

/-- There is a move only below the limit. -/
theorem Step.height_le_limit {limit : Nat} {s s' : State} {k next : Kind}
    (h : Step limit s k next s') (hs : s.Fits limit) : s.height ≤ limit := by
  rcases hs with hs | ⟨name, outer, rfl, houter⟩
  · exact hs
  · cases h with
    | opening hlimit => exact hlimit

theorem Step.fits {limit : Nat} {s s' : State} {k next : Kind} (h : Step limit s k next s')
    (hs : s.Fits limit) : s'.Fits limit := by
  have hheight := h.height_le_limit hs
  by_cases hs' : s'.height ≤ limit
  · exact .inl hs'
  · obtain ⟨name, outer, hopening, houter⟩ := h.opens (by omega)
    have := h.height_le
    exact .inr ⟨name, outer, hopening, by omega⟩

namespace Moves

variable {limit : Nat} {behind : Token} {s s' : State} {used : List Token}

theorem fits (h : Moves limit behind s used s') (hs : s.Fits limit) : s'.Fits limit := by
  induction h with
  | refl => exact hs
  | cons hstep _ ih => exact ih (hstep.fits hs)

theorem height_le_limit (h : Moves limit behind s used s') (hs : s.Fits limit) (hused : used ≠ []) :
    s.height ≤ limit := by
  cases h with
  | refl => exact absurd rfl hused
  | cons hstep _ => exact hstep.height_le_limit hs

theorem calls (h : Moves limit behind s used s') : s'.calls = openAfter behind s.calls used := by
  induction h with
  | refl => rfl
  | cons hstep _ ih => rw [ih, hstep.calls, openAfter]

end Moves

theorem State.fits_root (limit : Nat) : State.Fits limit .root := .inl (Nat.zero_le _)

/-- A machine with a limit halts where one without does, or behind a name that is too deep. -/
theorem halts_cases {m M : Nat} {eof : Token} {used rest : List Token} {s : State}
    (h : Halts m eof .root used s rest) (hM : used.length ≤ M) :
    (s.height ≤ m ∧ Halts M eof .root used s rest) ∨
      (∃ name outer, s = .opening name outer ∧ outer.length = m) := by
  rcases h.moves.fits (State.fits_root m) with hheight | hopening
  · refine .inl ⟨hheight, h.moves.with_limit ?_, fun s' hstep => ?_⟩
    · rw [State.height, Nat.zero_add]
      exact hM
    · exact h.stuck s' (hstep.with_limit hheight)
  · exact .inr hopening

/-! ## Errors -/

theorem State.error_congr {m M : Nat} {s : State} (hm : s.height ≤ m) (hM : s.height ≤ M)
    (current next : Token) : s.error m 0 current next = s.error M 0 current next := by
  cases s with
  | opening name outer =>
    rw [State.error, State.error, if_pos (by rw [Nat.zero_add]; exact hm),
      if_pos (by rw [Nat.zero_add]; exact hM)]
  | _ => rfl

theorem State.error_opening {m : Nat} {name : String} {outer : List Frame}
    (houter : outer.length = m) (current next : Token) :
    (State.opening name outer).error m 0 current next = ⟨.tooDeep m, current.span⟩ := by
  rw [State.error, if_neg (by rw [State.height]; omega)]

/-! ## Open calls, from the tokens -/

/-- The number of calls that are open behind the first `n` tokens. -/
def openCalls (tokens : List Token) (n : Nat) : Nat :=
  (openAfter ((tokens.drop n).headD (.endAt 0)) [] (tokens.take n)).length

/-- Token `n` is the name of a call, which is nested `depth` calls deep, itself included. -/
def NamesCall (tokens : List Token) (n depth : Nat) : Prop :=
  openCalls tokens n + 1 = depth ∧ openCalls tokens (n + 1) = depth

theorem Moves.openCalls_eq {limit : Nat} {behind : Token} {used : List Token} {s : State}
    (h : Moves limit behind .root used s) (after : List Token) :
    openCalls (used ++ behind :: after) used.length = s.height := by
  rw [openCalls, List.take_left, List.drop_left, ← State.length_calls, h.calls]
  rfl

/-- On the way to a state there are never more calls open than the limit allows, since the machine went
on. -/
theorem Moves.openCalls_le {limit : Nat} {behind : Token} {used : List Token} {s : State}
    (h : Moves limit behind .root used s) (after : List Token) {n : Nat} (hn : n < used.length) :
    openCalls (used ++ behind :: after) n ≤ limit := by
  obtain ⟨xs, t, ys, rfl, rfl⟩ : ∃ xs t ys, used = xs ++ t :: ys ∧ xs.length = n := by
    refine ⟨used.take n, used.get ⟨n, hn⟩, used.drop (n + 1), ?_, ?_⟩
    · rw [List.get_eq_getElem, List.getElem_cons_drop, List.take_append_drop]
    · rw [List.length_take]
      omega
  obtain ⟨s₁, hbefore, hafter⟩ := h.split
  have hfits := hbefore.fits (State.fits_root limit)
  rw [List.append_assoc, List.cons_append]
  calc openCalls (xs ++ t :: (ys ++ behind :: after)) xs.length
      = s₁.height := hbefore.openCalls_eq _
    _ ≤ limit := hafter.height_le_limit hfits (List.cons_ne_nil _ _)

theorem Moves.not_namesCall {limit : Nat} {behind : Token} {used : List Token} {s : State}
    (h : Moves limit behind .root used s) (hs : s.height ≤ limit) (after : List Token) {n : Nat}
    (hn : n < used.length) : ¬NamesCall (used ++ behind :: after) n (limit + 1) := by
  rintro ⟨_, hopen⟩
  have hle : openCalls (used ++ behind :: after) (n + 1) ≤ limit := by
    rcases Nat.lt_or_eq_of_le hn with hlt | heq
    · exact h.openCalls_le after hlt
    · rw [← Nat.succ_eq_add_one, heq, h.openCalls_eq]
      exact hs
  omega

/-- Where the machine stops behind a name that is too deep, this is the first such name. -/
theorem Moves.isLeast_namesCall {m bound : Nat} {name : String} {outer : List Frame}
    {behind : Token} {used : List Token}
    (h : Moves m behind .root used (.opening name outer)) (houter : outer.length = m)
    (hbound : used.length ≤ bound) (after : List Token) :
    ∃ n, used.length = n + 1 ∧
      IsLeast {n | n < bound ∧ NamesCall (used ++ behind :: after) n (m + 1)} n := by
  rcases List.eq_nil_or_concat used with rfl | ⟨init, last, rfl⟩
  · cases h
  rw [List.concat_eq_append] at h hbound ⊢
  have hlength : (init ++ [last]).length = init.length + 1 := List.length_append
  have hopen := h.openCalls_eq after
  obtain ⟨s₁, hinit, hstep⟩ := h.last
  have hheight : s₁.height = m := by
    have hle := hstep.height_le_limit (hinit.fits (State.fits_root m))
    have hge := hstep.height_le
    rw [State.height] at hge
    omega
  have hbefore := hinit.openCalls_eq (behind :: after)
  rw [hlength] at hbound hopen ⊢
  rw [List.append_assoc, List.singleton_append] at hopen ⊢
  refine ⟨init.length, rfl, ⟨hbound, ?_, ?_⟩, fun n hn => ?_⟩
  · rw [hbefore, hheight]
  · rw [hopen, State.height, houter]
  · refine Nat.le_of_not_lt fun hlt => ?_
    exact hinit.not_namesCall (Nat.le_of_eq hheight) (behind :: after) hlt hn.2

end Parser

/-! ## Texts -/

/-- The number of tokens of a text that are taken when it is read. -/
def consumed (source : String) (limit : Nat) : Nat :=
  let p := (Parser.ofSource source).withLimit limit
  p.pending.length - p.read.2.pending.length

section Text

variable {source : String} {used rest : List Token} {s : Parser.State} {limit m M : Nat}

theorem consumed_eq (hscan : Token.scanAll 0 source.toList = used ++ rest)
    (h : Parser.Moves limit (rest.headD (.endAt source.utf8ByteSize)) .root used s) :
    consumed source limit = used.length + (rest.length -
      (Parser.run limit 0 (.endAt source.utf8ByteSize) s rest).2.length) := by
  have hpending : ((Parser.ofSource source).withLimit limit).pending = used ++ rest := hscan
  have hrun : ((Parser.ofSource source).withLimit limit).read.2.pending =
      (Parser.run limit 0 (.endAt source.utf8ByteSize) s rest).2 := by
    rw [Parser.read_snd, ← h.run_eq, ← hscan]
    rfl
  obtain ⟨more, hmore, _⟩ := Parser.run_open limit (.endAt source.utf8ByteSize) s rest
  have hlength := congrArg List.length hmore
  rw [List.length_append] at hlength
  simp only [consumed]
  rw [hpending, hrun, List.length_append]
  omega

theorem tokenize_eq (hscan : Token.scanAll 0 source.toList = used ++ rest) :
    tokenize source = used ++ rest.headD (.endAt source.utf8ByteSize) ::
      (rest ++ [Token.endAt source.utf8ByteSize]).tail := by
  rw [tokenize, hscan, List.append_assoc, concat_eq_headD_cons]
  rfl

theorem parse_congr_of_halts (hscan : Token.scanAll 0 source.toList = used ++ rest)
    (hm : Parser.Halts m (.endAt source.utf8ByteSize) .root used s rest)
    (hM : Parser.Halts M (.endAt source.utf8ByteSize) .root used s rest)
    (hsm : s.height ≤ m) (hsM : s.height ≤ M) : parse source m = parse source M := by
  by_cases hend : ∀ f, s = .finished f → rest ≠ []
  · rw [parse_eq_error_iff.mpr ⟨used, s, rest, hscan, hm, hend, rfl⟩,
      parse_eq_error_iff.mpr ⟨used, s, rest, hscan, hM, hend, rfl⟩,
      Parser.State.error_congr hsm hsM]
  · simp only [not_forall, ne_eq, not_not] at hend
    obtain ⟨f, rfl, rfl⟩ := hend
    have hok {limit : Nat}
        (h : Parser.Halts limit (.endAt source.utf8ByteSize) .root used (.finished f) []) :
        parse source limit = .ok f :=
      parse_eq_ok_iff.mpr (Parser.run_root_iff.mp ((Parser.run_eq_iff rfl).mpr ⟨used, hscan, h⟩))
    rw [hok hm, hok hM]

/-- A text is read alike with a limit and without, or the limit stops it behind the first name that is
too deep. -/
theorem limit_cases (source : String) (m : Nat) {M : Nat} (hM : (tokenize source).length < M) :
    (parse source m = parse source M ∧
      ∀ n < consumed source M, ¬Parser.NamesCall (tokenize source) n (m + 1)) ∨
    ∃ n t, IsLeast {n | n < consumed source M ∧
        Parser.NamesCall (tokenize source) n (m + 1)} n ∧
      (tokenize source)[n + 1]? = some t ∧ parse source m = .error ⟨.tooDeep m, t.span⟩ := by
  have heof : (Token.endAt source.utf8ByteSize).kind = .eof := rfl
  obtain ⟨used, hscan, hhalts⟩ := Parser.halts_run m heof .root (Token.scanAll 0 source.toList)
  generalize Parser.run m 0 (.endAt source.utf8ByteSize) .root (Token.scanAll 0 source.toList) = r
    at hscan hhalts
  obtain ⟨s, rest⟩ := r
  have htokens := tokenize_eq hscan
  have hused : used.length ≤ M := by
    rw [htokens, List.length_append] at hM
    omega
  have hmoves : Parser.Moves M (rest.headD (.endAt source.utf8ByteSize)) .root used s :=
    hhalts.moves.with_limit (by rw [Parser.State.height, Nat.zero_add]; exact hused)
  have hconsumed := consumed_eq hscan hmoves
  rcases Parser.halts_cases hhalts hused with ⟨hheight, hhalts'⟩ | ⟨name, outer, rfl, houter⟩
  · left
    have hheight' : s.height ≤ M := Nat.le_trans hmoves.height_le_length hused
    refine ⟨parse_congr_of_halts hscan hhalts hhalts' hheight hheight', fun n hn => ?_⟩
    rw [hconsumed, Parser.run_of_stuck hhalts'.stuck, Nat.sub_self, Nat.add_zero] at hn
    rw [htokens]
    exact hhalts.moves.not_namesCall hheight _ hn
  · right
    obtain ⟨n, hlength, hleast⟩ := hhalts.moves.isLeast_namesCall houter
      (show used.length ≤ consumed source M by omega) _
    rw [← htokens] at hleast
    refine ⟨n, rest.headD (.endAt source.utf8ByteSize), hleast, ?_, ?_⟩
    · rw [htokens, ← hlength, List.getElem?_append_right (Nat.le_refl _), Nat.sub_self]
      rfl
    · rw [parse_eq_error_iff]
      refine ⟨used, _, rest, hscan, hhalts, fun f hf => (by cases hf), ?_⟩
      rw [Parser.State.error_opening houter]

/-- A limit larger than the number of tokens never stops the reading. -/
theorem parse_ne_tooDeep (hM : (tokenize source).length < M) (k : Nat) (span : Span) :
    parse source M ≠ .error ⟨.tooDeep k, span⟩ := by
  intro h
  obtain ⟨used, s, rest, hscan, hhalts, _, herror⟩ := parse_eq_error_iff.mp h
  have hheight : s.height ≤ M := by
    have := hhalts.moves.height_le_length
    rw [tokenize_eq hscan, List.length_append] at hM
    omega
  -- an error below the limit blames a token, and this one names none
  have hfound {wanted : ParseError.Wanted} {t : Token} (hblame : _ = ParseError.blame wanted t) :=
    (congrArg ParseError.found? (herror.trans hblame)).trans (ParseError.found?_blame wanted t)
  obtain ⟨wanted, hblame, _⟩ | ⟨wanted, v, s', _, _, _, hblame⟩ :=
    Parser.State.error_cases hheight hhalts.stuck
  · cases hfound hblame
  · cases hfound hblame

theorem parse_eq_ok_mono {m' : Nat} {f : Call} (hm : m ≤ m') (h : parse source m = .ok f) :
    parse source m' = .ok f := by
  obtain ⟨hkinds, hheaded, hdepth⟩ := parse_eq_ok_iff.mp h
  exact parse_eq_ok_iff.mpr ⟨hkinds, hheaded, Nat.le_trans hdepth hm⟩

/-- If a text is a filter, a limit decides only whether it is read, by the depth of the filter. -/
theorem parse_eq_ok_iff_depth {f : Call} (h : parse source M = .ok f) (g : Call) :
    parse source m = .ok g ↔ g = f ∧ f.depth ≤ m := by
  obtain ⟨hkinds, hheaded, _⟩ := parse_eq_ok_iff.mp h
  rw [parse_eq_ok_iff]
  constructor
  · rintro ⟨hkinds', hheaded', hdepth⟩
    have heq : g = f := Call.eq_of_kinds_eq hheaded' hheaded (hkinds'.symm.trans hkinds)
    exact ⟨heq, heq ▸ hdepth⟩
  · rintro ⟨rfl, hdepth⟩
    exact ⟨hkinds, hheaded, hdepth⟩

end Text

/-- The limit on nesting only ever cuts. Where the limit `M` is out of reach, the text is read with the limit
`m` as with `M`, or `m` is exceeded: exactly if the reading with `M` takes the name of a call nested
`m + 1` deep. The error is at the token behind the first such name. -/
theorem limit_only_cuts {source : String} {M : Nat} (hM : (tokenize source).length < M) (m : Nat) :
    (parse source m = parse source M ∨ ∃ span, parse source m = .error ⟨.tooDeep m, span⟩) ∧
    (∀ k span, parse source M ≠ .error ⟨.tooDeep k, span⟩) ∧
    (∀ span, parse source m = .error ⟨.tooDeep m, span⟩ ↔
      ∃ n t, IsLeast {n | n < consumed source M ∧
          Parser.NamesCall (tokenize source) n (m + 1)} n ∧
        (tokenize source)[n + 1]? = some t ∧ span = t.span) ∧
    (∀ e, parse source m = .error e → e.cause = .tooDeep m →
      e.message = "maximum nesting depth of " ++ toString m ++ " exceeded" ∧
      e.wanted? = none ∧ e.found? = none) ∧
    (∀ f, parse source M = .ok f → ∀ g, parse source m = .ok g ↔ g = f ∧ f.depth ≤ m) ∧
    (∀ m' f, m ≤ m' → parse source m = .ok f → parse source m' = .ok f) := by
  refine ⟨?_, parse_ne_tooDeep hM, fun span => ?_, fun e _ he => ?_,
    fun f => parse_eq_ok_iff_depth, fun m' f => parse_eq_ok_mono⟩
  · obtain ⟨heq, _⟩ | ⟨n, t, _, _, herror⟩ := limit_cases source m hM
    · exact .inl heq
    · exact .inr ⟨t.span, herror⟩
  · obtain ⟨heq, hnone⟩ | ⟨n, t, hleast, ht, herror⟩ := limit_cases source m hM
    · constructor
      · intro h
        exact absurd (heq.symm.trans h) (parse_ne_tooDeep hM m span)
      · rintro ⟨n, t, hleast, _⟩
        exact absurd hleast.1.2 (hnone n hleast.1.1)
    · constructor
      · intro h
        rw [herror] at h
        cases h
        exact ⟨n, t, hleast, ht, rfl⟩
      · rintro ⟨n', t', hleast', ht', rfl⟩
        rw [hleast'.unique hleast, ht] at ht'
        cases ht'
        exact herror
  · obtain ⟨cause, span⟩ := e
    cases he
    exact ⟨rfl, rfl, rfl⟩

/-- A text that is no filter, since a number is called at its end. The limit stops it before that, behind the
one name that is nested three deep. -/
theorem limit_only_cuts_before_error :
    (tokenize "and(eq(a,1),not(eq(b,2)),3(c").length < 64 ∧
    parse "and(eq(a,1),not(eq(b,2)),3(c" 64 =
      .error ⟨.unexpected .functionName .integer, ⟨25, 26⟩⟩ ∧
    parse "and(eq(a,1),not(eq(b,2)),3(c" 2 = .error ⟨.tooDeep 2, ⟨18, 19⟩⟩ ∧
    ∃ n t, IsLeast {n | n < consumed "and(eq(a,1),not(eq(b,2)),3(c" 64 ∧
        Parser.NamesCall (tokenize "and(eq(a,1),not(eq(b,2)),3(c") n 3} n ∧
      (tokenize "and(eq(a,1),not(eq(b,2)),3(c")[n + 1]? = some t ∧ (⟨18, 19⟩ : Span) = t.span := by
  have hM : (tokenize "and(eq(a,1),not(eq(b,2)),3(c").length < 64 := by decide +kernel
  have hcut : parse "and(eq(a,1),not(eq(b,2)),3(c" 2 = .error ⟨.tooDeep 2, ⟨18, 19⟩⟩ := by
    decide +kernel
  exact ⟨hM, by decide +kernel, hcut, ((limit_only_cuts hM 2).2.2.1 _).mp hcut⟩

end FilterExpr
