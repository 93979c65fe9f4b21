import FilterExpr.Proofs.Basic
import FilterExpr.Proofs.Parser.Language

/-!
# FilterExpr.Proofs.Parser.Moves

Runs of the machine as chains of moves. `Moves limit behind s used s'` says that the machine goes from `s`
to `s'` over the tokens `used`, with the token `behind` after them, and `Halts` that it cannot go on from
there. `run_eq_iff` says that this is what `run` computes, and `parse_eq_error_iff` what it means for a
text that is not read.

The limit counts only where a call is opened: below it, machines with different limits move alike
(`Step.with_limit`, `Moves.with_limit`).
-/

namespace FilterExpr

open Token (Kind)

namespace Parser

/-! ## Single moves -/

theorem State.height_close (inner : Frame) (outer : List Frame) :
    (State.close inner outer).height = outer.length := by
  cases outer with
  | nil => rfl
  | cons f outer => rfl

theorem Step.ne_eof {limit : Nat} {s s' : State} {k next : Kind} (h : Step limit s k next s') :
    k ≠ .eof := by
  cases h with
  | @value v _ _ _ _ => cases v <;> simp [Value.token]
  | _ => simp

theorem Step.height_le {limit : Nat} {s s' : State} {k next : Kind} (h : Step limit s k next s') :
    s'.height ≤ s.height + 1 := by
  cases h with
  | close => rw [State.height_close]; simp only [State.height]; omega
  | _ => simp [State.height]

/-- Only the name of a call adds to the open calls. -/
theorem Step.opens {limit : Nat} {s s' : State} {k next : Kind} (h : Step limit s k next s')
    (hheight : s.height < s'.height) :
    ∃ name outer, s' = .opening name outer ∧ outer.length = s.height := by
  cases h with
  | root => exact ⟨_, _, rfl, rfl⟩
  | firstCall => exact ⟨_, _, rfl, rfl⟩
  | call => exact ⟨_, _, rfl, rfl⟩
  | close => rw [State.height_close] at hheight; simp only [State.height] at hheight; omega
  | _ => simp [State.height] at hheight

theorem Step.with_limit {limit limit' : Nat} {s s' : State} {k next : Kind}
    (h : Step limit s k next s') (hheight : s.height ≤ limit') : Step limit' s k next s' := by
  cases h with
  | root => exact .root
  | opening _ => exact .opening hheight
  | firstCall => exact .firstCall
  | firstName hnext => exact .firstName hnext
  | call => exact .call
  | value hnext => exact .value hnext
  | comma => exact .comma
  | close => exact .close

/-! ## Chains of moves -/

/-- The machine goes from a state to another over some tokens. The token `behind` comes after them. -/
inductive Moves (limit : Nat) (behind : Token) : State → List Token → State → Prop where
  | refl {s : State} : Moves limit behind s [] s
  | cons {s s' s'' : State} {t : Token} {ts : List Token} :
      Step limit s t.kind (ts.headD behind).kind s' → Moves limit behind s' ts s'' →
      Moves limit behind s (t :: ts) s''

namespace Moves

variable {limit limit' : Nat} {behind eof : Token} {s s' : State} {used rest : List Token}

theorem run_eq (h : Moves limit (rest.headD eof) s used s') :
    run limit 0 eof s (used ++ rest) = run limit 0 eof s' rest := by
  induction h with
  | refl => rfl
  | cons hstep _ ih =>
    rw [List.cons_append, run_cons_of_step (by rw [headD_append]; exact hstep), ih]

theorem height_le (h : Moves limit behind s used s') : s'.height ≤ s.height + used.length := by
  induction h with
  | refl => exact Nat.le_refl _
  | cons hstep _ ih =>
    have := hstep.height_le
    rw [List.length_cons]
    omega

theorem height_le_length (h : Moves limit behind .root used s') : s'.height ≤ used.length := by
  have := h.height_le
  rw [State.height, Nat.zero_add] at this
  exact this

theorem with_limit (h : Moves limit behind s used s') (hheight : s.height + used.length ≤ limit') :
    Moves limit' behind s used s' := by
  induction h with
  | refl => exact .refl
  | cons hstep _ ih =>
    have := hstep.height_le
    rw [List.length_cons] at hheight
    exact .cons (hstep.with_limit (by omega)) (ih (by omega))

/-- The machine passes every point on its way. -/
theorem split {ts : List Token} (h : Moves limit behind s (used ++ ts) s') :
    ∃ s₁, Moves limit (ts.headD behind) s used s₁ ∧ Moves limit behind s₁ ts s' := by
  induction used generalizing s with
  | nil => exact ⟨s, .refl, h⟩
  | cons t used ih =>
    cases h with
    | cons hstep hrest =>
      obtain ⟨s₁, hmoves, hlast⟩ := ih hrest
      have hnext : (used ++ ts).headD behind = used.headD (ts.headD behind) := headD_append _ _ _
      exact ⟨s₁, .cons (hnext ▸ hstep) hmoves, hlast⟩

/-- The move over the last token. -/
theorem last {t : Token} (h : Moves limit behind s (used ++ [t]) s') :
    ∃ s₁, Moves limit t s used s₁ ∧ Step limit s₁ t.kind behind.kind s' := by
  obtain ⟨s₁, hmoves, hlast⟩ := h.split
  cases hlast with
  | cons hstep hrest =>
    cases hrest
    exact ⟨s₁, hmoves, hstep⟩

end Moves

/-! ## Runs -/

/-- The machine goes from `s` to `s'` over the tokens `used`, and there it cannot take the next of the
tokens left. -/
structure Halts (limit : Nat) (eof : Token) (s : State) (used : List Token) (s' : State)
    (rest : List Token) : Prop where
  moves : Moves limit (rest.headD eof) s used s'
  stuck : ∀ s'', ¬Step limit s' (rest.headD eof).kind (rest.tail.headD eof).kind s''

variable {limit : Nat} {eof : Token} {s s' : State} {rest : List Token}

theorem run_of_stuck
    (h : ∀ s', ¬Step limit s (rest.headD eof).kind (rest.tail.headD eof).kind s') :
    run limit 0 eof s rest = (s, rest) := by
  cases rest with
  | nil => rfl
  | cons t ts =>
    rw [run]
    cases hstep : step limit 0 s t (ts.headD eof) with
    | none => rfl
    | some s' => exact absurd (Step.of_step hstep) (h s')

/-- By induction on the tokens: the machine goes on as long as there is a move. It never takes the end
of input. -/
theorem halts_run (limit : Nat) (heof : eof.kind = .eof) (s : State) (ts : List Token) :
    ∃ used, ts = used ++ (run limit 0 eof s ts).2 ∧
      Halts limit eof s used (run limit 0 eof s ts).1 (run limit 0 eof s ts).2 := by
  induction ts generalizing s with
  | nil => exact ⟨[], rfl, .refl, fun s' hstep => hstep.ne_eof heof⟩
  | cons t ts ih =>
    rw [run]
    cases h : step limit 0 s t (ts.headD eof) with
    | none =>
      have hstuck : ∀ s', ¬Step limit s t.kind (ts.headD eof).kind s' := by
        intro s' hstep
        rw [hstep.step_eq] at h
        cases h
      exact ⟨[], rfl, .refl, hstuck⟩
    | some s' =>
      obtain ⟨used, hts, hmoves, hstuck⟩ := ih s'
      have hstep := Step.of_step h
      rw [hts, headD_append] at hstep
      exact ⟨t :: used, congrArg (t :: ·) hts, .cons hstep hmoves, hstuck⟩

theorem run_eq_iff (heof : eof.kind = .eof) {ts : List Token} :
    run limit 0 eof s ts = (s', rest) ↔ ∃ used, ts = used ++ rest ∧ Halts limit eof s used s' rest := by
  constructor
  · intro h
    have hhalts := halts_run limit heof s ts
    rw [h] at hhalts
    exact hhalts
  · rintro ⟨used, rfl, hhalts⟩
    rw [hhalts.moves.run_eq, run_of_stuck hhalts.stuck]

/-! ## Readings that fail -/

/-- A reading fails exactly if the machine halts before the end of a filter or of the input. -/
theorem read_eq_error_iff {p : Parser} (heof : p.eof.kind = .eof) {e : ParseError} :
    p.read.1 = .error e ↔
      ∃ used s rest, p.pending = used ++ rest ∧
        Halts (p.limit - p.opened) p.eof .root used s rest ∧
        (∀ f, s = .finished f → rest ≠ []) ∧
        e = s.error p.limit p.opened (rest.headD p.eof) (rest.tail.headD p.eof) := by
  constructor
  · intro h
    rw [read, run_fresh] at h
    split at h
    · cases h
    · rename_i s rest hnot hrun
      obtain ⟨used, hused, hhalts⟩ := (run_eq_iff heof).mp hrun
      cases h
      exact ⟨used, s, rest, hused, hhalts, hnot, rfl⟩
  · rintro ⟨used, s, rest, hused, hhalts, hnot, rfl⟩
    rw [read, run_fresh, (run_eq_iff heof).mpr ⟨used, hused, hhalts⟩]
    split
    · rename_i hend
      cases hend
      exact absurd rfl (hnot _ rfl)
    · rename_i hend
      cases hend
      rfl

end Parser

theorem parse_eq_error_iff {source : String} {limit : Nat} {e : ParseError} :
    parse source limit = .error e ↔
      ∃ used s rest, Token.scanAll 0 source.toList = used ++ rest ∧
        Parser.Halts limit (.endAt source.utf8ByteSize) .root used s rest ∧
        (∀ f, s = .finished f → rest ≠ []) ∧
        e = s.error limit 0 (rest.headD (.endAt source.utf8ByteSize))
          (rest.tail.headD (.endAt source.utf8ByteSize)) :=
  Parser.read_eq_error_iff rfl

namespace ParseError

theorem span_blame (wanted : Wanted) (t : Token) : (blame wanted t).span = t.span := by
  obtain ⟨kind, span⟩ := t
  cases kind <;> rfl

theorem found?_blame (wanted : Wanted) (t : Token) : (blame wanted t).found? = some t.toClass := by
  obtain ⟨kind, span⟩ := t
  cases kind <;> rfl

/-- The first letter of a message tells the two forms apart. -/
theorem message_blame_iff (wanted : Wanted) (t : Token) :
    (∃ text wanted', (blame wanted t).message =
      "illegal token " ++ Text.quoted text ++ ", expected " ++ Wanted.label wanted') ↔
        t.toClass = .illegal := by
  obtain ⟨kind, span⟩ := t
  have hform (label name text label' : String) : "expected " ++ label ++ ", found " ++ name ≠
      "illegal token " ++ text ++ ", expected " ++ label' := by
    intro h
    have hhead := congrArg (fun s : String => s.toList.head?) h
    simp at hhead
  cases kind with
  | illegal text => exact ⟨fun _ => rfl, fun _ => ⟨text, wanted, rfl⟩⟩
  | _ =>
    refine ⟨?_, fun h => by cases h⟩
    rintro ⟨text, wanted', h⟩
    exact absurd h (hform _ _ _ _)

end ParseError

end FilterExpr
