import FilterExpr.Proofs.Parser.Machine

/-!
# FilterExpr.Proofs.Parser.Language

The texts that are read as filters. `read_eq_ok_iff` says it of a reader in any state: it returns the
tree that its tokens spell, if the calls of the tree fit under what is left of the limit.
`parse_eq_ok_iff` says it of a text, and `parse_accepts_grammar` in terms of derivations.
-/

namespace FilterExpr

open Token (Kind)

theorem Parser.read_eq_ok_iff {p : Parser} {f : Call} :
    p.read.1 = .ok f ↔
      p.pending.map Token.kind = f.kinds ∧ f.headed = true ∧ f.depth ≤ p.limit - p.opened := by
  rw [← run_root_iff, Parser.read, run_fresh]
  generalize run (p.limit - p.opened) 0 p.eof .root p.pending = outcome
  split
  · simp
  · rename_i s rest hnot
    constructor
    · intro h
      cases h
    · intro h
      cases h
      exact (hnot f rfl rfl).elim

theorem parse_eq_ok_iff {source : String} {limit : Nat} {f : Call} :
    parse source limit = .ok f ↔
      (Token.scanAll 0 source.toList).map Token.kind = f.kinds ∧ f.headed = true ∧
        f.depth ≤ limit :=
  Parser.read_eq_ok_iff

theorem map_kind_tokenize (source : String) :
    (tokenize source).map Token.kind =
      (Token.scanAll 0 source.toList).map Token.kind ++ [Kind.eof] := by
  rw [tokenize, List.map_append]
  rfl

/-- No token of a tree is illegal. -/
theorem Call.toClass_ne_illegal (c : Call) {k : Kind} (h : k ∈ c.kinds) : k.toClass ≠ .illegal := by
  have hall : c.kinds.all (fun k => k.toClass != .illegal) = true := by
    rw [Call.all_kinds rfl rfl rfl]
    exact Call.every_of_forall (fun _ => rfl) (fun v => by cases v <;> rfl) c
  simpa using List.all_eq_true.mp hall k h

/-- Trees with the same tokens are the same: the machine reads one tree from them. -/
theorem Call.eq_of_kinds_eq {f g : Call} (hf : f.headed = true) (hg : g.headed = true)
    (h : f.kinds = g.kinds) : f = g := by
  let p : Parser :=
    { pending := f.kinds.map fun k => ⟨k, .point 0⟩, eof := .endAt 0, limit := f.depth + g.depth }
  have hkinds : p.pending.map Token.kind = f.kinds := by
    simp only [p, List.map_map]
    exact List.map_id _
  have hread : p.read.1 = .ok f := Parser.read_eq_ok_iff.mpr ⟨hkinds, hf, Nat.le_add_right _ _⟩
  have hread' : p.read.1 = .ok g :=
    Parser.read_eq_ok_iff.mpr ⟨hkinds.trans h, hg, Nat.le_add_left _ _⟩
  rw [hread] at hread'
  cases hread'
  rfl

/-- A text is read as the filter `f` exactly if its tokens derive `f` and the calls of `f` are nested no
deeper than the limit. So a text with an illegal token is never read, and a text derives one filter
at most. -/
theorem parse_accepts_grammar (source : String) (limit : Nat) :
    (∀ f, parse source limit = .ok f ↔
      Grammar.IsFilter ((tokenize source).map Token.kind) f ∧ f.depth ≤ limit) ∧
    (∀ t ∈ tokenize source, t.toClass = .illegal → ∀ f, parse source limit ≠ .ok f) ∧
    (∀ f g, Grammar.IsFilter ((tokenize source).map Token.kind) f →
      Grammar.IsFilter ((tokenize source).map Token.kind) g → f = g) := by
  rw [map_kind_tokenize]
  refine ⟨fun f => ?_, fun t ht hillegal f hf => ?_, fun f g hf hg => ?_⟩
  · rw [parse_eq_ok_iff, Grammar.isFilter_iff, and_assoc]
  · obtain ⟨hkinds, _⟩ := parse_eq_ok_iff.mp hf
    rw [tokenize, List.mem_append, List.mem_singleton] at ht
    rcases ht with ht | rfl
    · exact f.toClass_ne_illegal (by rw [← hkinds]; exact List.mem_map_of_mem ht) hillegal
    · cases hillegal
  · rw [Grammar.isFilter_iff] at hf hg
    exact Call.eq_of_kinds_eq hf.2 hg.2 (hf.1.symm.trans hg.1)

end FilterExpr
