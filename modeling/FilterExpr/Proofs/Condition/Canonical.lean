import FilterExpr.Compile
import FilterExpr.Proofs.Condition.Checks
import FilterExpr.Proofs.RoundTrip

/-!
# FilterExpr.Proofs.Condition.Canonical

Canonical text of conditions. The call tree of a condition that came out of a check checks as that
condition (`Checks.toCall`): names are in upper case already, and fields in lower case. It is as deep as
the tree that was checked, and it is lexable if that one was. So the canonical text of a compiled
filter compiles under the same limit, and to the same condition (`compile_render`).
-/

namespace FilterExpr

open Text

theorem Builtin.upperName_name (f : Builtin) : upperName f.name = f.name := by
  cases f with
  | not => decide +kernel
  | junction j => cases j <;> decide +kernel
  | comparison op => cases op <;> decide +kernel
  | search op => cases op <;> decide +kernel

theorem Builtin.isName_name (f : Builtin) : isName f.name.toList = true := by
  cases f with
  | not => decide +kernel
  | junction j => cases j <;> decide +kernel
  | comparison op => cases op <;> decide +kernel
  | search op => cases op <;> decide +kernel

/-! ## The tree of a condition -/

theorem Checks.toCall {c : Call} {d : Condition} (h : Checks c d) : Checks d.toCall d := by
  induction h with
  | not _ _ ih => exact .not (Builtin.upperName_name .not) ih
  | @join _ j _ _ _ _ _ _ _ ihl ihr => exact .join (Builtin.upperName_name (.junction j)) ihl ihr
  | @compare _ field op value _ =>
    have hagain := @Checks.compare _ (lowerField field) op value
      (Builtin.upperName_name (.comparison op))
    rw [lowerField_lowerField] at hagain
    exact hagain
  | @search _ field op pattern _ =>
    have hagain := @Checks.search _ (lowerField field) op pattern
      (Builtin.upperName_name (.search op))
    rw [lowerField_lowerField] at hagain
    exact hagain

theorem Checks.depth_toCall {c : Call} {d : Condition} (h : Checks c d) :
    d.toCall.depth = c.depth := by
  induction h with
  | not _ _ ih => simp only [Condition.toCall, Call.depth, Param.maxDepth, Param.depth, ih]
  | join _ _ _ ihl ihr =>
    simp only [Condition.toCall, Call.depth, Param.maxDepth, Param.depth, ihl, ihr]
  | compare _ => rfl
  | search _ => rfl

/-! ## Lexable conditions

The names of the builtins are names, so the tree of a condition is lexable if its leaves are. -/

theorem Builtin.lexable_call_iff (f : Builtin) {params : List Param} :
    Call.lexable ⟨f.name, params⟩ = true ↔
      Param.nameFirst params = true ∧ ∀ p ∈ params, p.lexable = true := by
  rw [Call.lexable_node_iff, and_iff_right f.isName_name]

namespace Condition

theorem lexable_toCall_not {d : Condition} :
    (Condition.not d).toCall.lexable = true ↔ d.toCall.lexable = true := by
  rw [toCall, Builtin.lexable_call_iff .not, List.forall_mem_singleton]
  exact and_iff_right rfl

theorem lexable_toCall_join {j : Junction} {l r : Condition} :
    (join j l r).toCall.lexable = true ↔
      l.toCall.lexable = true ∧ r.toCall.lexable = true := by
  rw [toCall, show j.name = (Builtin.junction j).name from rfl, Builtin.lexable_call_iff,
    List.forall_mem_cons, List.forall_mem_singleton]
  exact and_iff_right rfl

/-- Both kinds of operators: the field is a name, and the value is lexable. -/
theorem lexable_operator_iff (f : Builtin) {field : String} {v : Value} :
    Call.lexable ⟨f.name, [.value (.identifier field), .value v]⟩ = true ↔
      isName field.toList = true ∧ v.lexable = true := by
  rw [f.lexable_call_iff, List.forall_mem_cons, List.forall_mem_singleton]
  exact and_iff_right rfl

theorem lexable_toCall_compare {op : Comparison} {field : String} {value : Literal} :
    (compare op field value).toCall.lexable = true ↔
      isName field.toList = true ∧ value.toValue.lexable = true :=
  lexable_operator_iff (.comparison op)

theorem lexable_toCall_search {op : Search} {field : String} {pattern : Pattern} :
    (search op field pattern).toCall.lexable = true ↔
      isName field.toList = true ∧ Value.lexable (.string pattern) = true :=
  lexable_operator_iff (.search op)

end Condition

theorem Checks.lexable_toCall {c : Call} {d : Condition} (h : Checks c d) :
    c.lexable = true → d.toCall.lexable = true := by
  induction h with
  | not _ _ ih =>
    intro hc
    obtain ⟨_, hparams⟩ := Call.lexable_node_iff.mp hc
    rw [List.forall_mem_singleton] at hparams
    exact Condition.lexable_toCall_not.mpr (ih hparams)
  | join _ _ _ ihl ihr =>
    intro hc
    obtain ⟨_, hparams⟩ := Call.lexable_node_iff.mp hc
    rw [List.forall_mem_cons, List.forall_mem_singleton] at hparams
    exact Condition.lexable_toCall_join.mpr ⟨ihl hparams.1, ihr hparams.2⟩
  | compare _ =>
    intro hc
    obtain ⟨_, hparams⟩ := Call.lexable_node_iff.mp hc
    rw [List.forall_mem_cons, List.forall_mem_singleton] at hparams
    exact Condition.lexable_toCall_compare.mpr ⟨isName_lowerField hparams.1, hparams.2⟩
  | search _ =>
    intro hc
    obtain ⟨_, hparams⟩ := Call.lexable_node_iff.mp hc
    rw [List.forall_mem_cons, List.forall_mem_singleton] at hparams
    exact Condition.lexable_toCall_search.mpr ⟨isName_lowerField hparams.1, hparams.2⟩

/-! ## Compiling -/

theorem compile_eq_ok_iff {source : String} {limit : Nat} {d : Condition} :
    compile source limit = .ok d ↔ ∃ c, parse source limit = .ok c ∧ Checks c d := by
  simp only [compile, bind_eq_ok, mapError_eq_ok, Call.check_eq_ok_iff]

/-- The tree of a compiled condition can be written and read. -/
theorem lexable_of_compile {source : String} {limit : Nat} {d : Condition}
    (h : compile source limit = .ok d) : d.toCall.lexable = true := by
  obtain ⟨c, hparse, hchecks⟩ := compile_eq_ok_iff.mp h
  exact hchecks.lexable_toCall (lexable_of_parse hparse)

/-- Compiling settles at once: the canonical text of what a text compiles to compiles to the same
condition, under the same limit on depth. -/
theorem compile_render {source : String} {limit : Nat} {d : Condition}
    (h : compile source limit = .ok d) : compile d.render limit = .ok d := by
  obtain ⟨c, hparse, hchecks⟩ := compile_eq_ok_iff.mp h
  have hdepth : d.toCall.depth ≤ limit := by
    rw [hchecks.depth_toCall]
    exact (parse_eq_ok_iff.mp hparse).2.2
  have hread : parse d.render limit = .ok d.toCall := parse_render (lexable_of_compile h) hdepth
  exact compile_eq_ok_iff.mpr ⟨d.toCall, hread, hchecks.toCall⟩

/-- The dotless `ı` and the long `ſ` make a name of a builtin, `Ü` has a lower case and the lower case of
`İ` is no name, and the text has an escaped star before a wildcard. -/
theorem compile_render_foldings :
    compile "NOT(contaınſ(Ünit_İ, \"a\\*\\\"*\"))" 2 =
      .ok (.not (.search .contains "ünit_İ" ⟨[.char 'a', .char '*', .char '"', .wildcard]⟩)) ∧
    compile (Condition.not
        (.search .contains "ünit_İ" ⟨[.char 'a', .char '*', .char '"', .wildcard]⟩)).render 2 =
      .ok (.not (.search .contains "ünit_İ" ⟨[.char 'a', .char '*', .char '"', .wildcard]⟩)) := by
  have h : compile "NOT(contaınſ(Ünit_İ, \"a\\*\\\"*\"))" 2 =
      .ok (.not (.search .contains "ünit_İ" ⟨[.char 'a', .char '*', .char '"', .wildcard]⟩)) := by
    decide +kernel
  exact ⟨h, compile_render h⟩

end FilterExpr
