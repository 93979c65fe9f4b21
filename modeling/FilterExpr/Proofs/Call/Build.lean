import FilterExpr.Call.Build
import FilterExpr.Proofs.Condition.Canonical
import FilterExpr.Proofs.Condition.Sweep

/-!
# FilterExpr.Proofs.Call.Build

Trees built by hand against trees that were read and checked. A `Blueprint` says which functions are
put together, with which fields and values; nothing about these is assumed.

* `Blueprint.faultless_iff`: the tree of a blueprint passes the check exactly if no value is a name and
  searches are for quoted text.
* `Blueprint.normal_of_mem_shells`: every call of such a tree is in normal form as it was built, whatever
  text its field came from, so that the check leaves the tree as it is.
* `Checks.exists_blueprint`: the other way round, a checked tree is what its functions build from the
  fields and values before the check.
-/

namespace FilterExpr

open Text

/-- What a tree is built from: connectives, and operators on a field and a value. -/
inductive Blueprint where
  | not (b : Blueprint)
  | join (j : Junction) (l r : Blueprint)
  | compare (op : Comparison) (field : String) (value : Value)
  | search (op : Search) (field : String) (value : Value)
  deriving DecidableEq, Repr

namespace Blueprint

/-- The tree that the builder makes. -/
def build : Blueprint → Call
  | .not b => .not b.build
  | .join j l r => .join j l.build r.build
  | .compare op field value => .compare op field value
  | .search op field value => .search op field value

/-- No value is a name, and searches are for quoted text. -/
def Fits : Blueprint → Prop
  | .not b => b.Fits
  | .join _ l r => l.Fits ∧ r.Fits
  | .compare _ _ value => value.isIdentifier = false
  | .search _ _ value => value.isIdentifier = false ∧ value.kind = .string

/-! ## The calls of a built tree -/

theorem shells_not (b : Blueprint) :
    b.not.build.shells = ⟨Builtin.not.name, [none]⟩ :: b.build.shells := by
  simp [build, Call.not, Call.shells, Param.value?]

theorem shells_join (j : Junction) (l r : Blueprint) :
    (join j l r).build.shells =
      ⟨(Builtin.junction j).name, [none, none]⟩ :: (l.build.shells ++ r.build.shells) := by
  simp [build, Call.join, Call.shells, Param.value?, Builtin.name]

end Blueprint

theorem Call.shells_operator (name field : String) (value : Value) :
    (Call.operator name field value).shells =
      [⟨name, [some (.identifier (lowerField field)), some value]⟩] := by
  simp [Call.operator, Call.shells, Param.value?]

/-- A call by its own name breaks the rules that its function breaks on the parameters. -/
theorem Builtin.fault?_shell (f : Builtin) (params : List (Option Value)) :
    Shell.fault? ⟨f.name, params⟩ = f.fault? params :=
  Shell.fault?_of_name f.upperName_name.symm params

/-- The field of an operator is a name however it is spelled, so that only the value counts. -/
theorem Builtin.fault?_on_field {f : Builtin} (hf : f.family = .operator) (field : String)
    (value : Value) :
    f.fault? [some (.identifier field), some value] = none ↔
      value.isIdentifier = false ∧ (f.wantsText = true → value.kind = .string) := by
  rw [Builtin.fault?_operator_eq_none_iff hf]
  constructor
  · rintro ⟨_, v, hparams, hv⟩
    cases hparams
    exact hv
  · intro hvalue
    exact ⟨field, value, rfl, hvalue⟩

theorem Builtin.normal_connective {f : Builtin} (hf : f.family ≠ .operator)
    (params : List (Option Value)) : Shell.normal ⟨f.name, params⟩ = ⟨f.name, params⟩ := by
  rw [Shell.normal_of_connective f.upperName_name.symm hf, f.upperName_name]

theorem Builtin.normal_operator {f : Builtin} (hf : f.family = .operator) (field : String)
    (params : List (Option Value)) :
    Shell.normal ⟨f.name, some (.identifier (lowerField field)) :: params⟩ =
      ⟨f.name, some (.identifier (lowerField field)) :: params⟩ := by
  rw [Shell.normal_of_operator f.upperName_name.symm hf, f.upperName_name, lowerFirst,
    lowerField_lowerField]

namespace Blueprint

theorem faultless_iff (b : Blueprint) : (∀ s ∈ b.build.shells, s.fault? = none) ↔ b.Fits := by
  induction b with
  | not b ih =>
    have hnot : Shell.fault? ⟨Builtin.not.name, [none]⟩ = none := by
      rw [Builtin.fault?_shell, Builtin.fault?_not_eq_none_iff]
    rw [shells_not, List.forall_mem_cons, ih]
    exact and_iff_right hnot
  | join j l r ihl ihr =>
    have hjoin : Shell.fault? ⟨(Builtin.junction j).name, [none, none]⟩ = none := by
      rw [Builtin.fault?_shell, Builtin.fault?_junction_eq_none_iff]
    rw [shells_join, List.forall_mem_cons, List.forall_mem_append, ihl, ihr]
    exact and_iff_right hjoin
  | compare op field value =>
    rw [build, Call.compare, Call.shells_operator, List.forall_mem_singleton,
      show op.name = (Builtin.comparison op).name from rfl, Builtin.fault?_shell,
      Builtin.fault?_on_field rfl]
    simp [Fits, Builtin.wantsText]
  | search op field value =>
    rw [build, Call.search, Call.shells_operator, List.forall_mem_singleton,
      show op.name = (Builtin.search op).name from rfl, Builtin.fault?_shell,
      Builtin.fault?_on_field rfl]
    simp [Fits, Builtin.wantsText]

theorem normal_of_mem_shells (b : Blueprint) : ∀ s ∈ b.build.shells, s.normal = s := by
  induction b with
  | not b ih =>
    rw [shells_not, List.forall_mem_cons]
    exact ⟨Builtin.normal_connective (by simp [Builtin.family]) _, ih⟩
  | join j l r ihl ihr =>
    rw [shells_join, List.forall_mem_cons, List.forall_mem_append]
    exact ⟨Builtin.normal_connective (by simp [Builtin.family]) _, ihl, ihr⟩
  | compare op field value =>
    rw [build, Call.compare, Call.shells_operator, List.forall_mem_singleton]
    exact Builtin.normal_operator (f := .comparison op) rfl field _
  | search op field value =>
    rw [build, Call.search, Call.shells_operator, List.forall_mem_singleton]
    exact Builtin.normal_operator (f := .search op) rfl field _

theorem exists_check_iff (b : Blueprint) : (∃ d, b.build.check = .ok d) ↔ b.Fits := by
  rw [Call.exists_check_iff, Call.verify_snd, sweep_eq_ok_iff, b.faultless_iff]

/-- What the check of a built tree returns is the tree itself: it finds every call in normal form. -/
theorem toCall_of_check {b : Blueprint} {d : Condition} (h : b.build.check = .ok d) :
    d.toCall = b.build := by
  apply Call.eq_of_shells_eq
  rw [(Call.check_eq_ok_iff.mp h).shells_toCall, List.map_congr_left b.normal_of_mem_shells,
    List.map_id']

end Blueprint

/-! ## From a checked tree back to its blueprint -/

/-- The blueprint with the functions of a condition, and with the fields and values of a tree of the
same shape. -/
def Condition.blueprint? : Condition → Call → Option Blueprint
  | .not d, ⟨_, [.call c]⟩ => (d.blueprint? c).map .not
  | .join j dl dr, ⟨_, [.call l, .call r]⟩ => do
    return .join j (← dl.blueprint? l) (← dr.blueprint? r)
  | .compare op _ _, ⟨_, [.value (.identifier field), .value v]⟩ => some (.compare op field v)
  | .search op _ _, ⟨_, [.value (.identifier field), .value v]⟩ => some (.search op field v)
  | _, _ => none

/-- By induction on the rules of the check: a rule takes its field in lower case, as the builder does. -/
theorem Checks.exists_blueprint {c : Call} {d : Condition} (h : Checks c d) :
    ∃ b, d.blueprint? c = some b ∧ b.build = d.toCall := by
  induction h with
  | not _ _ ih =>
    obtain ⟨b, hb, hbuild⟩ := ih
    refine ⟨.not b, ?_, ?_⟩
    · rw [Condition.blueprint?, hb]
      rfl
    · rw [Blueprint.build, hbuild]
      rfl
  | @join _ j _ _ _ _ _ _ _ ihl ihr =>
    obtain ⟨l, hl, hbuildl⟩ := ihl
    obtain ⟨r, hr, hbuildr⟩ := ihr
    refine ⟨.join j l r, ?_, ?_⟩
    · rw [Condition.blueprint?, hl, hr]
      rfl
    · rw [Blueprint.build, hbuildl, hbuildr]
      rfl
  | compare _ => exact ⟨.compare _ _ _, rfl, rfl⟩
  | search _ => exact ⟨.search _ _ _, rfl, rfl⟩

/-- A tree that is built from a blueprint passes the check exactly if no operator has a name for its value and
every search is for quoted text, and then the check leaves it as it is. If a text compiles, the checked
tree is built from the fields and values as the text has them. -/
theorem build_agrees_with_check :
    (∀ b : Blueprint,
      ((∃ d, b.build.check = .ok d) ↔ b.Fits) ∧
      ∀ d, b.build.check = .ok d → d.toCall = b.build ∧ b.build.verify = (b.build, .ok ())) ∧
    ∀ source limit d, compile source limit = .ok d →
      ∃ c b, parse source limit = .ok c ∧ d.blueprint? c = some b ∧ b.build = d.toCall := by
  refine ⟨fun b => ⟨b.exists_check_iff, fun d hcheck => ?_⟩, fun source limit d hcompile => ?_⟩
  · have htree := Blueprint.toCall_of_check hcheck
    have hverify := Call.verify_of_check hcheck
    rw [htree] at hverify
    exact ⟨htree, hverify⟩
  · obtain ⟨c, hparse, hchecks⟩ := compile_eq_ok_iff.mp hcompile
    obtain ⟨b, hb, hbuild⟩ := hchecks.exists_blueprint
    exact ⟨c, b, hparse, hb, hbuild⟩

end FilterExpr
