import FilterExpr.Call.Where
import FilterExpr.Proofs.Condition.Canonical
import FilterExpr.Proofs.Condition.Sweep
import FilterExpr.Proofs.FieldMap

/-!
# FilterExpr.Proofs.Condition.Where

What the check of a tree buys for its fragment. The tree of a condition is written as the condition is
(`Condition.toSql_toCall`), so the errors about functions and parameters never come up, and what is left
depends on the mapping alone: the first field that is not allowed is reported (`Condition.rejected?_toSql`),
and columns of other fields are not asked for (`Condition.toSql_congr`). `toSql_of_check` says this of
every tree that passes the check.
-/

namespace FilterExpr

open Text

/-! ## The fields of a tree -/

/-- The field of an operator. -/
def Shell.field? (s : Shell) : Option String :=
  match s.isOperator, s.params with
  | true, some (.identifier field) :: _ => some field
  | _, _ => none

/-- The fields of the operators in a tree, from left to right. -/
def Call.fields (c : Call) : List String := c.shells.filterMap Shell.field?

theorem Shell.field?_of_connective {f : Builtin} (hf : f.family ≠ .operator)
    (params : List (Option Value)) : Shell.field? ⟨f.name, params⟩ = none := by
  simp only [Shell.field?, Shell.isOperator_of_name f.upperName_name.symm, decide_eq_false hf]

theorem Shell.field?_of_operator {f : Builtin} (hf : f.family = .operator) (field : String)
    (params : List (Option Value)) :
    Shell.field? ⟨f.name, some (.identifier field) :: params⟩ = some field := by
  simp only [Shell.field?, Shell.isOperator_of_name f.upperName_name.symm, decide_eq_true hf]

theorem Call.fields_of_connective {f : Builtin} (hf : f.family ≠ .operator) (params : List Param) :
    Call.fields ⟨f.name, params⟩ = (Param.allShells params).filterMap Shell.field? := by
  rw [Call.fields, Call.shells, List.filterMap_cons_none (Shell.field?_of_connective hf _)]

theorem Call.fields_of_operator {f : Builtin} (hf : f.family = .operator) (field : String) (v : Value) :
    Call.fields ⟨f.name, [.value (.identifier field), .value v]⟩ = [field] := by
  rw [Call.fields, Call.shells]
  exact List.filterMap_cons_some (Shell.field?_of_operator hf field [some v])

theorem Condition.fields_toCall (d : Condition) : d.toCall.fields = d.fields := by
  induction d with
  | not d ih =>
    rw [Condition.toCall, Call.fields_of_connective (by decide), Condition.fields, ← ih, Call.fields,
      Param.allShells_call, Param.allShells_nil, List.append_nil]
  | join j l r ihl ihr =>
    have hj := Call.fields_of_connective (f := .junction j) (by simp [Builtin.family])
      [.call l.toCall, .call r.toCall]
    rw [Param.allShells_call, Param.allShells_call, Param.allShells_nil, List.append_nil,
      List.filterMap_append] at hj
    rw [Condition.fields, ← ihl, ← ihr]
    exact hj
  | compare op field value => exact Call.fields_of_operator (f := .comparison op) rfl field _
  | search op field pattern => exact Call.fields_of_operator (f := .search op) rfl field _

/-! ## The tree of a condition is written as the condition

One lemma for each kind of call whose parameters are in order. -/

section

variable {mapping : FieldMapping}

theorem Call.toSql_not {c : Call} {r : Except RejectedField String}
    (h : c.toSql mapping = r.mapError .rejected) :
    Call.toSql mapping ⟨Builtin.not.name, [.call c]⟩ =
      (do return "NOT(" ++ (← r) ++ ")" : Except RejectedField String).mapError .rejected := by
  rw [Call.toSql, Builtin.ofName?_name]
  simp only [Param.operandsSql, Param.operandSql, h]
  cases r <;> rfl

theorem Call.toSql_join (j : Junction) {c d : Call} {r s : Except RejectedField String}
    (hc : c.toSql mapping = r.mapError .rejected) (hd : d.toSql mapping = s.mapError .rejected) :
    Call.toSql mapping ⟨(Builtin.junction j).name, [.call c, .call d]⟩ =
      (do return "(" ++ (← r) ++ ") " ++ j.name ++ " (" ++ (← s) ++ ")" :
        Except RejectedField String).mapError .rejected := by
  rw [Call.toSql, Builtin.ofName?_name]
  simp only [Param.operandsSql, Param.operandSql, hc, hd]
  cases r <;> cases s <;> rfl

theorem Param.operatorSql_of_sql? {function op field text : String} {v : Value}
    (hv : v.sql? = some text) :
    Param.operatorSql mapping function op [.value (.identifier field), .value v] =
      (do return (← mapping.column field) ++ " " ++ op ++ " " ++ text :
        Except RejectedField String).mapError .rejected := by
  simp only [Param.operatorSql, hv]
  cases mapping.column field <;> rfl

end

theorem Literal.sql?_toValue (value : Literal) : value.toValue.sql? = some value.sql := by
  cases value <;> rfl

theorem Condition.toSql_toCall (mapping : FieldMapping) (d : Condition) :
    d.toCall.toSql mapping = (d.toSql mapping).mapError .rejected := by
  induction d with
  | not d ih => exact Call.toSql_not ih
  | join j l r ihl ihr => exact Call.toSql_join j ihl ihr
  | compare op field value =>
    have hop : Builtin.ofName? op.name = some (.comparison op) :=
      Builtin.ofName?_name (.comparison op)
    rw [Condition.toCall, Call.toSql, hop]
    exact Param.operatorSql_of_sql? value.sql?_toValue
  | search op field pattern =>
    have hop : Builtin.ofName? op.name = some (.search op) := Builtin.ofName?_name (.search op)
    rw [Condition.toCall, Call.toSql, hop]
    exact Param.operatorSql_of_sql? rfl

/-! ## Rejected fields -/

/-- The mapping gives a column for the field, and not an empty one. -/
def FieldMapping.Allows (mapping : FieldMapping) (field : String) : Prop :=
  ∃ column ∈ mapping field, column ≠ ""

instance (mapping : FieldMapping) (field : String) : Decidable (mapping.Allows field) :=
  inferInstanceAs (Decidable (∃ column ∈ mapping field, column ≠ ""))

/-- The field that was rejected, if any was. -/
def rejected? {α : Type} : Except RejectedField α → Option String
  | .ok _ => none
  | .error e => some e.field

theorem rejected?_bind {α β : Type} (r : Except RejectedField α) (f : α → β) :
    rejected? (do return f (← r)) = rejected? r := by
  cases r <;> rfl

theorem rejected?_bind_bind {α β γ : Type} (r : Except RejectedField α) (s : Except RejectedField β)
    (f : α → β → γ) : rejected? (do return f (← r) (← s)) = (rejected? r).or (rejected? s) := by
  cases r <;> cases s <;> rfl

theorem FieldMapping.rejected?_column (mapping : FieldMapping) (field : String) :
    rejected? (mapping.column field) = [field].find? (fun other => ¬ mapping.Allows other) := by
  cases hfield : mapping field with
  | none => simp [column, hfield, Allows, rejected?]
  | some column =>
    by_cases hempty : column = ""
    · simp [FieldMapping.column, hfield, Allows, hempty, rejected?]
    · simp [FieldMapping.column, hfield, Allows, hempty, rejected?]

/-- Operands are written from left to right, so the first field that is not allowed is reported. -/
theorem Condition.rejected?_toSql (mapping : FieldMapping) (d : Condition) :
    rejected? (d.toSql mapping) = d.fields.find? (fun field => ¬ mapping.Allows field) := by
  induction d with
  | not d ih =>
    rw [Condition.toSql, rejected?_bind, ih, Condition.fields]
  | join j l r ihl ihr =>
    rw [Condition.toSql, rejected?_bind_bind, ihl, ihr, Condition.fields, List.find?_append]
  | compare op field value =>
    rw [Condition.toSql, rejected?_bind, mapping.rejected?_column, Condition.fields]
  | search op field pattern =>
    rw [Condition.toSql, rejected?_bind, mapping.rejected?_column, Condition.fields]

/-- Only the fields of a condition are looked up. -/
theorem Condition.toSql_congr {mapping other : FieldMapping} {d : Condition}
    (h : ∀ field ∈ d.fields, other field = mapping field) : d.toSql other = d.toSql mapping := by
  induction d with
  | not d ih => rw [Condition.toSql, ih h, Condition.toSql]
  | join j l r ihl ihr =>
    have hl := ihl fun field hfield => h field (List.mem_append_left _ hfield)
    have hr := ihr fun field hfield => h field (List.mem_append_right _ hfield)
    rw [Condition.toSql, hl, hr, Condition.toSql]
  | compare op field value =>
    have hcolumn := h field (List.mem_singleton_self field)
    rw [Condition.toSql, FieldMapping.column, hcolumn, Condition.toSql, FieldMapping.column]
  | search op field pattern =>
    have hcolumn := h field (List.mem_singleton_self field)
    rw [Condition.toSql, FieldMapping.column, hcolumn, Condition.toSql, FieldMapping.column]

theorem Condition.rejected?_toSql_eq_none_iff {mapping : FieldMapping} {d : Condition} :
    rejected? (d.toSql mapping) = none ↔ ∀ field ∈ d.fields, mapping.Allows field := by
  rw [d.rejected?_toSql, List.find?_eq_none]
  simp

theorem Condition.rejected?_toSql_eq_some_iff {mapping : FieldMapping} {d : Condition}
    {field : String} :
    rejected? (d.toSql mapping) = some field ↔
      ∃ before after, d.fields = before ++ field :: after ∧
        (∀ earlier ∈ before, mapping.Allows earlier) ∧ ¬ mapping.Allows field := by
  rw [d.rejected?_toSql, List.find?_eq_some_iff_append]
  constructor
  · rintro ⟨hfield, before, after, hfields, hbefore⟩
    exact ⟨before, after, hfields, by simpa using hbefore, by simpa using hfield⟩
  · rintro ⟨before, after, hfields, hbefore, hfield⟩
    exact ⟨by simpa using hfield, before, after, hfields, by simpa using hbefore⟩

/-! ## Checked trees -/

theorem exists_mapError_rejected_eq_ok_iff {r : Except RejectedField String} :
    (∃ sql, r.mapError WhereError.rejected = .ok sql) ↔ rejected? r = none := by
  cases r with
  | ok sql => exact ⟨fun _ => rfl, fun _ => ⟨sql, rfl⟩⟩
  | error e =>
    constructor
    · rintro ⟨sql, h⟩
      cases h
    · intro h
      cases h

theorem mapError_rejected_eq_error_iff {r : Except RejectedField String} {e : WhereError} :
    r.mapError .rejected = .error e ↔ ∃ field, rejected? r = some field ∧ e = .rejected ⟨field⟩ := by
  cases r with
  | ok sql =>
    constructor
    · intro h
      cases h
    · rintro ⟨field, h, _⟩
      cases h
  | error rejection =>
    constructor
    · intro h
      exact ⟨rejection.field, rfl, (Except.error.inj h).symm⟩
    · rintro ⟨field, h, rfl⟩
      cases h
      rfl

/-- The tree that a passed check leaves behind has a fragment exactly if the mapping allows all of its
fields. Otherwise the first field that is not allowed is to blame, and never a function or its
parameters. The mapping counts at the fields of the tree only. -/
theorem toSql_of_check {c : Call} {d : Condition} (h : c.check = .ok d) (mapping : FieldMapping) :
    c.verify = (d.toCall, .ok ()) ∧
    d.toCall.toSql mapping = (d.toSql mapping).mapError .rejected ∧
    (∀ function, d.toCall.toSql mapping ≠ .error (.unsupported function) ∧
      d.toCall.toSql mapping ≠ .error (.malformed function)) ∧
    ((∃ sql, d.toCall.toSql mapping = .ok sql) ↔ ∀ field ∈ d.toCall.fields, mapping.Allows field) ∧
    (∀ field, d.toCall.toSql mapping = .error (.rejected ⟨field⟩) ↔
      ∃ before after, d.toCall.fields = before ++ field :: after ∧
        (∀ earlier ∈ before, mapping.Allows earlier) ∧ ¬ mapping.Allows field) ∧
    ∀ other : FieldMapping, (∀ field ∈ d.toCall.fields, other field = mapping field) →
      d.toCall.toSql other = d.toCall.toSql mapping := by
  refine ⟨c.verify_of_check h, d.toSql_toCall mapping, ?_, ?_, ?_, ?_⟩
  · intro function
    rw [d.toSql_toCall]
    constructor
    · intro herror
      obtain ⟨_, _, hkind⟩ := mapError_rejected_eq_error_iff.mp herror
      cases hkind
    · intro herror
      obtain ⟨_, _, hkind⟩ := mapError_rejected_eq_error_iff.mp herror
      cases hkind
  · rw [d.toSql_toCall, exists_mapError_rejected_eq_ok_iff, d.fields_toCall]
    exact Condition.rejected?_toSql_eq_none_iff
  · intro field
    rw [d.toSql_toCall, mapError_rejected_eq_error_iff, d.fields_toCall,
      ← Condition.rejected?_toSql_eq_some_iff]
    simp
  · intro other hother
    rw [d.fields_toCall] at hother
    rw [d.toSql_toCall, d.toSql_toCall, Condition.toSql_congr hother]

/-- The first field has a column, the second an empty one, the third none. -/
theorem toSql_of_check_second_rejected :
    ∃ d, Call.check ⟨"And", [
        .call ⟨"not", [.call ⟨"eq", [.value (.identifier "Type"), .value (.integer "1")]⟩]⟩,
        .call ⟨"OR", [
          .call ⟨"gt", [.value (.identifier "Secret"), .value (.decimal ".5")]⟩,
          .call ⟨"in", [.value (.identifier "other"), .value (.string .empty)]⟩]⟩]⟩ = .ok d ∧
      d.toCall.toSql (FieldMap.ofList [("type", "host_type"), ("secret", "")]).toMapping =
        .error (.rejected ⟨"secret"⟩) := by
  have h : Call.check ⟨"And", [
      .call ⟨"not", [.call ⟨"eq", [.value (.identifier "Type"), .value (.integer "1")]⟩]⟩,
      .call ⟨"OR", [
        .call ⟨"gt", [.value (.identifier "Secret"), .value (.decimal ".5")]⟩,
        .call ⟨"in", [.value (.identifier "other"), .value (.string .empty)]⟩]⟩]⟩ =
      .ok (.join .and (.not (.compare .eq "type" (.integer "1")))
        (.join .or (.compare .gt "secret" (.decimal ".5")) (.search .within "other" .empty))) := by
    decide +kernel
  -- single insertions leave the same map, and they can be evaluated
  rw [← FieldMap.insertAll_eq_ofList]
  have hfirst := (toSql_of_check h
    (FieldMap.empty.insertAll [("type", "host_type"), ("secret", "")]).toMapping).2.2.2.2.1 "secret"
  exact ⟨_, h, hfirst.mpr
    ⟨["type"], ["other"], by decide +kernel, by decide +kernel, by decide +kernel⟩⟩

end FilterExpr
