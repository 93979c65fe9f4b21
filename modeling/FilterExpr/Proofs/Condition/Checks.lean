import FilterExpr.Condition.Check
import FilterExpr.Proofs.Basic

/-!
# FilterExpr.Proofs.Condition.Checks

The rules of the check, one constructor a rule. `Checks c d` says that the call tree `c` stands for the
condition `d`: names of functions count in upper case, and fields are taken in lower case.
`check_eq_ok_iff` says that the check follows these rules.
-/

namespace FilterExpr

open Text

/-! ## Rules -/

inductive Checks : Call → Condition → Prop where
  | not {given : String} {c : Call} {d : Condition} :
      upperName given = Builtin.not.name → Checks c d → Checks ⟨given, [.call c]⟩ (.not d)
  | join {given : String} {j : Junction} {l r : Call} {dl dr : Condition} :
      upperName given = j.name → Checks l dl → Checks r dr →
      Checks ⟨given, [.call l, .call r]⟩ (.join j dl dr)
  | compare {given field : String} {op : Comparison} {value : Literal} :
      upperName given = op.name →
      Checks ⟨given, [.value (.identifier field), .value value.toValue]⟩
        (.compare op (lowerField field) value)
  | search {given field : String} {op : Search} {pattern : Pattern} :
      upperName given = op.name →
      Checks ⟨given, [.value (.identifier field), .value (.string pattern)]⟩
        (.search op (lowerField field) pattern)

namespace Call

/-! ## Parameters of operators -/

theorem fieldOf_eq_ok {function name : String} {p : Param} (h : fieldOf function p = .ok name) :
    ∃ field, p = .value (.identifier field) ∧ name = lowerField field := by
  cases p with
  | call c => cases h
  | value v =>
    cases v with
    | identifier field =>
      cases h
      exact ⟨field, rfl, rfl⟩
    | string pattern => cases h
    | integer digits => cases h
    | decimal digits => cases h

theorem literalOf_eq_ok {function : String} {p : Param} {value : Literal}
    (h : literalOf function p = .ok value) : p = .value value.toValue := by
  cases p with
  | call c => cases h
  | value v =>
    cases v with
    | identifier field => cases h
    | string pattern => cases h; rfl
    | integer digits => cases h; rfl
    | decimal digits => cases h; rfl

theorem literalOf_toValue (function : String) (value : Literal) :
    literalOf function (.value value.toValue) = .ok value := by
  cases value <;> rfl

theorem patternOf_eq_ok {function : String} {p : Param} {pattern : Pattern}
    (h : patternOf function p = .ok pattern) : p = .value (.string pattern) := by
  rw [patternOf] at h
  split at h
  · rename_i _ hliteral
    cases h
    exact literalOf_eq_ok hliteral
  · cases h
  · cases h

theorem inspectOperator_eq_ok {function : String}
    {condition : String → Except CheckError Condition} {p q : Param} {d : Condition}
    (h : (inspectOperator function condition p q).2 = .ok d) :
    ∃ field, p = .value (.identifier field) ∧ condition (lowerField field) = .ok d := by
  rw [inspectOperator] at h
  split at h
  · rename_i _ hfield
    obtain ⟨field, rfl, rfl⟩ := fieldOf_eq_ok hfield
    exact ⟨field, rfl, h⟩
  · cases h

/-! ## The whole tree -/

theorem checks_of_check {c : Call} {d : Condition} (h : c.check = .ok d) : Checks c d := by
  rw [check] at h
  fun_induction inspect c generalizing d with
  | case1 => cases h
  | case2 given name c c' result hc hname =>
    rename_i ih
    obtain ⟨d, rfl, rfl⟩ := map_eq_ok.mp h
    exact .not (Builtin.name_eq_of_ofName? hname).symm (ih (by rw [hc]))
  | case3 => cases h
  | case4 => cases h
  | case5 given name j l r l' dl hl r' result hr hname ihl =>
    rename_i ihr
    obtain ⟨dr, rfl, rfl⟩ := map_eq_ok.mp h
    exact .join (Builtin.name_eq_of_ofName? hname).symm (ihl (by rw [hl])) (ihr (by rw [hr]))
  | case6 => cases h
  | case7 => cases h
  | case8 given name op p q =>
    rename_i hname
    obtain ⟨field, rfl, hq⟩ := inspectOperator_eq_ok h
    obtain ⟨value, hvalue, rfl⟩ := map_eq_ok.mp hq
    rw [literalOf_eq_ok hvalue]
    exact .compare (Builtin.name_eq_of_ofName? hname).symm
  | case9 given name op p q =>
    rename_i hname
    obtain ⟨field, rfl, hq⟩ := inspectOperator_eq_ok h
    obtain ⟨pattern, hpattern, rfl⟩ := map_eq_ok.mp hq
    rw [patternOf_eq_ok hpattern]
    exact .search (Builtin.name_eq_of_ofName? hname).symm
  | case10 => cases h

theorem check_of_checks {c : Call} {d : Condition} (h : Checks c d) : c.check = .ok d := by
  induction h with
  | @not given c d hname _ ih =>
    have hf : Builtin.ofName? (upperName given) = some .not :=
      Builtin.ofName?_eq_some_iff.mpr hname.symm
    rw [check] at ih
    rw [check, inspect]
    simp only [hf]
    rw [ih]
    rfl
  | @join given j l r dl dr hname _ _ ihl ihr =>
    have hf : Builtin.ofName? (upperName given) = some (.junction j) :=
      Builtin.ofName?_eq_some_iff.mpr hname.symm
    rw [check] at ihl ihr
    rw [check, inspect]
    simp only [hf]
    cases hl : l.inspect with
    | mk l' result =>
      rw [hl] at ihl
      cases ihl
      simp only
      rw [ihr]
      rfl
  | @compare given field op value hname =>
    have hf : Builtin.ofName? (upperName given) = some (.comparison op) :=
      Builtin.ofName?_eq_some_iff.mpr hname.symm
    rw [check, inspect]
    simp only [hf, inspectOperator, fieldOf, literalOf_toValue]
    rfl
  | @search given field op pattern hname =>
    have hf : Builtin.ofName? (upperName given) = some (.search op) :=
      Builtin.ofName?_eq_some_iff.mpr hname.symm
    rw [check, inspect]
    simp only [hf, inspectOperator, fieldOf, patternOf, literalOf]
    rfl

theorem check_eq_ok_iff {c : Call} {d : Condition} : c.check = .ok d ↔ Checks c d :=
  ⟨checks_of_check, check_of_checks⟩

end Call

end FilterExpr
