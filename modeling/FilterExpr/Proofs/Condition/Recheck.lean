import FilterExpr.Proofs.Condition.Canonical
import FilterExpr.Proofs.Condition.Sweep

/-!
# FilterExpr.Proofs.Condition.Recheck

Checking a tree that has been checked before. A check that fails leaves a tree of which a part is in normal
form, its stop is in between, and the rest is as it was given. None of this moves the stop: normal forms do
not change a second time (`Shell.normal_normal`, `Shell.stopped_stopped`), and they keep the fault of a call
or its lack (`Shell.fault?_normal`, `Shell.fault?_stopped`). So a sweep repeats itself (`sweep_sweep`), and
with it the check (`verify_settles`).
-/

namespace FilterExpr

open Text

/-! ## One call -/

theorem lowerFirst_lowerFirst (params : List (Option Value)) :
    lowerFirst (lowerFirst params) = lowerFirst params := by
  fun_cases lowerFirst params with
  | case1 field params => rw [lowerFirst, lowerField_lowerField]
  | case2 params hparams => rw [lowerFirst]; exact hparams

/-- A name stays a name, so that all kinds stay. -/
theorem map_kind_lowerFirst (params : List (Option Value)) :
    (lowerFirst params).map (Option.map Value.kind) = params.map (Option.map Value.kind) := by
  fun_cases lowerFirst params with
  | case1 field params => rfl
  | case2 params hparams => rfl

namespace Shell

theorem isOperator_normal (s : Shell) : s.normal.isOperator = s.isOperator := by
  simp only [isOperator, normal, upperName_upperName]

theorem normal_normal (s : Shell) : s.normal.normal = s.normal := by
  rw [normal, isOperator_normal]
  cases hs : s.isOperator with
  | true => simp [normal, hs, upperName_upperName, lowerFirst_lowerFirst]
  | false => simp [normal, hs, upperName_upperName]

theorem stopped_stopped (s : Shell) (e : CheckError) : (s.stopped e).stopped e = s.stopped e := by
  by_cases he : e.position? = some 2
  · simp [stopped, he, upperName_upperName, lowerFirst_lowerFirst]
  · simp [stopped, he, upperName_upperName]

theorem fault?_normal (s : Shell) : s.normal.fault? = s.fault? := by
  refine fault?_congr (upperName_upperName s.name) ?_
  rw [normal]
  split
  · exact map_kind_lowerFirst s.params
  · rfl

theorem fault?_stopped (s : Shell) (e : CheckError) : (s.stopped e).fault? = s.fault? := by
  refine fault?_congr (upperName_upperName s.name) ?_
  rw [stopped]
  split
  · exact map_kind_lowerFirst s.params
  · rfl

end Shell

/-! ## A list of calls, and a tree -/

theorem sweep_sweep (ss : List Shell) : sweep (sweep ss).1 = sweep ss := by
  induction ss with
  | nil => rfl
  | cons s ss ih =>
    cases hs : s.fault? with
    | some e =>
      have hagain : (s.stopped e).fault? = some e := (s.fault?_stopped e).trans hs
      rw [sweep_fault hs, sweep_fault hagain, s.stopped_stopped]
    | none =>
      have hagain : s.normal.fault? = none := s.fault?_normal.trans hs
      rw [sweep_wellFormed hs, sweep_wellFormed hagain, s.normal_normal, ih]

theorem Call.verify_verify (c : Call) : c.verify.1.verify = c.verify := by
  have htree : c.verify.1.verify.1.shells = c.verify.1.shells := by
    rw [shells_verify, shells_verify, sweep_sweep]
  have houtcome : c.verify.1.verify.2 = c.verify.2 := by
    rw [verify_snd, shells_verify, sweep_sweep, verify_snd]
  exact Prod.ext (eq_of_shells_eq htree) houtcome

theorem Condition.check_toCall {c : Call} {d : Condition} (h : c.check = .ok d) :
    d.toCall.check = .ok d :=
  Call.check_eq_ok_iff.mpr (Call.check_eq_ok_iff.mp h).toCall

theorem Call.check_verify (c : Call) : c.verify.1.check = c.check := by
  cases h : c.check with
  | ok d =>
    rw [verify_of_check h]
    exact Condition.check_toCall h
  | error e =>
    rw [check_eq_error_iff] at h ⊢
    rw [verify_verify, h]

/-- Checking again changes nothing, whether the first check passed or not. The tree that a check leaves
behind has the same outcome, down to the error, and is left as it is; it stands for the same condition, and
so does the tree of that condition. -/
theorem verify_settles (c : Call) :
    c.verify.1.verify = c.verify ∧ c.verify.1.check = c.check ∧
      (c.check >>= fun d => d.toCall.check) = c.check := by
  refine ⟨c.verify_verify, c.check_verify, ?_⟩
  cases h : c.check with
  | ok d => exact Condition.check_toCall h
  | error e => rfl

end FilterExpr
