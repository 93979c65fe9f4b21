import FilterExpr.Proofs.Condition.Checks
import FilterExpr.Proofs.Condition.Faults

/-!
# FilterExpr.Proofs.Condition.Sweep

The check of a tree, told without its recursion. `sweep` runs over a flat list of shells, puts them in
normal form and stops at the first one with a fault. `sweep_shells` says that the check of a tree is the
sweep over its shells, so that what a tree does is read off a list:

* `check_accepts_wellFormed`: a tree passes exactly if each of its calls is well formed, and then each
  of its calls is put in normal form.
* `verify_stops_at_first_fault`: otherwise the error is that of the first call with a fault, the calls
  before it are in normal form, and the calls after it are as they were.
-/

namespace FilterExpr

open Text

/-! ## What the check makes of a call -/

/-- The first parameter in lower case, if it is a name. -/
def lowerFirst : List (Option Value) → List (Option Value)
  | some (.identifier field) :: params => some (.identifier (lowerField field)) :: params
  | params => params

/-- The parameter at which an error points. -/
def CheckError.position? : CheckError → Option Nat
  | .unknownFunction _ => none
  | .arity _ _ _ => none
  | .expectedFunction _ position => some position
  | .expectedValue _ position => some position
  | .expectedField _ _ => some 1
  | .unexpectedIdentifier _ => some 2
  | .expectedString _ _ => some 2

namespace Shell

/-- The function compares a field with a value. -/
def isOperator (s : Shell) : Bool :=
  (Builtin.ofName? (upperName s.name)).any (·.family = .operator)

/-- The call with its name in upper case and, if it is an operator, its field in lower case. -/
def normal (s : Shell) : Shell :=
  ⟨upperName s.name, if s.isOperator then lowerFirst s.params else s.params⟩

/-- The call at which the check stops: its name is in upper case, and its first parameter is in lower
case if the second one is to blame. -/
def stopped (s : Shell) (e : CheckError) : Shell :=
  ⟨upperName s.name, if e.position? = some 2 then lowerFirst s.params else s.params⟩

variable {given : String} {f : Builtin}

theorem isOperator_of_name (h : f.name = upperName given) (params : List (Option Value)) :
    isOperator ⟨given, params⟩ = decide (f.family = .operator) := by
  rw [isOperator, Builtin.ofName?_eq_some_iff.mpr h, Option.any_some]

theorem normal_of_connective (h : f.name = upperName given) (hf : f.family ≠ .operator)
    (params : List (Option Value)) : normal ⟨given, params⟩ = ⟨upperName given, params⟩ := by
  rw [normal, isOperator_of_name h, decide_eq_false hf]
  rfl

theorem normal_of_operator (h : f.name = upperName given) (hf : f.family = .operator)
    (params : List (Option Value)) :
    normal ⟨given, params⟩ = ⟨upperName given, lowerFirst params⟩ := by
  rw [normal, isOperator_of_name h, decide_eq_true hf]
  rfl

end Shell

/-! ## Sweeping a list of calls -/

/-- Puts calls in normal form up to the first one with a fault. -/
def sweep : List Shell → List Shell × Except CheckError Unit
  | [] => ([], .ok ())
  | s :: ss =>
    match s.fault? with
    | some e => (s.stopped e :: ss, .error e)
    | none => (s.normal :: (sweep ss).1, (sweep ss).2)

theorem sweep_fault {s : Shell} {e : CheckError} (h : s.fault? = some e) (ss : List Shell) :
    sweep (s :: ss) = (s.stopped e :: ss, .error e) := by
  rw [sweep, h]

theorem sweep_wellFormed {s : Shell} (h : s.fault? = none) (ss : List Shell) :
    sweep (s :: ss) = (s.normal :: (sweep ss).1, (sweep ss).2) := by
  rw [sweep, h]

/-- Behind an error nothing is changed, and otherwise the sweep goes on. -/
theorem sweep_append (ss rest : List Shell) :
    sweep (ss ++ rest) =
      match (sweep ss).2 with
      | .error e => ((sweep ss).1 ++ rest, .error e)
      | .ok () => ((sweep ss).1 ++ (sweep rest).1, (sweep rest).2) := by
  induction ss with
  | nil => rfl
  | cons s ss ih =>
    cases hs : s.fault? with
    | some e => simp only [List.cons_append, sweep_fault hs]
    | none =>
      simp only [List.cons_append, sweep_wellFormed hs, ih]
      cases (sweep ss).2 <;> rfl

/-- Without an error every call was in order and is in normal form. -/
theorem sweep_eq_ok_iff {ss : List Shell} :
    (sweep ss).2 = .ok () ↔ ∀ s ∈ ss, s.fault? = none := by
  induction ss with
  | nil => simp [sweep]
  | cons s ss ih =>
    cases hs : s.fault? with
    | some e => simp [sweep_fault hs, hs]
    | none => simp [sweep_wellFormed hs, hs, ih]

theorem sweep_fst_of_ok {ss : List Shell} (h : ∀ s ∈ ss, s.fault? = none) :
    (sweep ss).1 = ss.map Shell.normal := by
  induction ss with
  | nil => rfl
  | cons s ss ih =>
    rw [List.forall_mem_cons] at h
    rw [sweep_wellFormed h.1, ih h.2, List.map_cons]

/-- Whether the sweep stops, and with which error, depends on the faults alone. -/
theorem sweep_snd_map {f : Shell → Shell} (h : ∀ s, (f s).fault? = s.fault?) (ss : List Shell) :
    (sweep (ss.map f)).2 = (sweep ss).2 := by
  induction ss with
  | nil => rfl
  | cons s ss ih =>
    have hs := h s
    cases hfault : s.fault? with
    | some e => rw [List.map_cons, sweep_fault (hs.trans hfault), sweep_fault hfault]
    | none => rw [List.map_cons, sweep_wellFormed (hs.trans hfault), sweep_wellFormed hfault, ih]

/-- The calls before the first fault are put in normal form, and those after it are left alone. -/
theorem sweep_first_fault {before after : List Shell} {s : Shell} {e : CheckError}
    (hbefore : ∀ g ∈ before, g.fault? = none) (hs : s.fault? = some e) :
    sweep (before ++ s :: after) = (before.map Shell.normal ++ s.stopped e :: after, .error e) := by
  rw [sweep_append, sweep_eq_ok_iff.mpr hbefore, sweep_fst_of_ok hbefore, sweep_fault hs]

theorem exists_first_fault {ss : List Shell} {e : CheckError} (h : (sweep ss).2 = .error e) :
    ∃ before s after, ss = before ++ s :: after ∧ (∀ g ∈ before, g.fault? = none) ∧
      s.fault? = some e := by
  induction ss with
  | nil => cases h
  | cons s ss ih =>
    cases hs : s.fault? with
    | some e' =>
      rw [sweep_fault hs] at h
      cases h
      exact ⟨[], s, ss, rfl, by simp, hs⟩
    | none =>
      rw [sweep_wellFormed hs] at h
      obtain ⟨before, t, after, rfl, hbefore, ht⟩ := ih h
      exact ⟨s :: before, t, after, rfl, List.forall_mem_cons.mpr ⟨hs, hbefore⟩, ht⟩

/-! ## The check as a sweep -/

/-- The outcome of a check without the condition. -/
def outcome (r : Except CheckError Condition) : Except CheckError Unit := r.map fun _ => ()

theorem outcome_map (r : Except CheckError Condition) (g : Condition → Condition) :
    outcome (r.map g) = outcome r := by
  cases r <;> rfl

namespace Call

/-- The call itself has a fault, and there is no field before the parameter to blame. -/
theorem sweep_of_fault {given : String} {params : List Param} {e : CheckError}
    (h : Shell.fault? ⟨given, params.map Param.value?⟩ = some e)
    (he : Shell.stopped ⟨given, params.map Param.value?⟩ e =
      ⟨upperName given, params.map Param.value?⟩) :
    sweep (Call.shells ⟨given, params⟩) =
      (Call.shells ⟨upperName given, params⟩, .error e) := by
  rw [Call.shells, Call.shells, sweep_fault h, he]

/-- A connective with the right parameters passes the sweep on to them. -/
theorem sweep_of_connective {given : String} {f : Builtin} {params : List Param}
    (hname : f.name = upperName given) (hf : f.family ≠ .operator)
    (h : f.fault? (params.map Param.value?) = none) :
    sweep (Call.shells ⟨given, params⟩) =
      (⟨upperName given, params.map Param.value?⟩ :: (sweep (Param.allShells params)).1,
        (sweep (Param.allShells params)).2) := by
  have hshell : Shell.fault? ⟨given, params.map Param.value?⟩ = none := by
    rw [Shell.fault?_of_name hname]
    exact h
  rw [Call.shells, sweep_wellFormed hshell, Shell.normal_of_connective hname hf]

/-- What is wrong with the value of an operator, as an outcome. -/
def valueOutcome (f : Builtin) (q : Param) : Except CheckError Unit :=
  match f.valueFault? q.value? with
  | some e => .error e
  | none => .ok ()

theorem outcome_literalOf (op : Comparison) (field : String) (q : Param) :
    outcome ((literalOf op.name q).map (.compare op field)) =
      valueOutcome (.comparison op) q := by
  cases q with
  | call c => rfl
  | value v => cases v <;> rfl

theorem outcome_patternOf (op : Search) (field : String) (q : Param) :
    outcome ((patternOf op.name q).map (.search op field)) = valueOutcome (.search op) q := by
  cases q with
  | call c => rfl
  | value v => cases v <;> rfl

theorem position_of_valueFault {f : Builtin} {param : Option Value} {e : CheckError}
    (h : f.valueFault? param = some e) : e.position? = some 2 := by
  rw [Builtin.valueFault?.eq_def] at h
  split at h
  · cases h; rfl
  · split at h
    · cases h; rfl
    · split at h
      · cases h; rfl
      · cases h

theorem sweep_operator {given : String} {f : Builtin} (hname : f.name = upperName given)
    (hf : f.family = .operator) {condition : String → Except CheckError Condition} {p q : Param}
    (hq : ∀ field, outcome (condition field) = valueOutcome f q) :
    sweep (Call.shells ⟨given, [p, q]⟩) =
      ((inspectOperator (upperName given) condition p q).1.shells,
        outcome (inspectOperator (upperName given) condition p q).2) := by
  have hfault : Shell.fault? ⟨given, [p, q].map Param.value?⟩ =
      (f.fieldFault? p.value?).or (f.valueFault? q.value?) := by
    rw [Shell.fault?_of_name hname]
    exact Builtin.fault?_of_operator hf p.value? q.value?
  cases p with
  | call c =>
    exact sweep_of_fault (e := .expectedValue (upperName given) 1) (by rw [hfault, ← hname]; rfl) rfl
  | value v =>
    cases v with
    | identifier field =>
      cases hv : f.valueFault? q.value? with
      | some e =>
        have hshell : Shell.fault? ⟨given, [.value (.identifier field), q].map Param.value?⟩ = some e := by
          rw [hfault, hv]; rfl
        rw [Call.shells, sweep_fault hshell, Shell.stopped, if_pos (position_of_valueFault hv)]
        simp only [inspectOperator, fieldOf, hq, valueOutcome, hv]
        rfl
      | none =>
        have hshell : Shell.fault? ⟨given, [.value (.identifier field), q].map Param.value?⟩ = none := by
          rw [hfault, hv]; rfl
        obtain ⟨w, hw, _⟩ := Builtin.valueFault?_eq_none_iff.mp hv
        cases q with
        | call c => cases hw
        | value w =>
          rw [Call.shells, sweep_wellFormed hshell, Shell.normal_of_operator hname hf]
          simp only [inspectOperator, fieldOf, hq, valueOutcome, hv]
          rfl
    | string pattern =>
      exact sweep_of_fault (by rw [hfault, ← hname]; rfl) rfl
    | integer digits =>
      exact sweep_of_fault (by rw [hfault, ← hname]; rfl) rfl
    | decimal digits =>
      exact sweep_of_fault (by rw [hfault, ← hname]; rfl) rfl

/-- The check walks over the calls of a tree in the order of their shells. -/
theorem sweep_shells (c : Call) : sweep c.shells = (c.inspect.1.shells, outcome c.inspect.2) := by
  fun_induction inspect c with
  | case1 given params name hname =>
    exact sweep_of_fault (Shell.fault?_of_unknown hname _) rfl
  | case2 given name c c' result hc hname ih =>
    have hf := Builtin.name_eq_of_ofName? hname
    rw [hc] at ih
    rw [sweep_of_connective hf (by simp [Builtin.family]) rfl, Param.allShells_call, Param.allShells_nil,
      List.append_nil, ih, outcome_map, Call.shells, Param.allShells_call, Param.allShells_nil,
      List.append_nil]
    rfl
  | case3 given name v hname =>
    have hf := Builtin.name_eq_of_ofName? hname
    exact sweep_of_fault (by rw [Shell.fault?_of_name hf, ← hf]; rfl) rfl
  | case4 given name j l r l' e hl hname ih =>
    have hf := Builtin.name_eq_of_ofName? hname
    rw [hl] at ih
    rw [sweep_of_connective hf (by simp [Builtin.family]) rfl, Param.allShells_call, sweep_append, ih]
    rfl
  | case5 given name j l r l' dl hl r' result hr hname ihl ihr =>
    have hf := Builtin.name_eq_of_ofName? hname
    rw [hl] at ihl
    rw [hr] at ihr
    rw [sweep_of_connective hf (by simp [Builtin.family]) rfl, Param.allShells_call, sweep_append, ihl,
      Param.allShells_call, Param.allShells_nil, List.append_nil, ihr, outcome_map, Call.shells,
      Param.allShells_call, Param.allShells_call, Param.allShells_nil, List.append_nil]
    rfl
  | case6 given name j v p hname =>
    have hf := Builtin.name_eq_of_ofName? hname
    exact sweep_of_fault (by rw [Shell.fault?_of_name hf, ← hf]; rfl) rfl
  | case7 given name j c v hname =>
    have hf := Builtin.name_eq_of_ofName? hname
    exact sweep_of_fault (by rw [Shell.fault?_of_name hf, ← hf]; rfl) rfl
  | case8 given name op p q hname =>
    have hf := Builtin.name_eq_of_ofName? hname
    refine sweep_operator hf rfl fun field => ?_
    rw [← hf]
    exact outcome_literalOf op field q
  | case9 given name op p q hname =>
    have hf := Builtin.name_eq_of_ofName? hname
    refine sweep_operator hf rfl fun field => ?_
    rw [← hf]
    exact outcome_patternOf op field q
  | case10 given name f params hnot hnot' hjoin hjoin' hjoin'' hcompare hsearch hname =>
    have hf := Builtin.name_eq_of_ofName? hname
    -- with the right number of parameters one of the other cases applies
    have hlength : (params.map Param.value?).length ≠ f.arity := by
      rw [List.length_map]
      intro h
      cases f with
      | not =>
        obtain ⟨p, rfl⟩ := List.length_eq_one_iff.mp h
        cases p with
        | value v => exact hnot' v rfl rfl
        | call c => exact hnot c rfl rfl
      | junction j =>
        obtain ⟨p, q, rfl⟩ := List.length_eq_two.mp h
        cases p with
        | value v => exact hjoin' j v q rfl rfl
        | call c =>
          cases q with
          | value v => exact hjoin'' j c v rfl rfl
          | call d => exact hjoin j c d rfl rfl
      | comparison op =>
        obtain ⟨p, q, rfl⟩ := List.length_eq_two.mp h
        exact hcompare op p q rfl rfl
      | search op =>
        obtain ⟨p, q, rfl⟩ := List.length_eq_two.mp h
        exact hsearch op p q rfl rfl
    refine sweep_of_fault ?_ rfl
    rw [Shell.fault?_of_name hf, Builtin.fault?_of_length_ne hlength, List.length_map, hf]

/-! ## Trees that pass, and trees that do not -/

theorem verify_snd (c : Call) : c.verify.2 = (sweep c.shells).2 := by
  rw [sweep_shells]
  rfl

theorem shells_verify (c : Call) : c.verify.1.shells = (sweep c.shells).1 := by
  rw [sweep_shells]
  rfl

theorem exists_check_iff (c : Call) : (∃ d, c.check = .ok d) ↔ c.verify.2 = .ok () := by
  rw [verify, check]
  cases c.inspect.2 <;> simp [Except.map]

theorem check_eq_error_iff {c : Call} {e : CheckError} :
    c.check = .error e ↔ c.verify.2 = .error e := by
  rw [verify, check]
  cases c.inspect.2 <;> simp [Except.map]

end Call

/-- The tree of the condition differs from the tree that was checked in the case of names only. -/
theorem Checks.shells_toCall {c : Call} {d : Condition} (h : Checks c d) :
    d.toCall.shells = c.shells.map Shell.normal := by
  induction h with
  | @not given c d hname _ ih =>
    have hshell : Shell.normal ⟨given, [none]⟩ = ⟨Builtin.not.name, [none]⟩ := by
      rw [Shell.normal_of_connective hname.symm (by simp [Builtin.family]), hname]
    simp only [Condition.toCall, Call.shells, List.map_cons, List.map_nil, Param.value?, hshell,
      Param.allShells_call, Param.allShells_nil, List.append_nil, ih]
  | @join given j l r dl dr hname _ _ ihl ihr =>
    have hshell : Shell.normal ⟨given, [none, none]⟩ = ⟨j.name, [none, none]⟩ := by
      rw [Shell.normal_of_connective (f := .junction j) hname.symm (by simp [Builtin.family]), hname]
    simp only [Condition.toCall, Call.shells, List.map_cons, List.map_nil, Param.value?, hshell,
      Param.allShells_call, Param.allShells_nil, List.append_nil, List.map_append, ihl, ihr]
  | @compare given field op value hname =>
    have hshell (params : List (Option Value)) :
        Shell.normal ⟨given, params⟩ = ⟨op.name, lowerFirst params⟩ := by
      rw [Shell.normal_of_operator (f := .comparison op) hname.symm rfl, hname]
    simp only [Condition.toCall, Call.shells, List.map_cons, List.map_nil, Param.value?, hshell,
      Param.allShells_value, Param.allShells_nil, lowerFirst]
  | @search given field op pattern hname =>
    have hshell (params : List (Option Value)) :
        Shell.normal ⟨given, params⟩ = ⟨op.name, lowerFirst params⟩ := by
      rw [Shell.normal_of_operator (f := .search op) hname.symm rfl, hname]
    simp only [Condition.toCall, Call.shells, List.map_cons, List.map_nil, Param.value?, hshell,
      Param.allShells_value, Param.allShells_nil, lowerFirst]

theorem Call.verify_of_check {c : Call} {d : Condition} (h : c.check = .ok d) :
    c.verify = (d.toCall, .ok ()) := by
  have hok : c.verify.2 = .ok () := (exists_check_iff c).mp ⟨d, h⟩
  have hfaults : ∀ s ∈ c.shells, s.fault? = none := by
    rw [← sweep_eq_ok_iff, ← verify_snd, hok]
  have hshells : c.verify.1.shells = d.toCall.shells := by
    rw [shells_verify, sweep_fst_of_ok hfaults, (check_eq_ok_iff.mp h).shells_toCall]
  exact Prod.ext (eq_of_shells_eq hshells) hok

/-- A tree passes the check exactly if the name of each call in it is, in upper case, that of a function
that takes its parameters. The checked tree is then the one in which each call has its name in upper
case and, if it is an operator, its field in lower case; all else is as it was. -/
theorem check_accepts_wellFormed (c : Call) :
    ((∃ d, c.check = .ok d) ↔ ∀ s ∈ c.shells, s.WellFormed) ∧
    ∀ d, c.check = .ok d →
      c.verify = (d.toCall, .ok ()) ∧
      ∀ t : Call, t = d.toCall ↔ t.shells = c.shells.map Shell.normal := by
  refine ⟨?_, fun d h => ⟨Call.verify_of_check h, fun t => ?_⟩⟩
  · rw [Call.exists_check_iff, Call.verify_snd, sweep_eq_ok_iff]
    simp only [Shell.fault?_eq_none_iff]
  · rw [← (Call.check_eq_ok_iff.mp h).shells_toCall]
    exact ⟨fun ht => by rw [ht], Call.eq_of_shells_eq⟩

/-- If the check of a tree fails, the error is that of the first call with a fault of its own. In the tree
that is left, the calls before it are in normal form, its own name is in upper case and its field in lower
case if its second parameter is to blame, and everything behind it is as it was. -/
theorem verify_stops_at_first_fault (c : Call) (e : CheckError) :
    c.verify.2 = .error e ↔
      ∃ before s after, c.shells = before ++ s :: after ∧
        (∀ g ∈ before, g.fault? = none) ∧ s.fault? = some e ∧
        ∀ t : Call, t = c.verify.1 ↔
          t.shells = before.map Shell.normal ++ s.stopped e :: after := by
  constructor
  · intro h
    rw [Call.verify_snd] at h
    obtain ⟨before, s, after, hshells, hbefore, hs⟩ := exists_first_fault h
    refine ⟨before, s, after, hshells, hbefore, hs, fun t => ?_⟩
    have hleft : c.verify.1.shells = before.map Shell.normal ++ s.stopped e :: after := by
      rw [Call.shells_verify, hshells, sweep_first_fault hbefore hs]
    rw [← hleft]
    exact ⟨fun ht => by rw [ht], Call.eq_of_shells_eq⟩
  · rintro ⟨before, s, after, hshells, hbefore, hs, _⟩
    rw [Call.verify_snd, hshells, sweep_first_fault hbefore hs]

example :
    Call.verify ⟨"and", [
      .call ⟨"in", [.value (.identifier "Name"), .value (.integer "1")]⟩,
      .call ⟨"eq", [.value (.identifier "Size"), .value (.integer "2")]⟩]⟩ =
    (⟨"AND", [
      .call ⟨"IN", [.value (.identifier "name"), .value (.integer "1")]⟩,
      .call ⟨"eq", [.value (.identifier "Size"), .value (.integer "2")]⟩]⟩,
      .error (.expectedString "IN" .integer)) := by
  decide +kernel

end FilterExpr
