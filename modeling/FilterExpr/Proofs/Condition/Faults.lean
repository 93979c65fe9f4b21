import FilterExpr.Proofs.Call.Shells
import FilterExpr.Condition.Check
import Mathlib.Data.List.Basic

/-!
# FilterExpr.Proofs.Condition.Faults

The rules that one call has to keep. They speak of its shell only: of its name, of its values and of the
places where calls stand, not of what is in those calls. `Shell.WellFormed` says what the rules ask for, and
`Shell.fault?` is the first rule that a call breaks. A call is well formed exactly if it has no fault
(`Shell.fault?_eq_none_iff`). Of the values only their kinds matter, and of the name its upper-case form
(`Shell.fault?_congr`).
-/

namespace FilterExpr

open Text

/-! ## The rules for one call -/

/-- The parameters that a function takes, where a gap stands for a call. -/
inductive Builtin.Takes : Builtin → List (Option Value) → Prop where
  | not : Takes .not [none]
  | junction {j : Junction} : Takes (.junction j) [none, none]
  | comparison {op : Comparison} {field : String} {v : Value} : v.isIdentifier = false →
      Takes (.comparison op) [some (.identifier field), some v]
  | search {op : Search} {field : String} {pattern : Pattern} :
      Takes (.search op) [some (.identifier field), some (.string pattern)]

/-- The name in upper case is that of a function that takes the parameters. -/
def Shell.WellFormed (s : Shell) : Prop :=
  ∃ f : Builtin, f.name = upperName s.name ∧ f.Takes s.params

namespace Builtin

/-- The function compares with quoted text only. -/
def wantsText : Builtin → Bool
  | .search _ => true
  | _ => false

/-- Of the parameters that have to be calls, the first that is none. -/
def callFault? (f : Builtin) (params : List (Option Value)) : Option CheckError :=
  (params.findIdx? Option.isSome).map fun i => .expectedFunction f.name (i + 1)

/-- The first parameter of an operator has to be a name. -/
def fieldFault? (f : Builtin) : Option Value → Option CheckError
  | none => some (.expectedValue f.name 1)
  | some v => if v.isIdentifier then none else some (.expectedField f.name v.kind)

/-- The second parameter of an operator has to be a value other than a name, and a pattern for some. -/
def valueFault? (f : Builtin) : Option Value → Option CheckError
  | none => some (.expectedValue f.name 2)
  | some v =>
    if v.isIdentifier then some (.unexpectedIdentifier f.name)
    else if f.wantsText ∧ v.kind ≠ .string then some (.expectedString f.name v.kind)
    else none

/-- The first rule of the function that the parameters break: their number comes before their kinds,
and the field before the value. -/
def fault? (f : Builtin) (params : List (Option Value)) : Option CheckError :=
  if params.length = f.arity then
    match f.family, params with
    | .operator, [field, value] => (f.fieldFault? field).or (f.valueFault? value)
    | _, params => f.callFault? params
  else some (.arity f.name f.arity params.length)

end Builtin

/-- The first rule that the call breaks by itself, whatever the calls in it are. -/
def Shell.fault? (s : Shell) : Option CheckError :=
  match Builtin.ofName? (upperName s.name) with
  | none => some (.unknownFunction (upperName s.name))
  | some f => f.fault? s.params

theorem Shell.fault?_of_unknown {given : String} (h : Builtin.ofName? (upperName given) = none)
    (params : List (Option Value)) :
    Shell.fault? ⟨given, params⟩ = some (.unknownFunction (upperName given)) := by
  rw [Shell.fault?, h]

theorem Shell.fault?_of_name {given : String} {f : Builtin} (h : f.name = upperName given)
    (params : List (Option Value)) : Shell.fault? ⟨given, params⟩ = f.fault? params := by
  rw [Shell.fault?, Builtin.ofName?_eq_some_iff.mpr h]

/-! ## Well-formed calls have no fault -/

namespace Builtin

theorem fault?_of_length_ne {f : Builtin} {params : List (Option Value)}
    (h : params.length ≠ f.arity) : f.fault? params = some (.arity f.name f.arity params.length) := by
  simp [fault?, h]

theorem fault?_of_connective {f : Builtin} (hf : f.family ≠ .operator) {params : List (Option Value)}
    (h : params.length = f.arity) : f.fault? params = f.callFault? params := by
  simp only [fault?, h, if_true]
  split
  · contradiction
  · rfl

theorem fault?_of_operator {f : Builtin} (hf : f.family = .operator) (field value : Option Value) :
    f.fault? [field, value] = (f.fieldFault? field).or (f.valueFault? value) := by
  have harity : f.arity = 2 := by rw [arity, hf]; rfl
  simp only [fault?, harity, hf, List.length_cons, List.length_nil, if_true]

theorem fieldFault?_eq_none_iff {f : Builtin} {param : Option Value} :
    f.fieldFault? param = none ↔ ∃ field, param = some (.identifier field) := by
  cases param with
  | none => simp [fieldFault?]
  | some v => cases v <;> simp [fieldFault?, Value.isIdentifier, Value.identifier?]

theorem valueFault?_eq_none_iff {f : Builtin} {param : Option Value} :
    f.valueFault? param = none ↔
      ∃ v, param = some v ∧ v.isIdentifier = false ∧ (f.wantsText = true → v.kind = .string) := by
  cases param with
  | none => simp [valueFault?]
  | some v =>
    cases hv : v.isIdentifier with
    | true => simp [valueFault?, hv]
    | false => simp [valueFault?, hv]

theorem callFault?_eq_none_iff {f : Builtin} {params : List (Option Value)} :
    f.callFault? params = none ↔ ∀ p ∈ params, p = none := by
  simp [callFault?]

theorem fault?_not_eq_none_iff {params : List (Option Value)} :
    Builtin.not.fault? params = none ↔ params = [none] := by
  constructor
  · intro h
    match params with
    | [] => cases h
    | [p] =>
      have hcalls := callFault?_eq_none_iff.mp (show Builtin.not.callFault? [p] = none from h)
      rw [hcalls p (by simp)]
    | _ :: _ :: _ => simp [fault?, arity, family, Family.arity] at h
  · rintro rfl
    rfl

theorem fault?_junction_eq_none_iff {j : Junction} {params : List (Option Value)} :
    (Builtin.junction j).fault? params = none ↔ params = [none, none] := by
  constructor
  · intro h
    match params with
    | [] => cases h
    | [_] => cases h
    | [p, q] =>
      have hcalls := callFault?_eq_none_iff.mp (show (junction j).callFault? [p, q] = none from h)
      rw [hcalls p (by simp), hcalls q (by simp)]
    | _ :: _ :: _ :: _ => simp [fault?, arity, family, Family.arity] at h
  · rintro rfl
    rfl

/-- Both kinds of operators. -/
theorem fault?_operator_eq_none_iff {f : Builtin} (hf : f.family = .operator)
    {params : List (Option Value)} :
    f.fault? params = none ↔
      ∃ field v, params = [some (.identifier field), some v] ∧ v.isIdentifier = false ∧
        (f.wantsText = true → v.kind = .string) := by
  have harity : f.arity = 2 := by rw [arity, hf]; rfl
  constructor
  · intro h
    match params with
    | [] => simp [fault?, harity] at h
    | [_] => simp [fault?, harity] at h
    | [p, q] =>
      rw [fault?_of_operator hf, Option.or_eq_none_iff] at h
      obtain ⟨field, rfl⟩ := fieldFault?_eq_none_iff.mp h.1
      obtain ⟨v, rfl, hv, htext⟩ := valueFault?_eq_none_iff.mp h.2
      exact ⟨field, v, rfl, hv, htext⟩
    | _ :: _ :: _ :: _ => simp [fault?, harity] at h
  · rintro ⟨field, v, rfl, hv, htext⟩
    rw [fault?_of_operator hf, Option.or_eq_none_iff]
    exact ⟨fieldFault?_eq_none_iff.mpr ⟨field, rfl⟩, valueFault?_eq_none_iff.mpr ⟨v, rfl, hv, htext⟩⟩

theorem fault?_eq_none_iff {f : Builtin} {params : List (Option Value)} :
    f.fault? params = none ↔ f.Takes params := by
  cases f with
  | not =>
    rw [fault?_not_eq_none_iff]
    exact ⟨fun h => h ▸ .not, fun h => by cases h; rfl⟩
  | junction j =>
    rw [fault?_junction_eq_none_iff]
    exact ⟨fun h => h ▸ .junction, fun h => by cases h; rfl⟩
  | comparison op =>
    rw [fault?_operator_eq_none_iff rfl]
    constructor
    · rintro ⟨field, v, rfl, hv, _⟩
      exact .comparison hv
    · intro h
      cases h with
      | comparison hv => exact ⟨_, _, rfl, hv, fun htext => nomatch htext⟩
  | search op =>
    rw [fault?_operator_eq_none_iff rfl]
    constructor
    · rintro ⟨field, v, rfl, _, htext⟩
      have hkind := htext rfl
      cases v with
      | string pattern => exact .search
      | _ => cases hkind
    · intro h
      cases h with
      | search => exact ⟨_, _, rfl, rfl, fun _ => rfl⟩

end Builtin

theorem Shell.fault?_eq_none_iff {s : Shell} : s.fault? = none ↔ s.WellFormed := by
  obtain ⟨given, params⟩ := s
  cases hname : Builtin.ofName? (upperName given) with
  | none =>
    rw [Shell.fault?_of_unknown hname]
    constructor
    · intro h
      cases h
    · rintro ⟨f, hf, _⟩
      rw [Builtin.ofName?_eq_some_iff.mpr hf] at hname
      cases hname
  | some f =>
    have hf := Builtin.name_eq_of_ofName? hname
    rw [Shell.fault?_of_name hf, Builtin.fault?_eq_none_iff]
    constructor
    · intro h
      exact ⟨f, hf, h⟩
    · rintro ⟨g, hg, h⟩
      rw [Builtin.ofName?_eq_some_iff.mpr hg] at hname
      cases hname
      exact h

/-! ## What faults depend on -/

theorem Value.isIdentifier_eq (v : Value) : v.isIdentifier = decide (v.kind = .identifier) := by
  cases v <;> rfl

namespace Builtin

variable {f : Builtin}

theorem fieldFault?_congr {p q : Option Value} (h : p.map Value.kind = q.map Value.kind) :
    f.fieldFault? p = f.fieldFault? q := by
  cases p with
  | none =>
    rw [Option.map_none, eq_comm, Option.map_eq_none_iff] at h
    rw [h]
  | some v =>
    obtain ⟨w, rfl, hkind⟩ := Option.map_eq_some_iff.mp h.symm
    rw [fieldFault?, fieldFault?, v.isIdentifier_eq, w.isIdentifier_eq, hkind]

theorem valueFault?_congr {p q : Option Value} (h : p.map Value.kind = q.map Value.kind) :
    f.valueFault? p = f.valueFault? q := by
  cases p with
  | none =>
    rw [Option.map_none, eq_comm, Option.map_eq_none_iff] at h
    rw [h]
  | some v =>
    obtain ⟨w, rfl, hkind⟩ := Option.map_eq_some_iff.mp h.symm
    rw [valueFault?, valueFault?, v.isIdentifier_eq, w.isIdentifier_eq, hkind]

/-- Only the places of the calls count. -/
theorem callFault?_eq_kinds (params : List (Option Value)) :
    f.callFault? params =
      ((params.map (Option.map Value.kind)).findIdx? Option.isSome).map
        fun i => .expectedFunction f.name (i + 1) := by
  have hgap : Option.isSome ∘ Option.map Value.kind = Option.isSome :=
    funext fun _ => Option.isSome_map
  rw [List.findIdx?_map, hgap, callFault?]

theorem fault?_congr {params others : List (Option Value)}
    (h : params.map (Option.map Value.kind) = others.map (Option.map Value.kind)) :
    f.fault? params = f.fault? others := by
  have hlength : params.length = others.length := by simpa using congrArg List.length h
  by_cases harity : params.length = f.arity
  · by_cases hf : f.family = .operator
    · have htwo : f.arity = 2 := by rw [arity, hf]; rfl
      obtain ⟨p, q, rfl⟩ := List.length_eq_two.mp (harity.trans htwo)
      obtain ⟨p', q', rfl⟩ := List.length_eq_two.mp (hlength.symm.trans (harity.trans htwo))
      simp only [List.map_cons, List.map_nil, List.cons.injEq, and_true] at h
      rw [fault?_of_operator hf, fault?_of_operator hf, fieldFault?_congr h.1, valueFault?_congr h.2]
    · rw [fault?_of_connective hf harity, fault?_of_connective hf (hlength.symm.trans harity),
        callFault?_eq_kinds, callFault?_eq_kinds, h]
  · rw [fault?_of_length_ne harity, fault?_of_length_ne (hlength ▸ harity), hlength]

end Builtin

theorem Shell.fault?_congr {s t : Shell} (hname : upperName s.name = upperName t.name)
    (h : s.params.map (Option.map Value.kind) = t.params.map (Option.map Value.kind)) :
    s.fault? = t.fault? := by
  rw [Shell.fault?, Shell.fault?, hname]
  cases Builtin.ofName? (upperName t.name) with
  | none => rfl
  | some f => exact Builtin.fault?_congr h

end FilterExpr
