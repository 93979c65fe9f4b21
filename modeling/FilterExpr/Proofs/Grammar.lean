import FilterExpr.Call

/-!
# FilterExpr.Proofs.Grammar

The grammar of filters over the kinds of tokens, apart from any way of reading it:

    filter    = call END
    call      = NAME "(" parameter ("," parameter)* ")"
    parameter = call | NAME | STRING | INTEGER | DECIMAL

where the first parameter of a call is a call or a name. `Grammar.IsFilter ks f` says that the kinds
`ks` derive the tree `f`.

A tree fixes the tokens it is derived from: `Call.kinds` writes them down. So a derivation amounts to
an equation and a condition on the tree alone (`isFilter_iff`): `Call.headed`, which says that every
call has parameters and the first of them starts with a name.
-/

namespace FilterExpr

open Token (Kind)

/-! ## Conditions on a whole tree -/

mutual

/-- Every call of the tree passes `f`, and every value passes `g`. -/
def Call.every (f : Call → Bool) (g : Value → Bool) : Call → Bool
  | ⟨name, params⟩ => f ⟨name, params⟩ && Param.everyAll f g params

def Param.everyAll (f : Call → Bool) (g : Value → Bool) : List Param → Bool
  | [] => true
  | p :: ps => p.every f g && Param.everyAll f g ps

def Param.every (f : Call → Bool) (g : Value → Bool) : Param → Bool
  | .value v => g v
  | .call c => c.every f g

end

theorem Param.everyAll_iff {f : Call → Bool} {g : Value → Bool} {ps : List Param} :
    Param.everyAll f g ps = true ↔ ∀ p ∈ ps, p.every f g = true := by
  induction ps with
  | nil => simp [Param.everyAll]
  | cons p ps ih => simp [Param.everyAll, ih]

theorem Call.every_iff {f : Call → Bool} {g : Value → Bool} {name : String} {params : List Param} :
    Call.every f g ⟨name, params⟩ = true ↔
      f ⟨name, params⟩ = true ∧ ∀ p ∈ params, p.every f g = true := by
  rw [Call.every, Bool.and_eq_true, Param.everyAll_iff]

theorem Call.every_of_forall {f : Call → Bool} {g : Value → Bool} (hf : ∀ c, f c = true)
    (hg : ∀ v, g v = true) (c : Call) : c.every f g = true := by
  induction c using Call.induction with
  | step name params ih =>
    refine Call.every_iff.mpr ⟨hf _, fun p hp => ?_⟩
    cases p with
    | value v => exact hg v
    | call c => exact ih c hp

def Param.startsWithName : Param → Bool
  | .value v => v.isIdentifier
  | .call _ => true

/-- There are parameters, and the first of them starts with a name. -/
def Param.nameFirst : List Param → Bool
  | [] => false
  | p :: _ => p.startsWithName

theorem Param.nameFirst_concat {ps : List Param} (hne : ps ≠ []) (p : Param) :
    Param.nameFirst (ps ++ [p]) = Param.nameFirst ps := by
  cases ps with
  | nil => exact absurd rfl hne
  | cons q qs => rfl

/-- Every call of the tree has parameters, the first of which starts with a name. -/
def Call.headed (c : Call) : Bool := c.every (fun c => Param.nameFirst c.params) (fun _ => true)

def Param.headed (p : Param) : Bool := p.every (fun c => Param.nameFirst c.params) (fun _ => true)

theorem Call.headed_iff {name : String} {params : List Param} :
    Call.headed ⟨name, params⟩ = true ↔
      Param.nameFirst params = true ∧ ∀ p ∈ params, p.headed = true :=
  Call.every_iff

/-! ## Depth -/

theorem Param.maxDepth_le_iff {ps : List Param} {n : Nat} :
    Param.maxDepth ps ≤ n ↔ ∀ p ∈ ps, p.depth ≤ n := by
  induction ps with
  | nil => simp [Param.maxDepth]
  | cons p ps ih => rw [Param.maxDepth, Nat.max_le, ih, List.forall_mem_cons]

theorem Call.depth_le_iff {name : String} {params : List Param} {n : Nat} :
    Call.depth ⟨name, params⟩ ≤ n ↔ 1 ≤ n ∧ ∀ p ∈ params, 1 + p.depth ≤ n := by
  cases n with
  | zero => simp [Call.depth]
  | succ n =>
    rw [Call.depth, Nat.add_le_add_iff_right, Param.maxDepth_le_iff]
    constructor
    · intro h
      refine ⟨by omega, fun p hp => ?_⟩
      have := h p hp
      omega
    · rintro ⟨_, h⟩ p hp
      have := h p hp
      omega

/-! ## The tokens of a tree -/

/-- The token that a value is read from. -/
def Value.token : Value → Token.Kind
  | .identifier name => .identifier name
  | .string pattern => .string pattern
  | .integer digits => .integer digits
  | .decimal digits => .decimal digits

@[simp] theorem Value.ofToken?_token (v : Value) : Value.ofToken? v.token = some v := by
  cases v <;> rfl

theorem Value.token_of_ofToken? {k : Token.Kind} {v : Value} (h : Value.ofToken? k = some v) :
    v.token = k := by
  cases k <;> cases h <;> rfl

mutual

/-- The tokens of a call, of which the parameters are separated by commas. -/
def Call.kinds : Call → List Kind
  | ⟨name, params⟩ => .identifier name :: .leftParen :: (Param.allKinds params ++ [.rightParen])

def Param.allKinds : List Param → List Kind
  | [] => []
  | [p] => p.kinds
  | p :: q :: ps => p.kinds ++ .comma :: Param.allKinds (q :: ps)

def Param.kinds : Param → List Kind
  | .value v => [v.token]
  | .call c => c.kinds

end

theorem Call.kinds_eq (c : Call) : c.kinds =
    .identifier c.name :: .leftParen :: (Param.allKinds c.params ++ [.rightParen]) := by
  cases c
  rw [Call.kinds]

/-- The tokens that stand between the opening parenthesis and the parameter after `ps`. -/
def Param.lead (ps : List Param) : List Kind :=
  if ps = [] then [] else Param.allKinds ps ++ [.comma]

theorem Param.allKinds_concat (ps : List Param) (p : Param) :
    Param.allKinds (ps ++ [p]) = Param.lead ps ++ p.kinds := by
  induction ps with
  | nil => rfl
  | cons q ps ih =>
    cases ps with
    | nil => simp [Param.lead, Param.allKinds]
    | cons r ps =>
      rw [List.cons_append, List.cons_append, Param.allKinds, ← List.cons_append, ih]
      simp [Param.lead, Param.allKinds]

theorem Param.all_allKinds {q : Kind → Bool} (hcomma : q .comma = true) (ps : List Param) :
    (Param.allKinds ps).all q = ps.all fun p => p.kinds.all q := by
  induction ps with
  | nil => rfl
  | cons p ps ih =>
    cases ps with
    | nil => simp [Param.allKinds]
    | cons r ps => rw [Param.allKinds, List.all_append, List.all_cons, hcomma, ih]; rfl

/-- What holds of the delimiters holds of all tokens of a tree exactly if it holds of the names of
its calls and of its values. -/
theorem Call.all_kinds {q : Kind → Bool} (hcomma : q .comma = true) (hleft : q .leftParen = true)
    (hright : q .rightParen = true) (c : Call) :
    c.kinds.all q = c.every (fun c => q (.identifier c.name)) (fun v => q v.token) := by
  induction c using Call.induction with
  | step name params ih =>
    have hparams : ∀ p ∈ params,
        p.kinds.all q = p.every (fun c => q (.identifier c.name)) (fun v => q v.token) := by
      intro p hp
      cases p with
      | value v => simp [Param.kinds, Param.every]
      | call c => exact ih c hp
    rw [Bool.eq_iff_iff, Call.every_iff, Call.kinds, List.all_cons, List.all_cons,
      List.all_append, Param.all_allKinds hcomma]
    simp only [hleft, hright, List.all_cons, List.all_nil, Bool.and_true, Bool.true_and,
      Bool.and_eq_true, List.all_eq_true]
    refine and_congr_right fun _ => forall_congr' fun p => forall_congr' fun hp => ?_
    rw [← List.all_eq_true, hparams p hp]

/-! ## Derivations -/

namespace Grammar

mutual

inductive IsCall : List Kind → Call → Prop where
  | call {name : String} {ks : List Kind} {p : Param} {ps : List Param} :
      IsParams ks (p :: ps) → p.startsWithName = true →
      IsCall (.identifier name :: .leftParen :: (ks ++ [.rightParen])) ⟨name, p :: ps⟩

inductive IsParams : List Kind → List Param → Prop where
  | one {ks : List Kind} {p : Param} : IsParam ks p → IsParams ks [p]
  | cons {ks ls : List Kind} {p q : Param} {ps : List Param} :
      IsParam ks p → IsParams ls (q :: ps) → IsParams (ks ++ .comma :: ls) (p :: q :: ps)

inductive IsParam : List Kind → Param → Prop where
  | call {ks : List Kind} {c : Call} : IsCall ks c → IsParam ks (.call c)
  | name (name : String) : IsParam [.identifier name] (.value (.identifier name))
  | string (pattern : Pattern) : IsParam [.string pattern] (.value (.string pattern))
  | integer (digits : String) : IsParam [.integer digits] (.value (.integer digits))
  | decimal (digits : String) : IsParam [.decimal digits] (.value (.decimal digits))

end

/-- The kinds derive the filter. -/
inductive IsFilter : List Kind → Call → Prop where
  | filter {ks : List Kind} {f : Call} : IsCall ks f → IsFilter (ks ++ [.eof]) f

mutual

theorem IsCall.kinds_eq {ks : List Kind} {c : Call} : IsCall ks c → ks = c.kinds ∧ c.headed = true
  | .call hps hp => by
    obtain ⟨hks, hall⟩ := hps.kinds_eq
    refine ⟨by rw [Call.kinds, hks], Call.headed_iff.mpr ⟨hp, hall⟩⟩

theorem IsParams.kinds_eq {ks : List Kind} {ps : List Param} :
    IsParams ks ps → ks = Param.allKinds ps ∧ ∀ p ∈ ps, p.headed = true
  | .one hp => by
    obtain ⟨hks, hh⟩ := hp.kinds_eq
    exact ⟨by rw [Param.allKinds, hks], by simpa using hh⟩
  | .cons hp hps => by
    obtain ⟨hks, hh⟩ := hp.kinds_eq
    obtain ⟨hls, hall⟩ := hps.kinds_eq
    exact ⟨by rw [Param.allKinds, hks, hls], List.forall_mem_cons.mpr ⟨hh, hall⟩⟩

theorem IsParam.kinds_eq {ks : List Kind} {p : Param} :
    IsParam ks p → ks = p.kinds ∧ p.headed = true
  | .call hc => hc.kinds_eq
  | .name _ => ⟨rfl, rfl⟩
  | .string _ => ⟨rfl, rfl⟩
  | .integer _ => ⟨rfl, rfl⟩
  | .decimal _ => ⟨rfl, rfl⟩

end

theorem isParam_value (v : Value) : IsParam [v.token] (.value v) := by
  cases v with
  | identifier name => exact .name name
  | string pattern => exact .string pattern
  | integer digits => exact .integer digits
  | decimal digits => exact .decimal digits

theorem isParams_allKinds {ps : List Param} (hne : ps ≠ [])
    (h : ∀ p ∈ ps, IsParam p.kinds p) : IsParams (Param.allKinds ps) ps := by
  induction ps with
  | nil => exact absurd rfl hne
  | cons p ps ih =>
    rw [List.forall_mem_cons] at h
    cases ps with
    | nil => exact .one h.1
    | cons q ps => exact .cons h.1 (ih (by simp) h.2)

theorem isCall_kinds (c : Call) : c.headed = true → IsCall c.kinds c := by
  induction c using Call.induction with
  | step name params ih =>
    intro h
    obtain ⟨hfirst, hall⟩ := Call.headed_iff.mp h
    have hparams : ∀ p ∈ params, IsParam p.kinds p := by
      intro p hp
      cases p with
      | value v => exact isParam_value v
      | call c => exact .call (ih c hp (hall _ hp))
    cases params with
    | nil => cases hfirst
    | cons p ps => exact .call (isParams_allKinds (by simp) hparams) hfirst

theorem isFilter_iff {ks : List Kind} {f : Call} :
    IsFilter (ks ++ [.eof]) f ↔ ks = f.kinds ∧ f.headed = true := by
  constructor
  · intro h
    generalize hls : ks ++ [Kind.eof] = ls at h
    cases h with
    | filter hc =>
      rw [List.append_cancel_right hls]
      exact hc.kinds_eq
  · rintro ⟨rfl, hh⟩
    exact .filter (isCall_kinds f hh)

end Grammar

end FilterExpr
