import FilterExpr.Value

/-!
# FilterExpr.Call

Call trees: a filter is a call of a function by name with parameters, and a parameter is a value or
another call. `Call.depth` is how deep calls are nested, `Call.nodes` lists the tree from the root
down, and `Call.render` is its canonical text. `Call.induction` is the induction over calls, with the
hypothesis for every call among the parameters.
-/

namespace FilterExpr

mutual

structure Call where
  name : String
  params : List Param

inductive Param where
  | value (v : Value)
  | call (c : Call)

end

theorem Call.induction {P : Call → Prop}
    (step : ∀ name params, (∀ c, Param.call c ∈ params → P c) → P ⟨name, params⟩) (c : Call) : P c :=
  @Call.rec P (fun p => ∀ c, p = .call c → P c) (fun params => ∀ c, Param.call c ∈ params → P c)
    (fun name params ih => step name params ih)
    (fun _ _ h => nomatch h)
    (fun _ ih _ h => Param.call.inj h ▸ ih)
    (fun _ h => nomatch h)
    (fun _ _ ihp ihps c h => (List.mem_cons.mp h).elim (fun hc => ihp c hc.symm) (ihps c))
    c

/-! ## Equality -/

mutual

def Call.decEq : (a b : Call) → Decidable (a = b)
  | ⟨f, ps⟩, ⟨g, qs⟩ =>
    match decEq f g, Param.listDecEq ps qs with
    | isTrue hf, isTrue hp => isTrue (by rw [hf, hp])
    | isFalse hf, _ => isFalse fun h => hf (congrArg Call.name h)
    | _, isFalse hp => isFalse fun h => hp (congrArg Call.params h)

def Param.listDecEq : (ps qs : List Param) → Decidable (ps = qs)
  | [], [] => isTrue rfl
  | [], _ :: _ => isFalse fun h => nomatch h
  | _ :: _, [] => isFalse fun h => nomatch h
  | p :: ps, q :: qs =>
    match Param.decEq p q, Param.listDecEq ps qs with
    | isTrue hp, isTrue hps => isTrue (by rw [hp, hps])
    | isFalse hp, _ => isFalse fun h => hp (List.cons.inj h).1
    | _, isFalse hps => isFalse fun h => hps (List.cons.inj h).2

def Param.decEq : (p q : Param) → Decidable (p = q)
  | .value v, .value w =>
    match decEq v w with
    | isTrue h => isTrue (by rw [h])
    | isFalse h => isFalse fun hp => h (Param.value.inj hp)
  | .value _, .call _ => isFalse fun h => nomatch h
  | .call _, .value _ => isFalse fun h => nomatch h
  | .call c, .call d =>
    match Call.decEq c d with
    | isTrue h => isTrue (by rw [h])
    | isFalse h => isFalse fun hp => h (Param.call.inj hp)

end

instance : DecidableEq Call := Call.decEq

instance : DecidableEq Param := Param.decEq

/-! ## Depth -/

mutual

/-- The length of the longest chain of calls, the root included. -/
def Call.depth : Call → Nat
  | ⟨_, params⟩ => Param.maxDepth params + 1

def Param.maxDepth : List Param → Nat
  | [] => 0
  | p :: ps => max p.depth (Param.maxDepth ps)

/-- A value adds no nesting. -/
def Param.depth : Param → Nat
  | .value _ => 0
  | .call c => c.depth

end

/-! ## Canonical text -/

mutual

/-- A name, then the parameters between parentheses, set off by spaces. -/
def Call.render : Call → String
  | ⟨name, params⟩ => name ++ " ( " ++ Param.renderAll params ++ " )"

def Param.renderAll : List Param → String
  | [] => ""
  | [p] => p.render
  | p :: q :: ps => p.render ++ ", " ++ Param.renderAll (q :: ps)

def Param.render : Param → String
  | .value v => v.render
  | .call c => c.render

end

/-! ## The nodes of a tree -/

/-- A place in a tree: the index of the parameter to take at each call, from the root down. -/
abbrev Path := List Nat

mutual

/-- The root and the nodes below it, a parent before its parameters, from left to right. -/
def Call.nodesAt (path : Path) : Call → List (Path × Param)
  | ⟨name, params⟩ => (path, .call ⟨name, params⟩) :: Param.nodesFrom path 0 params

/-- The nodes of the parameters of the call at `path`, the first of which has the given index. -/
def Param.nodesFrom (path : Path) (index : Nat) : List Param → List (Path × Param)
  | [] => []
  | p :: ps => Param.nodesAt (path ++ [index]) p ++ Param.nodesFrom path (index + 1) ps

def Param.nodesAt (path : Path) : Param → List (Path × Param)
  | .value v => [(path, .value v)]
  | .call c => Call.nodesAt path c

end

def Call.nodes (c : Call) : List (Path × Param) := Call.nodesAt [] c

end FilterExpr
