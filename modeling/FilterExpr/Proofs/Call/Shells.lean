import FilterExpr.Call

/-!
# FilterExpr.Proofs.Call.Shells

The calls of a tree as a flat list. A shell is a call with the calls among its parameters taken out, so
that only what is its own is left: its name, its values, and the places where the calls stood.
`Call.shells` lists the shells of a tree, a call before the calls in it, from left to right.

Nothing is lost on the way: trees with the same shells are equal (`Call.eq_of_shells_eq`), since a shell
tells how many calls belong into it.
-/

namespace FilterExpr

/-- A call without the calls among its parameters, each of which leaves a gap. -/
structure Shell where
  name : String
  params : List (Option Value)
  deriving DecidableEq, Repr

def Param.value? : Param → Option Value
  | .value v => some v
  | .call _ => none

mutual

/-- The shells of the tree, a call before the calls in it, from left to right. -/
def Call.shells : Call → List Shell
  | ⟨name, params⟩ => ⟨name, params.map Param.value?⟩ :: Param.allShells params

def Param.allShells : List Param → List Shell
  | [] => []
  | p :: ps => p.shells ++ Param.allShells ps

def Param.shells : Param → List Shell
  | .value _ => []
  | .call c => c.shells

end

@[simp] theorem Param.allShells_nil : Param.allShells [] = [] := rfl

@[simp] theorem Param.allShells_value (v : Value) (ps : List Param) :
    Param.allShells (.value v :: ps) = Param.allShells ps := rfl

@[simp] theorem Param.allShells_call (c : Call) (ps : List Param) :
    Param.allShells (.call c :: ps) = c.shells ++ Param.allShells ps := rfl

/-! ## Shells determine the tree -/

/-- The shells of `c` are read in one way, whatever comes after them. -/
def Call.Readable (c : Call) : Prop :=
  ∀ (d : Call) (r s : List Shell), c.shells ++ r = d.shells ++ s → c = d ∧ r = s

/-- By induction on the parameters: values and gaps agree one by one, and each gap is filled from the
front of the list. -/
theorem Param.allShells_cancel {ps : List Param} :
    ∀ {qs : List Param} {r s : List Shell}, (∀ c, .call c ∈ ps → c.Readable) →
      ps.map Param.value? = qs.map Param.value? →
      Param.allShells ps ++ r = Param.allShells qs ++ s → ps = qs ∧ r = s := by
  induction ps with
  | nil =>
    intro qs r s _ hvalues h
    have hqs : qs = [] := by simpa using hvalues.symm
    subst hqs
    exact ⟨rfl, h⟩
  | cons p ps ih =>
    intro qs r s hcalls hvalues h
    cases qs with
    | nil => cases hvalues
    | cons q qs =>
      obtain ⟨hvalue, htail⟩ := List.cons.inj hvalues
      have hrest : ∀ c, Param.call c ∈ ps → c.Readable :=
        fun c hc => hcalls c (List.mem_cons_of_mem _ hc)
      cases p with
      | value v =>
        cases q with
        | call d => cases hvalue
        | value w =>
          obtain ⟨hps, hrs⟩ := ih hrest htail h
          exact ⟨by rw [Option.some.inj hvalue, hps], hrs⟩
      | call c =>
        cases q with
        | value w => cases hvalue
        | call d =>
          rw [allShells_call, allShells_call, List.append_assoc, List.append_assoc] at h
          obtain ⟨hcd, hafter⟩ := hcalls c List.mem_cons_self d _ _ h
          obtain ⟨hps, hrs⟩ := ih hrest htail hafter
          exact ⟨by rw [hcd, hps], hrs⟩

theorem Call.readable (c : Call) : c.Readable := by
  induction c using Call.induction with
  | step name params ih =>
    intro d r s h
    obtain ⟨name', params'⟩ := d
    rw [Call.shells, Call.shells, List.cons_append, List.cons_append] at h
    obtain ⟨hshell, hrest⟩ := List.cons.inj h
    obtain ⟨hname, hvalues⟩ := Shell.mk.inj hshell
    obtain ⟨hparams, hrs⟩ := Param.allShells_cancel ih hvalues hrest
    exact ⟨by rw [hname, hparams], hrs⟩

theorem Call.eq_of_shells_eq {c d : Call} (h : c.shells = d.shells) : c = d :=
  (c.readable d [] [] (by rw [h])).1

end FilterExpr
