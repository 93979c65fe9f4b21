import FilterExpr.Compile
import FilterExpr.Proofs.Condition.Sweep
import FilterExpr.Proofs.Token.Recase

/-!
# FilterExpr.Proofs.Condition.Recase

The case of letters in names does not matter. The check looks at the normal forms of names only
(`check_rename`), and the parser does not look at names at all, so texts that differ in the case of
letters inside names compile alike: to the same condition, or to the same error at the same place
(`compile_recased`).
-/

namespace FilterExpr

open Text

/-! ## Faults do not depend on the spelling of names -/

/-- A change of names that keeps the normal forms of functions and of fields. -/
structure KeepsNormalForms (g : String → String) : Prop where
  upperName_eq : ∀ name, upperName (g name) = upperName name
  lowerField_eq : ∀ field, lowerField (g field) = lowerField field

theorem keepsNormalForms_toLower : KeepsNormalForms String.toLower :=
  ⟨upperName_toLower, lowerField_toLower⟩

def Shell.rename (g : String → String) (s : Shell) : Shell :=
  ⟨g s.name, s.params.map (Option.map (Value.rename g))⟩

theorem Param.value?_rename (g : String → String) (p : Param) :
    (p.rename g).value? = p.value?.map (Value.rename g) := by
  cases p <;> rfl

theorem Param.allShells_rename {g : String → String} {ps : List Param}
    (h : ∀ c, .call c ∈ ps → (c.rename g).shells = c.shells.map (Shell.rename g)) :
    Param.allShells (ps.map (Param.rename g)) = (Param.allShells ps).map (Shell.rename g) := by
  induction ps with
  | nil => rfl
  | cons p ps ih =>
    have hps := ih fun c hc => h c (List.mem_cons_of_mem _ hc)
    cases p with
    | value v => exact hps
    | call c =>
      rw [List.map_cons, Param.rename, allShells_call, allShells_call, List.map_append, hps,
        h c List.mem_cons_self]

theorem Call.shells_rename (g : String → String) (c : Call) :
    (c.rename g).shells = c.shells.map (Shell.rename g) := by
  induction c using Call.induction with
  | step name params ih =>
    rw [Call.rename, Param.renameAll_eq_map, Call.shells, Call.shells, List.map_cons,
      Param.allShells_rename ih]
    simp only [Shell.rename, List.map_map]
    congr 2
    exact List.map_congr_left fun p _ => p.value?_rename g

theorem Value.kind_rename (g : String → String) (v : Value) : (v.rename g).kind = v.kind := by
  cases v <;> rfl

theorem Shell.fault?_rename {g : String → String} (hg : KeepsNormalForms g) (s : Shell) :
    (s.rename g).fault? = s.fault? := by
  refine Shell.fault?_congr (hg.upperName_eq s.name) ?_
  rw [Shell.rename, List.map_map]
  refine List.map_congr_left fun p _ => ?_
  cases p with
  | none => rfl
  | some v => exact congrArg some (v.kind_rename g)

theorem Checks.rename {g : String → String} (hg : KeepsNormalForms g) {c : Call} {d : Condition}
    (h : Checks c d) : Checks (c.rename g) d := by
  induction h with
  | not hname _ ih => exact .not ((hg.upperName_eq _).trans hname) ih
  | join hname _ _ ihl ihr => exact .join ((hg.upperName_eq _).trans hname) ihl ihr
  | @compare given field op value hname =>
    have hrenamed := @Checks.compare (g given) (g field) op value ((hg.upperName_eq _).trans hname)
    rw [hg.lowerField_eq] at hrenamed
    cases value <;> exact hrenamed
  | @search given field op pattern hname =>
    have hrenamed := @Checks.search (g given) (g field) op pattern ((hg.upperName_eq _).trans hname)
    rw [hg.lowerField_eq] at hrenamed
    exact hrenamed

theorem Call.check_rename {g : String → String} (hg : KeepsNormalForms g) (c : Call) :
    (c.rename g).check = c.check := by
  cases h : c.check with
  | ok d => exact check_eq_ok_iff.mpr ((check_eq_ok_iff.mp h).rename hg)
  | error e =>
    rw [check_eq_error_iff, verify_snd] at h ⊢
    rw [shells_rename, sweep_snd_map (Shell.fault?_rename hg), h]

/-! ## Texts -/

theorem Recased.scanAll {source other : String} (h : Recased source other) :
    RecasedFrom (Token.scanAll 0 source.toList) 0 source.toList other.toList := by
  refine RecasedFrom.weaken h ?_
  rintro n _ ⟨t, ht, hclass, hspan⟩
  rw [tokenize, List.mem_append, List.mem_singleton] at ht
  rcases ht with ht | rfl
  · exact ⟨t, ht, hclass, hspan⟩
  · cases hclass

theorem utf8ByteSize_recased {source other : String} (h : Recased source other) :
    other.utf8ByteSize = source.utf8ByteSize := by
  rw [← byteLength_toList, ← byteLength_toList, ← Token.byteLength_map_toLower,
    RecasedFrom.map_toLower h, Token.byteLength_map_toLower]

theorem parse_recased {source other : String} (h : Recased source other) (limit : Nat) :
    (parse other limit).map (Call.rename String.toLower) =
      (parse source limit).map (Call.rename String.toLower) := by
  have hreader : ((Parser.ofSource other).withLimit limit).rename String.toLower =
      ((Parser.ofSource source).withLimit limit).rename String.toLower := by
    simp only [Parser.ofSource, Parser.ofCursor, Parser.withLimit, Parser.rename, Cursor.start,
      Cursor.pending, Cursor.eof, Token.scanAll_recased h.scanAll, utf8ByteSize_recased h]
  rw [parse, parse, ← Parser.read_rename, ← Parser.read_rename, hreader]

/-- A tree may be renamed between parsing and checking. -/
theorem compile_eq_rename {g : String → String} (hg : KeepsNormalForms g) (source : String)
    (limit : Nat) :
    compile source limit = (do
      let call ← ((parse source limit).map (Call.rename g)).mapError .parse
      call.check.mapError .check) := by
  rw [compile]
  cases parse source limit with
  | error e => rfl
  | ok c => exact congrArg (Except.mapError FilterError.check) (Call.check_rename hg c).symm

/-- Changing the case of letters inside names changes nothing: the texts compile to the same condition or
fail with the same error, stage and place included, and they have the same fragment under every mapping
of fields. -/
theorem compile_recased {source other : String} (h : Recased source other) (limit : Nat) :
    compile other limit = compile source limit ∧
      ∀ mapping, toWhere mapping other limit = toWhere mapping source limit := by
  have hcompile : compile other limit = compile source limit := by
    rw [compile_eq_rename keepsNormalForms_toLower, parse_recased h,
      ← compile_eq_rename keepsNormalForms_toLower]
  refine ⟨hcompile, fun mapping => ?_⟩
  rw [toWhere, toWhere, hcompile]

/-- The names of functions, of a field and of a misplaced name are respelled; the pattern is not. -/
theorem compile_recased_respelled :
    Recased "and(eQ(naMe, \"Ab*\"), gt(Größe, lImit))" "AND(Eq(NAMe, \"Ab*\"), Gt(größe, LIMIT))" ∧
    compile "AND(Eq(NAMe, \"Ab*\"), Gt(größe, LIMIT))" = .error (.check (.unexpectedIdentifier "GT")) ∧
    compile "AND(Eq(NAMe, \"Ab*\"), Gt(größe, LIMIT))" =
      compile "and(eQ(naMe, \"Ab*\"), gt(Größe, lImit))" ∧
    ∀ mapping, toWhere mapping "AND(Eq(NAMe, \"Ab*\"), Gt(größe, LIMIT))" =
      toWhere mapping "and(eQ(naMe, \"Ab*\"), gt(Größe, lImit))" := by
  have h : Recased "and(eQ(naMe, \"Ab*\"), gt(Größe, lImit))"
      "AND(Eq(NAMe, \"Ab*\"), Gt(größe, LIMIT))" := by decide +kernel
  exact ⟨h, by decide +kernel, compile_recased h _⟩

end FilterExpr
