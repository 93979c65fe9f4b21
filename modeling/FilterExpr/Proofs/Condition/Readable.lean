import FilterExpr.Proofs.Condition.Fragment

/-!
# FilterExpr.Proofs.Condition.Readable

Fragments written for filters. Whatever the text of a filter holds, the fragment for it is derived by
the grammar of `Fragment`: fields, numbers and quoted text keep to their places (`exists_fragment`). The
derivation is the only one, and its tree is the tree of the compiled filter
(`toWhere_uniquely_readable`). So nothing that is quoted changes what a fragment says, and filters
with the same fragment say the same.
-/

namespace FilterExpr

open Text

/-! ## Constants -/

theorem Symbol.exists_quoted (symbol : Symbol) :
    ∃ q : Quoted, q.text = symbol.sql ∧ q.symbol = symbol := by
  cases symbol with
  | wildcard => exact ⟨.bare '%' (by decide), rfl, rfl⟩
  | char c =>
    by_cases h : c = '\\' || c = '"' || c = '\'' || c = '%'
    · refine ⟨.taken c, ?_, rfl⟩
      rw [Symbol.sql, if_pos h]
      rfl
    · have hplain : c ≠ '"' ∧ c ≠ '\\' ∧ c ≠ '%' := by
        refine ⟨?_, ?_, ?_⟩ <;> rintro rfl <;> exact h (by decide)
      refine ⟨.bare c ⟨hplain.1, hplain.2.1⟩, ?_, ?_⟩
      · rw [Symbol.sql, if_neg h]
        rfl
      · rw [Quoted.symbol, if_neg hplain.2.2]

theorem exists_quoted_of_symbols (symbols : List Symbol) :
    ∃ qs : List Quoted,
      qs.flatMap Quoted.text = symbols.flatMap Symbol.sql ∧ qs.map Quoted.symbol = symbols := by
  induction symbols with
  | nil => exact ⟨[], rfl, rfl⟩
  | cons symbol symbols ih =>
    obtain ⟨q, htext, hsymbol⟩ := symbol.exists_quoted
    obtain ⟨qs, htexts, hsymbols⟩ := ih
    refine ⟨q :: qs, ?_, ?_⟩
    · rw [List.flatMap_cons, List.flatMap_cons, htext, htexts]
    · rw [List.map_cons, hsymbol, hsymbols]

theorem Pattern.exists_constant (pattern : Pattern) :
    ∃ k : Constant, k.text = pattern.sql.toList ∧ k.value = .string pattern := by
  obtain ⟨qs, htext, hsymbols⟩ := exists_quoted_of_symbols pattern.symbols
  refine ⟨.quoted qs, ?_, ?_⟩
  · rw [Constant.text, Pattern.sql, String.toList_ofList, htext, List.cons_append]
  · rw [Constant.value, hsymbols]

theorem Literal.exists_constant {value : Literal} (h : value.toValue.lexable = true) :
    ∃ k : Constant, k.text = value.sql.toList ∧ k.value = value.toValue := by
  cases value with
  | string pattern => exact pattern.exists_constant
  | integer digits => exact ⟨.integer digits h, rfl, rfl⟩
  | decimal digits => exact ⟨.decimal digits h, rfl, rfl⟩

/-! ## Conditions -/

theorem FieldMapping.column_identity {field : String} (h : isName field.toList = true) :
    FieldMapping.identity.column field = .ok field := by
  have hne : field.isEmpty = false := by
    cases hempty : field.isEmpty with
    | false => rfl
    | true =>
      rw [String.isEmpty_iff.mp hempty] at h
      cases h
  simp only [FieldMapping.column, FieldMapping.identity, hne]
  rfl

/-- A condition with lexable leaves has a fragment, and a derivation of it that gives its tree. -/
theorem Condition.exists_fragment (d : Condition) : d.toCall.lexable = true →
    ∃ (sql : String) (f : Fragment),
      d.toSql .identity = .ok sql ∧ f.text = sql.toList ∧ f.toCall = d.toCall := by
  induction d with
  | not d ih =>
    intro h
    obtain ⟨inner, f, hsql, htext, hcall⟩ := ih (lexable_toCall_not.mp h)
    refine ⟨"NOT(" ++ inner ++ ")", .not f, ?_, ?_, ?_⟩
    · rw [toSql, hsql]
      rfl
    · simp only [Fragment.text, htext, String.toList_append]
    · rw [Fragment.toCall, toCall, hcall]
  | join j l r ihl ihr =>
    intro h
    rw [lexable_toCall_join] at h
    obtain ⟨left, fl, hsqll, htextl, hcalll⟩ := ihl h.1
    obtain ⟨right, fr, hsqlr, htextr, hcallr⟩ := ihr h.2
    refine ⟨"(" ++ left ++ ") " ++ j.name ++ " (" ++ right ++ ")", .join j fl fr, ?_, ?_, ?_⟩
    · rw [toSql, hsqll, hsqlr]
      rfl
    · simp only [Fragment.text, htextl, htextr, String.toList_append]
    · rw [Fragment.toCall, toCall, hcalll, hcallr]
  | compare op field value =>
    intro h
    rw [lexable_toCall_compare] at h
    obtain ⟨k, htext, hvalue⟩ := Literal.exists_constant h.2
    refine ⟨field ++ " " ++ op.sql ++ " " ++ value.sql,
      .leaf ⟨field, h.1⟩ (.comparison op) k, ?_, ?_, ?_⟩
    · rw [toSql, FieldMapping.column_identity h.1]
      rfl
    · simp only [Fragment.text, Operator.sql, htext, String.toList_append]
    · rw [Fragment.toCall, toCall, hvalue, Operator.name]
  | search op field pattern =>
    intro h
    rw [lexable_toCall_search] at h
    obtain ⟨k, htext, hvalue⟩ := pattern.exists_constant
    refine ⟨field ++ " " ++ op.sql ++ " " ++ pattern.sql,
      .leaf ⟨field, h.1⟩ (.search op) k, ?_, ?_, ?_⟩
    · rw [toSql, FieldMapping.column_identity h.1]
      rfl
    · simp only [Fragment.text, Operator.sql, htext, String.toList_append]
    · rw [Fragment.toCall, toCall, hvalue, Operator.name]

/-! ## Filters -/

theorem toWhere_eq_ok_iff {mapping : FieldMapping} {source sql : String} {limit : Nat} :
    toWhere mapping source limit = .ok sql ↔
      ∃ d, compile source limit = .ok d ∧ d.toSql mapping = .ok sql := by
  simp only [toWhere, bind_eq_ok, mapError_eq_ok]

/-- A tree is the tree of one compiled condition at most. -/
theorem compiled_eq_of_toCall_eq {source source' : String} {limit limit' : Nat} {d d' : Condition}
    (h : compile source limit = .ok d) (h' : compile source' limit' = .ok d')
    (hcall : d.toCall = d'.toCall) : d = d' := by
  obtain ⟨_, _, hchecks⟩ := compile_eq_ok_iff.mp h
  obtain ⟨_, _, hchecks'⟩ := compile_eq_ok_iff.mp h'
  have hcheck : d.toCall.check = .ok d := Call.check_eq_ok_iff.mpr hchecks.toCall
  rw [hcall, Call.check_eq_ok_iff.mpr hchecks'.toCall] at hcheck
  exact (Except.ok.inj hcheck).symm

theorem exists_reading {source sql : String} {limit : Nat}
    (h : toWhere .identity source limit = .ok sql) :
    ∃ d, compile source limit = .ok d ∧ ∃ f : Fragment, f.text = sql.toList ∧ f.toCall = d.toCall := by
  obtain ⟨d, hcompile, hsql⟩ := toWhere_eq_ok_iff.mp h
  obtain ⟨sql', f, hsql', htext, hcall⟩ := d.exists_fragment (lexable_of_compile hcompile)
  rw [hsql] at hsql'
  cases hsql'
  exact ⟨d, hcompile, f, htext, hcall⟩

/-- A filter that compiles has a fragment. A fragment for a filter has one derivation, whose tree is
that of the compiled filter. Two filters with one fragment compile to one condition. -/
theorem toWhere_uniquely_readable :
    (∀ (source : String) (limit : Nat) (d : Condition), compile source limit = .ok d →
      ∃ sql, toWhere .identity source limit = .ok sql) ∧
    (∀ (source sql : String) (limit : Nat), toWhere .identity source limit = .ok sql →
      ∃ (d : Condition) (f : Fragment), compile source limit = .ok d ∧
        f.text = sql.toList ∧ f.toCall = d.toCall ∧
        ∀ g : Fragment, g.text = sql.toList → g = f) ∧
    (∀ (source source' sql : String) (limit limit' : Nat),
      toWhere .identity source limit = .ok sql → toWhere .identity source' limit' = .ok sql →
      ∃ d, compile source limit = .ok d ∧ compile source' limit' = .ok d) := by
  refine ⟨?_, ?_, ?_⟩
  · intro source limit d h
    obtain ⟨sql, _, hsql, _, _⟩ := d.exists_fragment (lexable_of_compile h)
    exact ⟨sql, toWhere_eq_ok_iff.mpr ⟨d, h, hsql⟩⟩
  · intro source sql limit h
    obtain ⟨d, hcompile, f, htext, hcall⟩ := exists_reading h
    refine ⟨d, f, hcompile, htext, hcall, fun g hg => ?_⟩
    exact Fragment.eq_of_text_eq (hg.trans htext.symm)
  · intro source source' sql limit limit' h h'
    obtain ⟨d, hcompile, f, htext, hcall⟩ := exists_reading h
    obtain ⟨d', hcompile', f', htext', hcall'⟩ := exists_reading h'
    have hf : f = f' := Fragment.eq_of_text_eq (htext.trans htext'.symm)
    have hd : d = d' := by
      apply compiled_eq_of_toCall_eq hcompile hcompile'
      rw [← hcall, ← hcall', hf]
    exact ⟨d, hcompile, hd ▸ hcompile'⟩

end FilterExpr
