import FilterExpr.CommandLine
import FilterExpr.Proofs.Condition.Checks
import FilterExpr.Proofs.Json.Text

/-!
# FilterExpr.Proofs.Call.Json

The JSON form of a tree tells the tree. Parameters stand there without a tag, but a call shows its name
first and a value its kind, and a stretch of text is an object where a wildcard is a string. So trees with
the same JSON are equal, whatever texts they hold (`Call.toJson_injective`), and since a JSON text denotes
one value only, a tree can be told from either of its texts.
-/

namespace FilterExpr

/-! ## From the JSON form back to the tree -/

theorem Pattern.Part.toJson_injective : Function.Injective Pattern.Part.toJson := by
  intro p q h
  cases p with
  | text chars =>
    cases q with
    | text chars' => simpa [Part.toJson] using h
    | wildcard => simp [Part.toJson] at h
  | wildcard =>
    cases q with
    | text chars => simp [Part.toJson] at h
    | wildcard => rfl

theorem Pattern.toJson_injective : Function.Injective Pattern.toJson := by
  intro p q h
  have hparts : p.parts = q.parts :=
    (List.map_inj_right fun _ _ hpart => Pattern.Part.toJson_injective hpart).mp (Json.array.inj h)
  rw [← p.ofParts_parts, hparts, q.ofParts_parts]

theorem Value.Kind.tag_injective : Function.Injective Value.Kind.tag := by
  intro k l h
  cases k <;> cases l <;> simp_all [Value.Kind.tag]

/-- The tag tells the kind, and the kind what the content is. -/
theorem Value.toJson_injective : Function.Injective Value.toJson := by
  intro v w h
  simp only [Value.toJson, Json.object.injEq, List.cons.injEq, Prod.mk.injEq, Json.string.injEq,
    true_and, and_true] at h
  obtain ⟨htag, hcontent⟩ := h
  have hkind := Value.Kind.tag_injective htag
  cases v with
  | identifier name =>
    cases w with
    | identifier name' => rw [Json.string.inj hcontent]
    | _ => cases hkind
  | string pattern =>
    cases w with
    | string pattern' => rw [Pattern.toJson_injective hcontent]
    | _ => cases hkind
  | integer digits =>
    cases w with
    | integer digits' => rw [Json.string.inj hcontent]
    | _ => cases hkind
  | decimal digits =>
    cases w with
    | decimal digits' => rw [Json.string.inj hcontent]
    | _ => cases hkind

theorem Param.toJson_value_ne_call (v : Value) (c : Call) :
    (Param.value v).toJson ≠ (Param.call c).toJson := by
  obtain ⟨name, params⟩ := c
  simp [Param.toJson, Value.toJson, Call.rootJson]

/-- The JSON form of `c` is that of no other call. -/
def Call.Told (c : Call) : Prop := ∀ d : Call, c.rootJson = d.rootJson → c = d

theorem Param.listJson_cancel {ps : List Param} :
    ∀ {qs : List Param}, (∀ c, .call c ∈ ps → c.Told) → Param.listJson ps = Param.listJson qs →
      ps = qs := by
  induction ps with
  | nil =>
    intro qs _ h
    cases qs with
    | nil => rfl
    | cons q qs => cases h
  | cons p ps ih =>
    intro qs hcalls h
    cases qs with
    | nil => cases h
    | cons q qs =>
      obtain ⟨hpq, hrest⟩ := List.cons.inj h
      rw [ih (fun c hc => hcalls c (List.mem_cons_of_mem _ hc)) hrest]
      cases p with
      | value v =>
        cases q with
        | value w => rw [Value.toJson_injective hpq]
        | call d => exact absurd hpq (Param.toJson_value_ne_call v d)
      | call c =>
        cases q with
        | value w => exact absurd hpq.symm (Param.toJson_value_ne_call w c)
        | call d => rw [hcalls c List.mem_cons_self d hpq]

theorem Call.told (c : Call) : c.Told := by
  induction c using Call.induction with
  | step name params ih =>
    intro d h
    obtain ⟨name', params'⟩ := d
    simp only [Call.rootJson, Json.object.injEq, List.cons.injEq, Prod.mk.injEq, Json.string.injEq,
      Json.array.injEq, true_and, and_true] at h
    rw [h.1, Param.listJson_cancel ih h.2]

theorem Call.toJson_injective : Function.Injective Call.toJson := by
  intro c d h
  simp only [Call.toJson, Json.object.injEq, List.cons.injEq, Prod.mk.injEq, true_and, and_true] at h
  exact c.told d h

/-! ## Texts of a tree -/

/-- Two values with the same text without blanks are equal. -/
theorem Json.compact_injective : Function.Injective Json.compact := by
  intro j k h
  have hk := k.spells_compact
  rw [← h] at hk
  exact hk.denotes_iff.mp (j.spells_compact.denotes_iff.mpr rfl)

/-- The line break at the end of the output is a blank. -/
theorem Json.spells_terminated {text : String} {ts : List Json.Token}
    (h : Json.Spells text.toList ts) :
    Json.Spells (CommandLine.terminated text).toList ts := by
  rw [CommandLine.terminated]
  split
  · exact h
  · have hbreak : Json.Spells ['\n'] [] := Json.spells_blanks (by simp)
    have hall := h.append hbreak
    rw [List.append_nil] at hall
    rw [String.toList_append]
    exact hall

/-- The log aside, the tree is shown if the text compiles. -/
theorem Command.perform_ast (limit : Nat) (mapping : FieldMapping) (filter : String) (json : Bool) :
    (perform limit mapping (.ast filter json)).2 =
      (compile filter limit).map fun condition => astOutput condition json := by
  simp only [perform, compiling, compile, bind, Except.bind]
  cases parse filter limit with
  | error e => rfl
  | ok call =>
    have hok : (Except.ok call).mapError FilterError.parse = .ok call := rfl
    simp only [hok]
    cases call.check <;> rfl

/-- Trees that are written as the same text without blanks are equal. The text that is shown for a filter, with
the line break that ends it or without, denotes the JSON form of the checked tree and no other value, as
does the text without blanks. -/
theorem toJson_unambiguous :
    (∀ f g : Call, f.toJson.compact = g.toJson.compact → f = g) ∧
    (∀ limit mapping source text, (Command.perform limit mapping (.ast source true)).2 = .ok text →
      ∃ d, compile source limit = .ok d ∧
        (∀ j, Json.Denotes text j ↔ j = d.toCall.toJson) ∧
        (∀ j, Json.Denotes (CommandLine.terminated text) j ↔ j = d.toCall.toJson) ∧
        (∀ j, Json.Denotes d.toCall.toJson.compact j ↔ j = d.toCall.toJson) ∧
        ∀ c : Call, Json.Denotes text c.toJson ↔ c = d.toCall) ∧
    ∀ limit mapping source d, compile source limit = .ok d →
      ∃ text, (Command.perform limit mapping (.ast source true)).2 = .ok text := by
  refine ⟨fun f g h => ?_, fun limit mapping source text h => ?_, fun limit mapping source d h => ?_⟩
  · exact Call.toJson_injective (Json.compact_injective h)
  · rw [Command.perform_ast] at h
    obtain ⟨d, hcompile, rfl⟩ := map_eq_ok.mp h
    have hpretty := d.toCall.toJson.spells_prettyAt 0
    refine ⟨d, hcompile, fun j => hpretty.denotes_iff,
      fun j => (Json.spells_terminated hpretty).denotes_iff,
      fun j => d.toCall.toJson.spells_compact.denotes_iff, fun c => ?_⟩
    exact hpretty.denotes_iff.trans Call.toJson_injective.eq_iff
  · rw [Command.perform_ast, h]
    exact ⟨_, rfl⟩

end FilterExpr
