import FilterExpr.Proofs.Parser.Language
import FilterExpr.Proofs.Token.Written

/-!
# FilterExpr.Proofs.RoundTrip

Writing a tree and reading it back. `Call.lexable` describes the trees that come back: all names, fields and
values have contents that tokens can have, and every call has parameters, the first of which starts
with a name. The scanner finds in the canonical text of such a tree the tokens of the tree
(`kindsOf_render`), and the parser makes the tree from them.

`parse_render_iff_lexable`: reading is the inverse of writing on the lexable trees and on no other
tree, and the lexable trees are those that are ever read.
-/

namespace FilterExpr

open Text Token

/-! ## Trees that can be read -/

/-- Every name, field and value of the tree can be written as a token, and every call has parameters,
the first of which is a call or a name. -/
def Call.lexable (c : Call) : Bool :=
  c.every (fun c => isName c.name.toList && Param.nameFirst c.params) Value.lexable

def Param.lexable (p : Param) : Bool :=
  p.every (fun c => isName c.name.toList && Param.nameFirst c.params) Value.lexable

theorem Call.lexable_node_iff {name : String} {params : List Param} :
    Call.lexable ⟨name, params⟩ = true ↔
      (isName name.toList = true ∧ Param.nameFirst params = true) ∧
        ∀ p ∈ params, p.lexable = true := by
  rw [Call.lexable, Call.every_iff, Bool.and_eq_true]
  rfl

theorem Call.every_and (f f' : Call → Bool) (g g' : Value → Bool) (c : Call) :
    c.every (fun c => f c && f' c) (fun v => g v && g' v) = true ↔
      c.every f g = true ∧ c.every f' g' = true := by
  induction c using Call.induction with
  | step name params ih =>
    have hparams : ∀ p ∈ params, p.every (fun c => f c && f' c) (fun v => g v && g' v) = true ↔
        p.every f g = true ∧ p.every f' g' = true := by
      intro p hp
      cases p with
      | value v => simp [Param.every]
      | call c => exact ih c hp
    rw [Call.every_iff, Call.every_iff, Call.every_iff, Bool.and_eq_true]
    constructor
    · rintro ⟨⟨hf, hf'⟩, hall⟩
      exact ⟨⟨hf, fun p hp => ((hparams p hp).mp (hall p hp)).1⟩,
        hf', fun p hp => ((hparams p hp).mp (hall p hp)).2⟩
    · rintro ⟨⟨hf, hall⟩, hf', hall'⟩
      exact ⟨⟨hf, hf'⟩, fun p hp => (hparams p hp).mpr ⟨hall p hp, hall' p hp⟩⟩

/-- A tree is lexable if the grammar derives it and all its tokens are lexable. -/
theorem Call.lexable_iff {c : Call} :
    c.lexable = true ↔ (∀ k ∈ c.kinds, k.lexable = true) ∧ c.headed = true := by
  rw [← List.all_eq_true, Call.all_kinds rfl rfl rfl, Call.headed, ← Call.every_and, Call.lexable]
  simp only [Value.lexable_token, Bool.and_true]
  rfl

/-! ## The tokens of canonical text -/

theorem Call.toList_render (name : String) (params : List Param) :
    (Call.render ⟨name, params⟩).toList =
      name.toList ++ ' ' :: '(' :: ' ' :: ((Param.renderAll params).toList ++ [' ', ')']) := by
  simp [Call.render]

theorem Param.toList_renderAll (p q : Param) (ps : List Param) :
    (Param.renderAll (p :: q :: ps)).toList =
      p.render.toList ++ ',' :: ' ' :: (Param.renderAll (q :: ps)).toList := by
  simp [Param.renderAll]

/-- The text of a parameter is scanned as the tokens of the parameter. -/
def Param.Rescans (p : Param) : Prop :=
  ∀ rest, Ends rest → kindsOf (p.render.toList ++ rest) = p.kinds ++ kindsOf rest

theorem kindsOf_renderAll {ps : List Param} (h : ∀ p ∈ ps, p.Rescans) {rest : List Char}
    (hrest : Ends rest) :
    kindsOf ((Param.renderAll ps).toList ++ rest) = Param.allKinds ps ++ kindsOf rest := by
  induction ps with
  | nil => rfl
  | cons p ps ih =>
    rw [List.forall_mem_cons] at h
    cases ps with
    | nil => exact h.1 rest hrest
    | cons q ps =>
      rw [Param.toList_renderAll, List.append_assoc, List.cons_append, List.cons_append,
        h.1 _ (ends_cons (by decide) _), kindsOf_comma, kindsOf_space, ih h.2, Param.allKinds,
        List.append_assoc, List.cons_append]

/-- By induction on the tree: blanks, parentheses and commas set the tokens of the parameters off. -/
theorem kindsOf_render (c : Call) : c.lexable = true → ∀ rest,
    kindsOf (c.render.toList ++ rest) = c.kinds ++ kindsOf rest := by
  induction c using Call.induction with
  | step name params ih =>
    intro h rest
    obtain ⟨hcall, hparams⟩ := Call.lexable_node_iff.mp h
    have hrescans : ∀ p ∈ params, p.Rescans := by
      intro p hp rest hrest
      cases p with
      | value v => exact kindsOf_value (hparams _ hp) hrest
      | call c => exact ih c hp (hparams _ hp) rest
    have hname := kindsOf_name hcall.1 (ends_cons (c := ' ') (by decide)
      ('(' :: ' ' :: ((Param.renderAll params).toList ++ ' ' :: ')' :: rest)))
    rw [Call.toList_render, Call.kinds]
    simp only [List.append_assoc, List.cons_append, List.nil_append]
    rw [hname, String.ofList_toList, kindsOf_space, kindsOf_leftParen, kindsOf_space,
      kindsOf_renderAll hrescans (ends_cons (by decide) _), kindsOf_space, kindsOf_rightParen]

/-! ## Reading what was written -/

theorem parse_render {f : Call} (h : f.lexable = true) {limit : Nat} (hlimit : f.depth ≤ limit) :
    parse f.render limit = .ok f := by
  have hkinds := kindsOf_render f h []
  rw [List.append_nil, kindsOf_nil, List.append_nil] at hkinds
  exact parse_eq_ok_iff.mpr ⟨hkinds, (Call.lexable_iff.mp h).2, hlimit⟩

theorem lexable_of_parse {source : String} {limit : Nat} {f : Call}
    (h : parse source limit = .ok f) : f.lexable = true := by
  obtain ⟨hkinds, hheaded, _⟩ := parse_eq_ok_iff.mp h
  refine Call.lexable_iff.mpr ⟨fun k hk => ?_, hheaded⟩
  rw [← hkinds] at hk
  obtain ⟨t, ht, rfl⟩ := List.mem_map.mp hk
  exact lexable_of_mem_scanAll ht

/-- Canonical text is read as the tree it was written from exactly if the tree is lexable, provided the
limit allows its depth; and no other tree is ever read from any text. -/
theorem parse_render_iff_lexable :
    (∀ (f : Call) (limit : Nat), f.depth ≤ limit →
      (parse f.render limit = .ok f ↔ f.lexable = true)) ∧
    (∀ (source : String) (limit : Nat) (f : Call),
      parse source limit = .ok f → f.lexable = true) := by
  refine ⟨fun f limit hlimit => ⟨fun h => ?_, fun h => ?_⟩, fun source limit f h => ?_⟩
  · exact lexable_of_parse h
  · exact parse_render h hlimit
  · exact lexable_of_parse h

end FilterExpr
