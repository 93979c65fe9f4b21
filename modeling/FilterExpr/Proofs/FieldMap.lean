import FilterExpr.FieldMap
import FilterExpr.Proofs.Basic
import FilterExpr.Proofs.Json.Strings
import FilterExpr.Proofs.Text.Utf8
import Mathlib.Data.List.Induction
import Mathlib.Data.List.Nodup

/-!
# FilterExpr.Proofs.FieldMap

What a field map holds does not depend on how it was filled. A map is told by what is found in it
(`eq_of_get?_eq`), since its entries are sorted. Single insertions leave the last column given for a field
(`get?_insertAll`), and so does a list that is sorted first: sorting keeps the order of the pairs with one
field (`filter_mergeSort`), and of these the last one stays (`find?_keepLast`). A map comes back from its own
text, whose members are its entries (`ofList_entries`).
-/

namespace FilterExpr

namespace FieldMap

open Text (utf8 utf8_lt_of_lt)

/-! ## What is found in a map tells the map -/

/-- The fields stand in the order of their bytes, and none of them twice. -/
def Increasing (m : FieldMap) : Prop := m.fields.Pairwise fun a b => utf8 a < utf8 b

theorem increasing (m : FieldMap) : m.Increasing := by
  rw [Increasing, fields, List.pairwise_map]
  exact m.sorted.imp utf8_lt_of_lt

theorem nodup_fields (m : FieldMap) : m.fields.Nodup := by
  rw [List.Nodup, fields, List.pairwise_map]
  exact m.sorted.imp String.ne_of_lt

theorem find?_of_mem {entries : List (String × String)} (h : (entries.map Prod.fst).Nodup)
    {e : String × String} (he : e ∈ entries) : entries.find? (·.1 = e.1) = some e := by
  induction entries with
  | nil => cases he
  | cons first rest ih =>
    rw [List.map_cons, List.nodup_cons] at h
    rcases List.mem_cons.mp he with rfl | hrest
    · exact List.find?_cons_of_pos (decide_eq_true rfl)
    · have hne : first.1 ≠ e.1 := fun heq => h.1 (heq ▸ List.mem_map_of_mem hrest)
      rw [List.find?_cons_of_neg (by simpa using hne)]
      exact ih h.2 hrest

theorem get?_eq_some_iff {m : FieldMap} {field column : String} :
    m.get? field = some column ↔ (field, column) ∈ m.entries := by
  rw [get?, Option.map_eq_some_iff]
  constructor
  · rintro ⟨⟨f, c⟩, hfind, rfl⟩
    have hf : f = field := by simpa using List.find?_some hfind
    exact hf ▸ List.mem_of_find?_eq_some hfind
  · intro hmem
    exact ⟨(field, column), find?_of_mem m.nodup_fields hmem, rfl⟩

theorem eq_of_get?_eq {m n : FieldMap} (h : ∀ field, m.get? field = n.get? field) : m = n := by
  have hperm : m.entries.Perm n.entries := by
    apply (List.perm_ext_iff_of_nodup (.of_map _ m.nodup_fields) (.of_map _ n.nodup_fields)).mpr
    rintro ⟨field, column⟩
    rw [← get?_eq_some_iff, ← get?_eq_some_iff, h]
  refine FieldMap.ext (hperm.eq_of_pairwise ?_ m.sorted n.sorted)
  intro e f _ _ hlt hgt
  exact absurd hgt (String.lt_asymm hlt)

/-! ## Single insertions -/

theorem insertAll_concat (m : FieldMap) (pairs : List (String × String)) (field column : String) :
    m.insertAll (pairs ++ [(field, column)]) = (m.insertAll pairs).insert field column := by
  rw [insertAll, List.foldl_append]
  rfl

theorem get?_insertAll (pairs : List (String × String)) (field : String) :
    (empty.insertAll pairs).get? field = pairs.reverse.lookup field := by
  induction pairs using List.reverseRecOn with
  | nil => rfl
  | append_singleton pairs pair ih =>
    obtain ⟨f, c⟩ := pair
    rw [insertAll_concat, List.reverse_concat, List.lookup_cons]
    by_cases heq : field = f
    · subst heq
      rw [get?_insert_self, beq_self_eq_true]
    · rw [get?_insert_of_ne _ heq, ih, beq_false_of_ne heq]

/-! ## Whole lists -/

/-- Sorting is stable: the pairs with one field stay in the order they had. -/
theorem filter_mergeSort (pairs : List (String × String)) (field : String) :
    (pairs.mergeSort fieldLe).filter (·.1 = field) = pairs.filter (·.1 = field) := by
  have hsame : (pairs.filter (·.1 = field)).Pairwise fun a b => fieldLe a b = true := by
    rw [List.pairwise_filter]
    refine List.pairwise_of_forall fun a b ha hb => ?_
    have hab : a.1 = b.1 := (of_decide_eq_true ha).trans (of_decide_eq_true hb).symm
    exact fieldLe_iff.mpr (Std.le_of_eq hab)
  have hsub : (pairs.filter (·.1 = field)).Sublist (pairs.mergeSort fieldLe) :=
    List.sublist_mergeSort fieldLe_trans fieldLe_total hsame List.filter_sublist
  have hsub := hsub.filter (·.1 = field)
  rw [List.filter_filter] at hsub
  simp only [Bool.and_self] at hsub
  exact (hsub.eq_of_length ((List.mergeSort_perm pairs fieldLe).filter _).length_eq.symm).symm

/-- Among sorted pairs, those with one field are neighbours, and the last of them stays. -/
theorem find?_keepLast {entries : List (String × String)}
    (h : entries.Pairwise fun a b => a.1 ≤ b.1) (field : String) :
    (keepLast entries).find? (·.1 = field) = (entries.filter (·.1 = field)).getLast? := by
  fun_induction keepLast entries with
  | case1 => rfl
  | case2 e =>
    by_cases he : e.1 = field <;> simp [he]
  | case3 e next rest heq ih =>
    rw [ih (List.pairwise_cons.mp h).2, List.filter_cons, List.filter_cons]
    by_cases hnext : next.1 = field
    · simp [heq, hnext]
    · simp [heq, hnext]
  | case4 e next rest hne ih =>
    by_cases he : e.1 = field
    · have hnone : (next :: rest).filter (·.1 = field) = [] := by
        rw [List.filter_eq_nil_iff]
        intro d hd
        simpa [← he] using (String.ne_of_lt (lt_of_ne_next h hne hd)).symm
      rw [List.filter_cons_of_pos (by simpa using he), hnone,
        List.find?_cons_of_pos (by simpa using he)]
      rfl
    · rw [List.find?_cons_of_neg (by simpa using he), List.filter_cons_of_neg (by simpa using he),
        ih (List.pairwise_cons.mp h).2]

theorem lookup_eq_map_find? (pairs : List (String × String)) (field : String) :
    pairs.lookup field = (pairs.find? (·.1 = field)).map (·.2) := by
  induction pairs with
  | nil => rfl
  | cons pair pairs ih =>
    obtain ⟨f, c⟩ := pair
    by_cases heq : field = f
    · subst heq
      simp
    · have hne : ¬f = field := fun h => heq h.symm
      simp [List.lookup_cons, beq_false_of_ne heq, hne, ih]

theorem get?_ofList (pairs : List (String × String)) (field : String) :
    (ofList pairs).get? field = pairs.reverse.lookup field := by
  have hfind : (keepLast (pairs.mergeSort fieldLe)).find? (·.1 = field) =
      pairs.reverse.find? (·.1 = field) := by
    rw [find?_keepLast (pairwise_mergeSort pairs), filter_mergeSort, List.getLast?_filter]
  rw [get?, ofList, hfind, lookup_eq_map_find?]

theorem mem_fields_keepLast {entries : List (String × String)} {field : String} :
    field ∈ (keepLast entries).map Prod.fst ↔ field ∈ entries.map Prod.fst := by
  fun_induction keepLast entries with
  | case1 => rfl
  | case2 e => rfl
  | case3 e next rest heq ih => rw [ih, List.map_cons, List.map_cons, heq]; simp
  | case4 e next rest _ ih =>
    rw [List.map_cons, List.mem_cons, ih]
    exact List.mem_cons.symm

theorem mem_fields_ofList {field : String} (pairs : List (String × String)) :
    field ∈ (ofList pairs).fields ↔ field ∈ pairs.map Prod.fst :=
  mem_fields_keepLast.trans ((List.mergeSort_perm pairs fieldLe).map Prod.fst).mem_iff

theorem keepLast_of_sorted {entries : List (String × String)} (h : Sorted entries) :
    keepLast entries = entries := by
  fun_induction keepLast entries with
  | case1 => rfl
  | case2 e => rfl
  | case3 e next rest heq _ =>
    have hlt := (List.pairwise_cons.mp h).1 next List.mem_cons_self
    exact absurd heq (String.ne_of_lt hlt)
  | case4 e next rest _ ih => rw [ih (List.pairwise_cons.mp h).2]

theorem ofList_entries (m : FieldMap) : ofList m.entries = m := by
  have hsorted : m.entries.Pairwise fun a b => fieldLe a b = true :=
    m.sorted.imp fun hlt => fieldLe_iff.mpr (Std.le_of_lt hlt)
  apply FieldMap.ext
  calc keepLast (m.entries.mergeSort fieldLe)
      = keepLast m.entries := by rw [List.mergeSort_of_pairwise hsorted]
    _ = m.entries := keepLast_of_sorted m.sorted

/-! ## All ways agree -/

theorem insertAll_eq_ofList (pairs : List (String × String)) :
    empty.insertAll pairs = ofList pairs := by
  apply eq_of_get?_eq
  intro field
  rw [get?_insertAll, get?_ofList]

theorem eq_ofList_iff {m : FieldMap} {pairs : List (String × String)} :
    m = ofList pairs ↔ ∀ field, m.get? field = pairs.reverse.lookup field := by
  constructor
  · rintro rfl
    exact get?_ofList pairs
  · intro h
    apply eq_of_get?_eq
    intro field
    rw [h, get?_ofList]

theorem ofJson_eq_ok_iff {text : String} {m : FieldMap} :
    ofJson text = .ok m ↔ ∃ pairs, Json.Denotes text (Json.listing pairs) ∧ ofList pairs = m := by
  simp only [ofJson, map_eq_ok, Json.readStrings_eq_ok_iff, insertAll_eq_ofList]

theorem ofJson_of_denotes {text : String} {pairs : List (String × String)}
    (h : Json.Denotes text (Json.listing pairs)) : ofJson text = .ok (ofList pairs) :=
  ofJson_eq_ok_iff.mpr ⟨pairs, h, rfl⟩

/-- A map comes back from its text. -/
theorem ofJson_compact (m : FieldMap) : ofJson m.toJson.compact = .ok m := by
  have hread := ofJson_of_denotes (Json.listing m.entries).denotes_compact
  rw [ofList_entries] at hread
  exact hread

end FieldMap

/-- Whether pairs are entered one by one, sorted as a list, or read from a text that lists them, the map is
the same: the one in which the last column given for a field is found. Its fields are those given, in the
order of their bytes. It comes back from its own text, and no other maps are read from texts. -/
theorem fieldMap_same_however_filled :
    (∀ pairs : List (String × String),
      pairs.foldl (fun m pair => m.insert pair.1 pair.2) FieldMap.empty = FieldMap.ofList pairs ∧
      (∀ text, Json.Denotes text (Json.listing pairs) →
        FieldMap.ofJson text = .ok (FieldMap.ofList pairs)) ∧
      Json.Denotes (Json.listing pairs).compact (Json.listing pairs) ∧
      (∀ m : FieldMap, m = FieldMap.ofList pairs ↔
        ∀ field, m.get? field = pairs.reverse.lookup field) ∧
      (FieldMap.ofList pairs).Increasing ∧
      (∀ field, field ∈ (FieldMap.ofList pairs).fields ↔ field ∈ pairs.map Prod.fst) ∧
      FieldMap.ofJson (FieldMap.ofList pairs).toJson.compact = .ok (FieldMap.ofList pairs)) ∧
    ∀ text m, FieldMap.ofJson text = .ok m →
      ∃ pairs, Json.Denotes text (Json.listing pairs) ∧ FieldMap.ofList pairs = m := by
  refine ⟨fun pairs => ⟨FieldMap.insertAll_eq_ofList pairs, fun text => FieldMap.ofJson_of_denotes,
    (Json.listing pairs).denotes_compact, fun m => FieldMap.eq_ofList_iff,
    (FieldMap.ofList pairs).increasing, fun field => FieldMap.mem_fields_ofList pairs,
    FieldMap.ofJson_compact _⟩, fun text m h => ?_⟩
  exact FieldMap.ofJson_eq_ok_iff.mp h

end FilterExpr
