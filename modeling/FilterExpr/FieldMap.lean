import FilterExpr.Condition.Where
import FilterExpr.Json
import FilterExpr.Json.Reader

/-!
# FilterExpr.FieldMap

Field maps: the fields that a filter may use, each with its column. The entries are kept in the order
of their fields by code point, with one entry for a field; the last column given for it counts. A map
is filled by single insertions, or from a list that is sorted first.
-/

namespace FilterExpr

/-- The fields stand in their order, and none of them twice. -/
def FieldMap.Sorted (entries : List (String × String)) : Prop := entries.Pairwise fun a b => a.1 < b.1

@[ext] structure FieldMap where
  entries : List (String × String)
  sorted : FieldMap.Sorted entries
  deriving DecidableEq, Repr

namespace FieldMap

def empty : FieldMap := ⟨[], .nil⟩

/-! ## Single insertions -/

def insertEntry (field column : String) : List (String × String) → List (String × String)
  | [] => [(field, column)]
  | (f, c) :: rest =>
    if field < f then (field, column) :: (f, c) :: rest
    else if field = f then (field, column) :: rest
    else (f, c) :: insertEntry field column rest

theorem mem_insertEntry {field column : String} {entries : List (String × String)}
    {e : String × String} (h : e ∈ insertEntry field column entries) :
    e = (field, column) ∨ e ∈ entries := by
  induction entries with
  | nil => exact .inl (List.mem_singleton.mp h)
  | cons first rest ih =>
    rw [insertEntry] at h
    split at h
    · exact List.mem_cons.mp h
    split at h
    · exact (List.mem_cons.mp h).imp_right (List.mem_cons_of_mem first)
    · rcases List.mem_cons.mp h with rfl | hrest
      · exact .inr List.mem_cons_self
      · exact (ih hrest).imp_right (List.mem_cons_of_mem first)

theorem sorted_insertEntry {entries : List (String × String)} (h : Sorted entries)
    (field column : String) : Sorted (insertEntry field column entries) := by
  induction entries with
  | nil => exact List.pairwise_singleton _ _
  | cons first rest ih =>
    obtain ⟨f, c⟩ := first
    have hfirst := List.pairwise_cons.mp h
    rw [insertEntry]
    split
    · rename_i hlt
      refine List.pairwise_cons.mpr ⟨fun e he => ?_, h⟩
      rcases List.mem_cons.mp he with rfl | hrest
      · exact hlt
      · exact String.lt_trans hlt (hfirst.1 e hrest)
    split
    · rename_i heq
      exact List.pairwise_cons.mpr ⟨fun e he => heq ▸ hfirst.1 e he, hfirst.2⟩
    · rename_i hlt hne
      refine List.pairwise_cons.mpr ⟨fun e he => ?_, ih hfirst.2⟩
      rcases mem_insertEntry he with rfl | hrest
      · exact Std.lt_of_le_of_ne (String.not_lt.mp hlt) (Ne.symm hne)
      · exact hfirst.1 e hrest

/-- Allows a field, in place of an earlier entry for it. -/
def insert (m : FieldMap) (field column : String) : FieldMap :=
  ⟨insertEntry field column m.entries, sorted_insertEntry m.sorted field column⟩

/-- Allows the fields of a list one after the other. -/
def insertAll (m : FieldMap) (pairs : List (String × String)) : FieldMap :=
  pairs.foldl (fun m (field, column) => m.insert field column) m

/-! ## Whole lists -/

/-- Of neighbours with the same field, the last one stays. -/
def keepLast : List (String × String) → List (String × String)
  | [] => []
  | [e] => [e]
  | e :: next :: rest =>
    if e.1 = next.1 then keepLast (next :: rest) else e :: keepLast (next :: rest)

theorem keepLast_sublist (entries : List (String × String)) :
    (keepLast entries).Sublist entries := by
  fun_induction keepLast entries with
  | case1 => exact .slnil
  | case2 e => exact .refl _
  | case3 e next rest _ ih => exact ih.cons e
  | case4 e next rest _ ih => exact ih.cons_cons e

/-- Among sorted pairs, a field that differs from the next one comes before all others. -/
theorem lt_of_ne_next {e next d : String × String} {rest : List (String × String)}
    (h : (e :: next :: rest).Pairwise fun a b => a.1 ≤ b.1) (hne : e.1 ≠ next.1)
    (hd : d ∈ next :: rest) : e.1 < d.1 := by
  obtain ⟨hfirst, hrest⟩ := List.pairwise_cons.mp h
  have hnext : e.1 < next.1 := Std.lt_of_le_of_ne (hfirst next List.mem_cons_self) hne
  rcases List.mem_cons.mp hd with rfl | hmem
  · exact hnext
  · exact Std.lt_of_lt_of_le hnext ((List.pairwise_cons.mp hrest).1 d hmem)

theorem sorted_keepLast {entries : List (String × String)}
    (h : entries.Pairwise fun a b => a.1 ≤ b.1) : Sorted (keepLast entries) := by
  fun_induction keepLast entries with
  | case1 => exact .nil
  | case2 e => exact List.pairwise_singleton _ _
  | case3 e next rest _ ih => exact ih (List.pairwise_cons.mp h).2
  | case4 e next rest hne ih =>
    refine List.pairwise_cons.mpr ⟨fun d hd => ?_, ih (List.pairwise_cons.mp h).2⟩
    exact lt_of_ne_next h hne ((keepLast_sublist _).mem hd)

/-- The order in which pairs are sorted. -/
def fieldLe (a b : String × String) : Bool := a.1 ≤ b.1

theorem fieldLe_iff {a b : String × String} : fieldLe a b = true ↔ a.1 ≤ b.1 := decide_eq_true_iff

theorem fieldLe_trans (a b c : String × String) (hab : fieldLe a b = true) (hbc : fieldLe b c = true) :
    fieldLe a c = true := by
  rw [fieldLe_iff] at hab hbc ⊢
  exact String.le_trans hab hbc

theorem fieldLe_total (a b : String × String) : (fieldLe a b || fieldLe b a) = true := by
  rw [Bool.or_eq_true, fieldLe_iff, fieldLe_iff]
  exact String.le_total a.1 b.1

theorem pairwise_mergeSort (pairs : List (String × String)) :
    (pairs.mergeSort fieldLe).Pairwise fun a b => a.1 ≤ b.1 :=
  (List.pairwise_mergeSort fieldLe_trans fieldLe_total pairs).imp fieldLe_iff.mp

/-- Allows the fields of a list. The list is sorted, with pairs of one field in the order they had, and the
last of these stays. -/
def ofList (pairs : List (String × String)) : FieldMap :=
  ⟨keepLast (pairs.mergeSort fieldLe), sorted_keepLast (pairwise_mergeSort pairs)⟩

/-! ## Looking up -/

/-- The column for a field, if it is allowed. -/
def get? (m : FieldMap) (field : String) : Option String :=
  (m.entries.find? (·.1 = field)).map (·.2)

theorem find?_insertEntry_self (field column : String) (entries : List (String × String)) :
    (insertEntry field column entries).find? (·.1 = field) = some (field, column) := by
  induction entries with
  | nil => simp [insertEntry]
  | cons e rest ih =>
    obtain ⟨f, c⟩ := e
    rw [insertEntry]
    split
    · simp
    split
    · simp
    · rename_i hne
      have hf : ¬f = field := fun h => hne h.symm
      simpa [List.find?_cons, hf] using ih

theorem find?_insertEntry_of_ne {field other : String} (h : other ≠ field) (column : String)
    (entries : List (String × String)) :
    (insertEntry field column entries).find? (·.1 = other) = entries.find? (·.1 = other) := by
  have hf : ¬field = other := fun e => h e.symm
  induction entries with
  | nil => simp [insertEntry, hf]
  | cons e rest ih =>
    obtain ⟨f, c⟩ := e
    rw [insertEntry]
    split
    · simp [hf]
    split
    · rename_i heq
      subst heq
      simp [hf]
    · simp only [List.find?_cons, ih]

@[simp] theorem get?_insert_self (m : FieldMap) (field column : String) :
    (m.insert field column).get? field = some column := by
  simp only [get?, insert, find?_insertEntry_self, Option.map_some]

theorem get?_insert_of_ne (m : FieldMap) {field other : String} (h : other ≠ field)
    (column : String) : (m.insert field column).get? other = m.get? other := by
  simp only [get?, insert, find?_insertEntry_of_ne h]

def size (m : FieldMap) : Nat := m.entries.length

def isEmpty (m : FieldMap) : Bool := m.entries.isEmpty

/-- The allowed fields in order. -/
def fields (m : FieldMap) : List String := m.entries.map (·.1)

/-- The mapping that allows the fields of the map only. -/
def toMapping (m : FieldMap) : FieldMapping := m.get?

/-- Reads a map from the JSON text of an object of strings, whose members are entered as they come. -/
def ofJson (text : String) : Except Json.Fault FieldMap :=
  (Json.readStrings text).map empty.insertAll

def toJson (m : FieldMap) : Json := .object (m.entries.map fun (f, c) => (f, .string c))

end FieldMap

end FilterExpr
