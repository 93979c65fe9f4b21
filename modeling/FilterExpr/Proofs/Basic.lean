import Mathlib.Data.List.Basic

/-!
# FilterExpr.Proofs.Basic

General facts about results, characters and lists that several theories use: when a chain of results
succeeds, where a row of items of a class stops, and what is first or at a place in a list with one more
item behind it.
-/

namespace FilterExpr

/-! ## Results -/

section Results

variable {ε ε' α β : Type}

theorem bind_eq_ok {x : Except ε α} {f : α → Except ε β} {b : β} :
    (x >>= f) = .ok b ↔ ∃ a, x = .ok a ∧ f a = .ok b := by
  cases x <;> simp [bind, Except.bind]

theorem map_eq_ok {x : Except ε α} {f : α → β} {b : β} :
    x.map f = .ok b ↔ ∃ a, x = .ok a ∧ f a = b := by
  cases x <;> simp [Except.map]

theorem mapError_eq_ok {x : Except ε α} {f : ε → ε'} {a : α} :
    x.mapError f = .ok a ↔ x = .ok a := by
  cases x with
  | error e =>
    constructor
    · intro h; cases h
    · intro h; cases h
  | ok b =>
    constructor
    · intro h; cases h; rfl
    · intro h; cases h; rfl

end Results

theorem toNat_ofNat {n : Nat} (h : n.isValidChar) : (Char.ofNat n).toNat = n := by
  rw [Char.ofNat, dif_pos h]
  rfl

section Lists

variable {α : Type}

/-! ## Rows of a class -/

/-- A row of items of a class stops where the next item is of another one. -/
theorem takeWhile_of_stop {p : α → Bool} {rest : List α} (h : ∀ a ∈ rest.head?, p a = false) :
    rest.takeWhile p = [] ∧ rest.dropWhile p = rest := by
  cases rest with
  | nil => exact ⟨rfl, rfl⟩
  | cons a rest => simp [h a rfl]

theorem takeWhile_append_stop {p : α → Bool} {row rest : List α} (hrow : ∀ a ∈ row, p a = true)
    (hrest : ∀ a ∈ rest.head?, p a = false) :
    (row ++ rest).takeWhile p = row ∧ (row ++ rest).dropWhile p = rest := by
  obtain ⟨htake, hdrop⟩ := takeWhile_of_stop hrest
  rw [List.takeWhile_append_of_pos hrow, List.dropWhile_append_of_pos hrow, htake, hdrop,
    List.append_nil]
  exact ⟨rfl, rfl⟩

theorem stop_dropWhile {p : α → Bool} (xs : List α) : ∀ a ∈ (xs.dropWhile p).head?, p a = false := by
  intro a ha
  have hnot := List.head?_dropWhile_not p xs
  rw [Option.mem_def.mp ha] at hnot
  exact hnot

/-- A map whose images are made of items that it keeps does nothing the second time. -/
theorem flatMap_flatMap_of_kept {f : α → List α} (h : ∀ a, ∀ b ∈ f a, f b = [b]) (xs : List α) :
    (xs.flatMap f).flatMap f = xs.flatMap f := by
  have hkept : ∀ b ∈ xs.flatMap f, f b = [b] := by
    intro b hb
    obtain ⟨a, _, ha⟩ := List.mem_flatMap.mp hb
    exact h a b ha
  rw [List.flatMap_congr hkept, List.flatMap_singleton']

/-! ## One more item behind a list -/

theorem headD_append (xs ys : List α) (a : α) : (xs ++ ys).headD a = xs.headD (ys.headD a) := by
  cases xs <;> rfl

theorem concat_eq_headD_cons (xs : List α) (a : α) :
    xs ++ [a] = xs.headD a :: (xs ++ [a]).tail := by
  cases xs <;> rfl

theorem getD_concat (xs : List α) (last : α) (n : Nat) :
    (xs ++ [last]).getD n last = xs.getD n last := by
  induction xs generalizing n with
  | nil => cases n <;> rfl
  | cons x xs ih =>
    cases n with
    | zero => rfl
    | succ n => exact ih n

end Lists

end FilterExpr
