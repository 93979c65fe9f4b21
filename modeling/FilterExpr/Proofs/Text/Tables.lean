import FilterExpr.Proofs.Basic
import FilterExpr.Text.Basic
import FilterExpr.Text.Case
import FilterExpr.Text.Letter

/-!
# FilterExpr.Proofs.Text.Tables

Laws of the character tables. They are facts about finitely many code points, and they are decided on
the runs of the tables rather than point by point where that is possible.

* `isLetter_eq_false_of_isBlank`: a blank is no letter, so a blank always ends a name.
* `mapCase_of_mem`: if a case map is `Settled`, each character of an image is its own image. Both case
  maps are settled (`lower_of_mem_lower`, `upper_of_mem_upper`).
* `eq_underscore_of_mem_lower`: only the underscore has an underscore in its image.
-/

namespace FilterExpr.Text

/-! ## Runs -/

theorem Run.exists_of_covers {rs : List Run} {n : Nat} (h : Run.covers rs n = true) :
    ∃ r ∈ rs, r.first ≤ n ∧ n ≤ r.last := by
  induction rs with
  | nil => cases h
  | cons r rs ih =>
    rw [Run.covers] at h
    cases hn : n.ble r.last with
    | true =>
      rw [hn] at h
      exact ⟨r, by simp, Nat.le_of_ble_eq_true h, Nat.le_of_ble_eq_true hn⟩
    | false =>
      rw [hn] at h
      obtain ⟨s, hs, hb⟩ := ih h
      exact ⟨s, by simp [hs], hb⟩

/-- No code point in a run of `rs` is covered by `ss`. -/
def Run.apart (rs ss : List Run) : Bool :=
  rs.all fun r => (List.range' r.first (r.last + 1 - r.first)).all fun n => !Run.covers ss n

theorem Run.covers_eq_false_of_apart {rs ss : List Run} (h : Run.apart rs ss = true) {n : Nat}
    (hn : Run.covers rs n = true) : Run.covers ss n = false := by
  obtain ⟨r, hr, hfirst, hlast⟩ := Run.exists_of_covers hn
  have hall := List.all_eq_true.mp (List.all_eq_true.mp h r hr) n
  simpa using hall (by rw [List.mem_range'_1]; omega)

theorem isLetter_eq_false_of_isBlank {c : Char} (h : isBlank c = true) : isLetter c = false :=
  Run.covers_eq_false_of_apart (by decide +kernel : Run.apart blankRuns letterRuns = true) h

/-- The code points of the decimal digits. -/
def digitRuns : List Run := [⟨0x30, 0x39⟩]

theorem covers_digitRuns_of_isDigit {c : Char} (h : c.isDigit = true) :
    Run.covers digitRuns c.toNat = true := by
  simp only [Char.isDigit, Bool.and_eq_true, decide_eq_true_eq] at h
  have hfirst : 0x30 ≤ c.toNat := UInt32.le_iff_toNat_le.mp h.1
  have hlast : c.toNat ≤ 0x39 := UInt32.le_iff_toNat_le.mp h.2
  simp [digitRuns, Run.covers, Nat.ble_eq_true_of_le hfirst, Nat.ble_eq_true_of_le hlast]

theorem isLetter_eq_false_of_isDigit {c : Char} (h : c.isDigit = true) : isLetter c = false :=
  Run.covers_eq_false_of_apart (by decide +kernel) (covers_digitRuns_of_isDigit h)

theorem isBlank_eq_false_of_isDigit {c : Char} (h : c.isDigit = true) : isBlank c = false :=
  Run.covers_eq_false_of_apart (by decide +kernel) (covers_digitRuns_of_isDigit h)

/-! ## Case maps -/

namespace CaseRun

/-- The run maps the code point `n`. -/
def Holds (r : CaseRun) (n : Nat) : Prop :=
  r.first ≤ n ∧ n ≤ r.last ∧ (n - r.first) % r.step = 0

instance (r : CaseRun) (n : Nat) : Decidable (r.Holds n) :=
  inferInstanceAs (Decidable (_ ∧ _ ∧ _))

theorem find?_cons (r : CaseRun) (rs : List CaseRun) (n : Nat) :
    find? (r :: rs) n =
      if n < r.first then none
      else if r.Holds n then some (n - r.first + r.target)
      else find? rs n := by
  rw [find?]
  by_cases hlt : n < r.first
  · rw [if_pos hlt, Nat.blt_eq.mpr hlt, cond_true]
  · have hblt : n.blt r.first = false := by rw [← Bool.not_eq_true, Nat.blt_eq]; exact hlt
    have hholds : (n.ble r.last && (n - r.first) % r.step == 0) = decide (r.Holds n) := by
      rw [Bool.eq_iff_iff, Bool.and_eq_true, Nat.ble_eq, beq_iff_eq, decide_eq_true_iff]
      exact ⟨fun h => ⟨Nat.le_of_not_lt hlt, h⟩, fun h => h.2⟩
    rw [if_neg hlt, hblt, cond_false, hholds]
    by_cases hr : r.Holds n
    · rw [if_pos hr, decide_eq_true hr, cond_true]
    · rw [if_neg hr, decide_eq_false hr, cond_false]

theorem find?_eq_some {rs : List CaseRun} {n m : Nat} (h : find? rs n = some m) :
    ∃ r ∈ rs, r.Holds n ∧ m = n - r.first + r.target := by
  induction rs with
  | nil => cases h
  | cons r rs ih =>
    rw [find?_cons] at h
    split at h
    · cases h
    split at h
    · rename_i hr
      cases h
      exact ⟨r, by simp, hr, rfl⟩
    · obtain ⟨s, hs, hm⟩ := ih h
      exact ⟨s, by simp [hs], hm⟩

/-- The last code point that the run maps to. -/
def imageLast (r : CaseRun) : Nat := r.target + (r.last - r.first)

/-- The image of `r` starts behind `s`, or lies in another residue class than `s`. -/
def avoids (r s : CaseRun) : Bool :=
  s.last.blt r.target ||
    ((r.step % s.step == 0 || r.first == r.last) && r.target % s.step != s.first % s.step)

/-- No code point of the image of `r` is mapped by the runs, which are read in the order in which
`find?` reads them. -/
def avoidsAll (r : CaseRun) : List CaseRun → Bool
  | [] => true
  | s :: ss => r.imageLast.blt s.first || (r.avoids s && avoidsAll r ss)

theorem not_holds_of_avoids {r s : CaseRun} (h : r.avoids s = true) {n : Nat} (hn : r.Holds n) :
    ¬s.Holds (n - r.first + r.target) := by
  rintro ⟨hfirst, hlast, hmod⟩
  obtain ⟨hrf, hrl, hrm⟩ := hn
  simp only [avoids, Bool.or_eq_true, Bool.and_eq_true, Nat.blt_eq, beq_iff_eq, bne_iff_ne,
    ne_eq] at h
  rcases h with h | ⟨hstep, hres⟩
  · omega
  · -- every image is congruent to `r.target` modulo the step of `s`
    have hdvd : s.step ∣ n - r.first := by
      rcases hstep with hstep | hone
      · exact Nat.dvd_trans (Nat.dvd_of_mod_eq_zero hstep) (Nat.dvd_of_mod_eq_zero hrm)
      · exact ⟨0, by omega⟩
    obtain ⟨k, hk⟩ := hdvd
    obtain ⟨l, hl⟩ := Nat.dvd_of_mod_eq_zero hmod
    have himage : s.step * k + r.target = s.step * l + s.first := by omega
    have := congrArg (· % s.step) himage
    simp only [Nat.mul_add_mod] at this
    exact hres this

theorem find?_image {r : CaseRun} {rs : List CaseRun} (h : r.avoidsAll rs = true) {n : Nat}
    (hn : r.Holds n) : find? rs (n - r.first + r.target) = none := by
  induction rs with
  | nil => rfl
  | cons s ss ih =>
    rw [find?_cons]
    simp only [avoidsAll, Bool.or_eq_true, Bool.and_eq_true, Nat.blt_eq, imageLast] at h
    rcases h with h | ⟨hs, hss⟩
    · obtain ⟨hfirst, hlast, _⟩ := hn
      rw [if_pos (by omega)]
    · rw [if_neg (not_holds_of_avoids hs hn), ih hss, ite_self]

end CaseRun

theorem expansion?_eq_some {entries : List (Nat × List Nat)} {n : Nat} {image : List Nat}
    (h : expansion? entries n = some image) : (n, image) ∈ entries := by
  induction entries with
  | nil => cases h
  | cons e rest ih =>
    obtain ⟨m, im⟩ := e
    rw [expansion?] at h
    cases hlt : n.blt m with
    | true => rw [hlt] at h; cases h
    | false =>
      rw [hlt, cond_false] at h
      cases hm : n == m with
      | true =>
        rw [hm] at h
        cases h
        rw [beq_iff_eq.mp hm]
        simp
      | false =>
        rw [hm] at h
        exact List.mem_cons_of_mem _ (ih h)

/-- Where the characters of an image come from: a listed image, a run, or the character itself. -/
theorem mem_mapCase {runs : List CaseRun} {entries : List (Nat × List Nat)} {c d : Char}
    (h : d ∈ mapCase runs entries c) :
    (∃ e ∈ entries, ∃ m ∈ e.2, d = Char.ofNat m) ∨
    (∃ r ∈ runs, r.Holds c.toNat ∧ d = Char.ofNat (c.toNat - r.first + r.target)) ∨
    (d = c ∧ mapCase runs entries c = [c]) := by
  cases he : expansion? entries c.toNat with
  | some image =>
    simp only [mapCase, he, List.mem_map] at h
    obtain ⟨m, hm, rfl⟩ := h
    exact .inl ⟨_, expansion?_eq_some he, m, hm, rfl⟩
  | none =>
    cases hf : CaseRun.find? runs c.toNat with
    | some n =>
      simp only [mapCase, he, hf, List.mem_singleton] at h
      obtain ⟨r, hr, hc, rfl⟩ := CaseRun.find?_eq_some hf
      exact .inr (.inl ⟨r, hr, hc, h⟩)
    | none =>
      have hself : mapCase runs entries c = [c] := by rw [mapCase, he, hf]
      rw [hself, List.mem_singleton] at h
      exact .inr (.inr ⟨h, hself⟩)

/-- The tables of a case map that leaves its own images alone. Images of runs are compared as a whole,
the few listed images one by one. -/
structure Settled (runs : List CaseRun) (entries : List (Nat × List Nat)) : Prop where
  run_valid : ∀ r ∈ runs, r.imageLast < 0xD800 ∨ 0xDFFF < r.target ∧ r.imageLast < 0x110000
  run_runs : (runs.all fun r => r.avoidsAll runs) = true
  run_entries : (runs.all fun r => entries.all fun e => r.imageLast.blt e.1 || e.1.blt r.target) = true
  entry_valid : ∀ e ∈ entries, ∀ m ∈ e.2, m.isValidChar
  entry_runs : ∀ e ∈ entries, ∀ m ∈ e.2, CaseRun.find? runs m = none
  entry_entries : ∀ e ∈ entries, ∀ m ∈ e.2, expansion? entries m = none
  entry_ne_nil : ∀ e ∈ entries, e.2 ≠ []

namespace Settled

variable {runs : List CaseRun} {entries : List (Nat × List Nat)}

theorem toNat_entry (h : Settled runs entries) {e : Nat × List Nat} (he : e ∈ entries) {m : Nat}
    (hm : m ∈ e.2) : (Char.ofNat m).toNat = m :=
  toNat_ofNat (h.entry_valid e he m hm)

theorem toNat_image (h : Settled runs entries) {r : CaseRun} (hr : r ∈ runs) {n : Nat}
    (hn : r.Holds n) :
    (Char.ofNat (n - r.first + r.target)).toNat = n - r.first + r.target := by
  obtain ⟨hfirst, hlast, _⟩ := hn
  have hvalid := h.run_valid r hr
  rw [CaseRun.imageLast] at hvalid
  have hchar : (n - r.first + r.target).isValidChar := by
    rcases hvalid with hv | ⟨hv, hv'⟩
    · exact .inl (by omega)
    · exact .inr ⟨by omega, by omega⟩
  exact toNat_ofNat hchar

theorem expansion?_image (h : Settled runs entries) {r : CaseRun} (hr : r ∈ runs) {n : Nat}
    (hn : r.Holds n) : expansion? entries (n - r.first + r.target) = none := by
  cases he : expansion? entries (n - r.first + r.target) with
  | none => rfl
  | some image =>
    have hkey := List.all_eq_true.mp (List.all_eq_true.mp h.run_entries r hr) _
      (expansion?_eq_some he)
    simp only [Bool.or_eq_true, Nat.blt_eq, CaseRun.imageLast] at hkey
    obtain ⟨hfirst, hlast, _⟩ := hn
    omega

/-- Each character of an image is its own image. -/
theorem mapCase_of_mem (h : Settled runs entries) {c d : Char} (hd : d ∈ mapCase runs entries c) :
    mapCase runs entries d = [d] := by
  rcases mem_mapCase hd with ⟨e, he, m, hm, rfl⟩ | ⟨r, hr, hc, rfl⟩ | ⟨rfl, hself⟩
  · rw [mapCase, h.toNat_entry he hm, h.entry_entries e he m hm, h.entry_runs e he m hm]
  · have havoids := List.all_eq_true.mp h.run_runs r hr
    rw [mapCase, h.toNat_image hr hc, h.expansion?_image hr hc, CaseRun.find?_image havoids hc]
  · exact hself

theorem mapCase_ne_nil (h : Settled runs entries) (c : Char) : mapCase runs entries c ≠ [] := by
  cases he : expansion? entries c.toNat with
  | some image => simpa [mapCase, he] using h.entry_ne_nil _ (expansion?_eq_some he)
  | none => cases hf : CaseRun.find? runs c.toNat <;> simp [mapCase, he, hf]

/-- A character that is in no listed image and in the image of no run comes from itself only. -/
theorem eq_of_mem_mapCase (h : Settled runs entries) {c d : Char}
    (hentries : ∀ e ∈ entries, d.toNat ∉ e.2)
    (hruns : ∀ r ∈ runs, d.toNat < r.target ∨ r.imageLast < d.toNat)
    (hd : d ∈ mapCase runs entries c) : d = c := by
  rcases mem_mapCase hd with ⟨e, he, m, hm, rfl⟩ | ⟨r, hr, hc, rfl⟩ | ⟨rfl, _⟩
  · have hnot := hentries e he
    rw [h.toNat_entry he hm] at hnot
    exact absurd hm hnot
  · have hout := hruns r hr
    rw [h.toNat_image hr hc, CaseRun.imageLast] at hout
    obtain ⟨hfirst, hlast, _⟩ := hc
    omega
  · rfl

end Settled

instance (runs : List CaseRun) (entries : List (Nat × List Nat)) : Decidable (Settled runs entries) :=
  decidable_of_iff (_ ∧ _ ∧ _ ∧ _ ∧ _ ∧ _ ∧ _)
    ⟨fun ⟨h₁, h₂, h₃, h₄, h₅, h₆, h₇⟩ => ⟨h₁, h₂, h₃, h₄, h₅, h₆, h₇⟩,
      fun ⟨h₁, h₂, h₃, h₄, h₅, h₆, h₇⟩ => ⟨h₁, h₂, h₃, h₄, h₅, h₆, h₇⟩⟩

theorem settled_lower : Settled lowerRuns lowerExpansions := by decide +kernel

theorem settled_upper : Settled upperRuns upperExpansions := by decide +kernel

theorem lower_of_mem_lower {c d : Char} (h : d ∈ lower c) : lower d = [d] :=
  settled_lower.mapCase_of_mem h

theorem upper_of_mem_upper {c d : Char} (h : d ∈ upper c) : upper d = [d] :=
  settled_upper.mapCase_of_mem h

theorem lower_ne_nil (c : Char) : lower c ≠ [] := settled_lower.mapCase_ne_nil c

theorem eq_underscore_of_mem_lower {c : Char} (h : '_' ∈ lower c) : c = '_' :=
  (settled_lower.eq_of_mem_mapCase (by decide) (by decide +kernel) h).symm

end FilterExpr.Text
