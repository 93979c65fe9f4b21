import FilterExpr.Proofs.Token.Lexable
import Mathlib.Data.List.TakeWhile

/-!
# FilterExpr.Proofs.Token.Extent

How far a token extends. The text of a token does not depend on all that stands behind it: if what stands
there is replaced by something that does not prolong the token, the same token is read
(`scan_replace_rest`). Each scanner has its own condition:

* a name goes on up to a character that cannot stand in a name;
* a number is told by its digits and points (`NumberScan`), and only a number without a second point can
  be prolonged;
* a quoted pattern ends by itself, unless it runs to the end of the text (`Body.RanOut`).
-/

namespace FilterExpr.Token

open Text

/-! ## What ends a name or a number -/

/-- No number goes on into the text. -/
def EndsNumber (rest : List Char) : Prop := ∀ c ∈ rest.head?, c.isDigit = false ∧ c ≠ '.'

/-- No name and no number goes on into the text. -/
def Ends (rest : List Char) : Prop :=
  ∀ c ∈ rest.head?, isNameChar c = false ∧ c.isDigit = false ∧ c ≠ '.'

theorem ends_cons {c : Char} (h : isNameChar c = false ∧ c.isDigit = false ∧ c ≠ '.')
    (cs : List Char) : Ends (c :: cs) := by
  intro d hd
  cases hd
  exact h

theorem Ends.endsNumber {rest : List Char} (h : Ends rest) : EndsNumber rest := fun c hc => (h c hc).2

theorem EndsNumber.ne_point {rest : List Char} (h : EndsNumber rest) (cs : List Char) :
    rest ≠ '.' :: cs := by
  rintro rfl
  exact (h '.' rfl).2 rfl

theorem endsNumber_dropWhile {cs : List Char} (h : ∀ after, cs.dropWhile Char.isDigit ≠ '.' :: after) :
    EndsNumber (cs.dropWhile Char.isDigit) := by
  intro c hc
  refine ⟨stop_dropWhile cs c hc, ?_⟩
  rintro rfl
  obtain ⟨after, hafter⟩ := List.head?_eq_some_iff.mp hc
  exact h after hafter

/-! ## Numbers -/

theorem scanNumber_no_point {cs : List Char} (h : ∀ after, cs.dropWhile Char.isDigit ≠ '.' :: after) :
    scanNumber cs = ⟨.integer (String.ofList (cs.takeWhile Char.isDigit)),
      cs.takeWhile Char.isDigit, cs.dropWhile Char.isDigit⟩ := by
  simp only [scanNumber]

theorem scanNumber_one_point {cs after : List Char} (hpoint : cs.dropWhile Char.isDigit = '.' :: after)
    (h : ∀ rest, after.dropWhile Char.isDigit ≠ '.' :: rest) :
    scanNumber cs =
      let text := cs.takeWhile Char.isDigit ++ '.' :: after.takeWhile Char.isDigit
      ⟨if (after.takeWhile Char.isDigit).isEmpty then .illegal (String.ofList text)
        else .decimal (String.ofList text), text, after.dropWhile Char.isDigit⟩ := by
  simp only [scanNumber, hpoint]
  split <;> rfl

theorem scanNumber_two_points {cs after rest : List Char}
    (hpoint : cs.dropWhile Char.isDigit = '.' :: after)
    (hpoint' : after.dropWhile Char.isDigit = '.' :: rest) :
    scanNumber cs =
      let text := cs.takeWhile Char.isDigit ++ '.' :: after.takeWhile Char.isDigit ++ ['.']
      ⟨.illegal (String.ofList text), text, rest⟩ := by
  simp only [scanNumber, hpoint, hpoint']

/-- The forms of a number: digits, digits with a point among or behind them, and digits with a point up to
a second point. -/
inductive NumberScan (cs : List Char) : Scan → Prop where
  | integer {whole rest : List Char} : cs = whole ++ rest → (∀ c ∈ whole, c.isDigit = true) →
      EndsNumber rest → NumberScan cs ⟨.integer (String.ofList whole), whole, rest⟩
  | point {whole fraction rest : List Char} : cs = whole ++ '.' :: fraction ++ rest →
      (∀ c ∈ whole, c.isDigit = true) → (∀ c ∈ fraction, c.isDigit = true) → EndsNumber rest →
      NumberScan cs ⟨if fraction.isEmpty then .illegal (String.ofList (whole ++ '.' :: fraction))
        else .decimal (String.ofList (whole ++ '.' :: fraction)), whole ++ '.' :: fraction, rest⟩
  | points {whole fraction rest : List Char} : cs = whole ++ '.' :: fraction ++ ['.'] ++ rest →
      (∀ c ∈ whole, c.isDigit = true) → (∀ c ∈ fraction, c.isDigit = true) →
      NumberScan cs ⟨.illegal (String.ofList (whole ++ '.' :: fraction ++ ['.'])),
        whole ++ '.' :: fraction ++ ['.'], rest⟩

theorem numberScan_scanNumber (cs : List Char) : NumberScan cs (scanNumber cs) := by
  have hcs := (List.takeWhile_append_dropWhile (p := Char.isDigit) (l := cs)).symm
  by_cases hpoint : ∃ after, cs.dropWhile Char.isDigit = '.' :: after
  · obtain ⟨after, hpoint⟩ := hpoint
    have hafter := (List.takeWhile_append_dropWhile (p := Char.isDigit) (l := after)).symm
    rw [hpoint] at hcs
    by_cases hpoint' : ∃ rest, after.dropWhile Char.isDigit = '.' :: rest
    · obtain ⟨rest, hpoint'⟩ := hpoint'
      rw [hpoint'] at hafter
      rw [scanNumber_two_points hpoint hpoint']
      refine .points ?_ (fun _ => List.mem_takeWhile_imp) (fun _ => List.mem_takeWhile_imp)
      simpa [← hafter] using hcs
    · have hnone := not_exists.mp hpoint'
      rw [scanNumber_one_point hpoint hnone]
      refine .point ?_ (fun _ => List.mem_takeWhile_imp) (fun _ => List.mem_takeWhile_imp)
        (endsNumber_dropWhile hnone)
      simpa using hcs
  · have hnone := not_exists.mp hpoint
    rw [scanNumber_no_point hnone]
    exact .integer hcs (fun _ => List.mem_takeWhile_imp) (endsNumber_dropWhile hnone)

theorem NumberScan.eq {cs : List Char} {s : Scan} (h : NumberScan cs s) : scanNumber cs = s := by
  have hpoint (cs : List Char) : ∀ c ∈ ('.' :: cs).head?, c.isDigit = false := by
    rintro c ⟨⟩
    decide
  cases h with
  | @integer whole rest hcs hwhole hrest =>
    obtain ⟨htake, hdrop⟩ := takeWhile_append_stop hwhole fun c hc => (hrest c hc).1
    subst hcs
    rw [scanNumber_no_point (by rw [hdrop]; exact hrest.ne_point), htake, hdrop]
  | @point whole fraction rest hcs hwhole hfraction hrest =>
    obtain ⟨htake, hdrop⟩ := takeWhile_append_stop hwhole (hpoint (fraction ++ rest))
    obtain ⟨htake', hdrop'⟩ := takeWhile_append_stop hfraction fun c hc => (hrest c hc).1
    rw [List.append_assoc, List.cons_append] at hcs
    subst hcs
    rw [scanNumber_one_point hdrop (by rw [hdrop']; exact hrest.ne_point), htake, htake', hdrop']
  | @points whole fraction rest hcs hwhole hfraction =>
    obtain ⟨htake, hdrop⟩ := takeWhile_append_stop hwhole (hpoint (fraction ++ '.' :: rest))
    obtain ⟨htake', hdrop'⟩ := takeWhile_append_stop hfraction (hpoint rest)
    rw [List.append_assoc, List.append_assoc, List.cons_append, List.singleton_append] at hcs
    subst hcs
    rw [scanNumber_two_points hdrop hdrop', htake, htake']

theorem NumberScan.replace_rest {cs rest : List Char} {s : Scan} (h : NumberScan cs s)
    (hrest : EndsNumber s.rest → EndsNumber rest) :
    NumberScan (s.text ++ rest) { s with rest := rest } := by
  cases h with
  | integer _ hwhole hends => exact .integer rfl hwhole (hrest hends)
  | point _ hwhole hfraction hends => exact .point rfl hwhole hfraction (hrest hends)
  | points _ hwhole hfraction => exact .points rfl hwhole hfraction

/-! ## Quoted patterns -/

theorem scanBody_quote (cs : List Char) : scanBody ('"' :: cs) = ⟨[], true, ['"'], cs⟩ := by
  rw [scanBody.eq_def]
  exact if_pos rfl

theorem scanBody_wildcard (cs : List Char) :
    scanBody ('*' :: cs) = (scanBody cs).cons ['*'] .wildcard := by
  rw [scanBody.eq_def]
  exact (if_neg (by decide)).trans (if_pos rfl)

theorem scanBody_escape {c : Char} (h : isEscapable c = true) (cs : List Char) :
    scanBody ('\\' :: c :: cs) = (scanBody cs).cons ['\\', c] (.char c) := by
  rw [scanBody.eq_def]
  refine (if_neg (by decide)).trans ((if_neg (by decide)).trans ((if_pos rfl).trans ?_))
  exact if_pos h

theorem scanBody_plain {c : Char} (hescape : isEscapable c = false) (h : isPrintable c = true)
    (cs : List Char) : scanBody (c :: cs) = (scanBody cs).cons [c] (.char c) := by
  simp only [isEscapable, Bool.or_eq_false_iff, beq_eq_false_iff_ne] at hescape
  obtain ⟨⟨hbackslash, hquote⟩, hstar⟩ := hescape
  rw [scanBody.eq_def]
  exact (if_neg hquote).trans ((if_neg hstar).trans ((if_neg hbackslash).trans (if_pos h)))

theorem exists_text_scanBody (c : Char) (cs : List Char) :
    ∃ text, (scanBody (c :: cs)).text = c :: text := by
  rw [scanBody.eq_def]
  simp only
  split
  · exact ⟨_, rfl⟩
  split
  · exact ⟨_, rfl⟩
  split
  · split
    · exact ⟨_, rfl⟩
    · split
      · exact ⟨_, rfl⟩
      · exact ⟨_, rfl⟩
  split
  · exact ⟨_, rfl⟩
  · exact ⟨_, rfl⟩

/-- Neither a quote nor a character that is not printable ended the body. -/
structure Body.RanOut (b : Body) : Prop where
  open_eq : b.closed = false
  printable : ∀ c ∈ b.text, isPrintable c = true

theorem Body.RanOut.cons {b : Body} (h : b.RanOut) {taken : List Char}
    (htaken : ∀ c ∈ taken, isPrintable c = true) (s : Symbol) : (b.cons taken s).RanOut := by
  refine ⟨h.open_eq, fun c hc => ?_⟩
  rcases List.mem_append.mp hc with hc | hc
  · exact htaken c hc
  · exact h.printable c hc

theorem Body.RanOut.of_cons {b : Body} {taken : List Char} {s : Symbol} (h : (b.cons taken s).RanOut) :
    b.RanOut :=
  ⟨h.open_eq, fun c hc => h.printable c (List.mem_append_right taken hc)⟩

theorem rest_of_ranOut (cs : List Char) (h : (scanBody cs).RanOut) : (scanBody cs).rest = [] := by
  fun_induction scanBody cs with
  | case1 => rfl
  | case2 => cases h.open_eq
  | case3 _ _ ih => exact ih h.of_cons
  | case4 => rfl
  | case5 _ _ _ _ _ ih => exact ih h.of_cons
  | case6 _ _ _ _ _ ih => exact ih h.of_cons
  | case7 _ _ _ _ _ _ ih => exact ih h.of_cons
  | case8 c _ _ _ _ hc => exact absurd (h.printable c List.mem_cons_self) hc

/-- What stands behind a quoted pattern does not matter, unless it ran to the end of the text. -/
theorem scanBody_replace_rest (cs : List Char) {rest : List Char}
    (h : (scanBody cs).RanOut → rest = []) :
    scanBody ((scanBody cs).text ++ rest) = { scanBody cs with rest := rest } := by
  have hprintable {c : Char} (hc : isEscapable c = true) : ∀ d ∈ [c], isPrintable d = true := by
    simpa using printable_of_isEscapable hc
  fun_induction scanBody cs with
  | case1 =>
    rw [h ⟨rfl, by simp⟩]
    rfl
  | case2 cs => exact scanBody_quote rest
  | case3 cs _ ih =>
    have hih := ih fun hr => h (hr.cons (hprintable (by decide)) _)
    simp only [Body.cons, List.cons_append, List.nil_append, scanBody_wildcard, hih]
  | case4 =>
    rw [h ⟨rfl, hprintable (by decide)⟩]
    rfl
  | case5 d ds hd _ _ ih =>
    have htaken : ∀ c ∈ ['\\', d], isPrintable c = true :=
      List.forall_mem_cons.mpr ⟨printable_of_isEscapable (by decide), hprintable hd⟩
    have hih := ih fun hr => h (hr.cons htaken _)
    simp only [Body.cons, List.cons_append, List.nil_append, scanBody_escape hd, hih]
  | case6 d ds hd _ _ ih =>
    -- the backslash is followed by the same character as before
    obtain ⟨text, htext⟩ := exists_text_scanBody d ds
    have hih := ih fun hr => h (hr.cons (hprintable (by decide)) _)
    rw [htext, List.cons_append] at hih
    simp only [Body.cons, htext, List.cons_append, List.nil_append]
    rw [scanBody, if_neg (by decide), if_neg (by decide), if_pos rfl]
    simp [hd, hih, Body.cons, htext]
  | case7 c cs hquote hstar hbackslash hc ih =>
    have hplain : isEscapable c = false := by simp [isEscapable, hquote, hstar, hbackslash]
    have hih := ih fun hr => h (hr.cons (by simpa using hc) _)
    simp only [Body.cons, List.cons_append, List.nil_append, scanBody_plain hplain hc, hih]
  | case8 c cs hquote hstar hbackslash hc =>
    rw [List.singleton_append, scanBody.eq_def]
    simp [hquote, hstar, hbackslash, hc]

/-! ## One token -/

theorem scan_name_replace_rest {c : Char} (hc : isLetter c = true) {cs rest : List Char}
    (hrest : ∀ d ∈ rest.head?, isNameChar d = false) :
    scan c (cs.takeWhile isNameChar ++ rest) = { scan c cs with rest := rest } := by
  obtain ⟨htake, hdrop⟩ := takeWhile_append_stop (fun _ => List.mem_takeWhile_imp) hrest
  rw [scan_name hc, scan_name hc, htake, hdrop]

/-- All other tokens are single characters. -/
theorem exists_scan_single {c : Char} (hnumber : ¬(c.isDigit = true ∨ c = '.'))
    (hletter : ¬isLetter c = true) (hquote : c ≠ '"') :
    ∃ kind, ∀ cs, scan c cs = ⟨kind, [c], cs⟩ := by
  by_cases hleft : c = '('
  · exact ⟨.leftParen, fun cs => by rw [scan, if_pos hleft]⟩
  by_cases hright : c = ')'
  · exact ⟨.rightParen, fun cs => by rw [scan, if_neg hleft, if_pos hright]⟩
  by_cases hcomma : c = ','
  · exact ⟨.comma, fun cs => by rw [scan, if_neg hleft, if_neg hright, if_pos hcomma]⟩
  · refine ⟨.illegal (String.singleton c), fun cs => ?_⟩
    rw [scan, if_neg hleft, if_neg hright, if_neg hcomma, if_neg hquote, if_neg hnumber,
      if_neg hletter]

/-- The same token is read if what stands behind it starts with the same character as before, or with one
that ends names and numbers. Behind a quoted pattern that ran to the end of the text nothing may
stand. -/
theorem scan_replace_rest {c : Char} {cs ds rest : List Char}
    (htext : c :: ds = (scan c cs).text ++ rest)
    (hhead : rest.head? = (scan c cs).rest.head? ∨ Ends rest)
    (hopen : c = '"' → (scanBody cs).RanOut → rest = []) :
    scan c ds = { scan c cs with rest := rest } := by
  by_cases hnumber : c.isDigit = true ∨ c = '.'
  · have hends : EndsNumber (scan c cs).rest → EndsNumber rest := by
      intro h
      rcases hhead with hhead | hhead
      · rwa [EndsNumber, hhead]
      · exact hhead.endsNumber
    rw [scan_number hnumber] at htext hends
    rw [scan_number hnumber, scan_number hnumber, htext]
    exact ((numberScan_scanNumber (c :: cs)).replace_rest hends).eq
  by_cases hletter : isLetter c = true
  · have hstop : ∀ d ∈ rest.head?, isNameChar d = false := by
      rcases hhead with hhead | hhead
      · rw [hhead, scan_name hletter]
        exact stop_dropWhile cs
      · exact fun d hd => (hhead d hd).1
    have hds : ds = cs.takeWhile isNameChar ++ rest := by
      rw [scan_name hletter, List.cons_append] at htext
      exact (List.cons.inj htext).2
    rw [hds, scan_name_replace_rest hletter hstop]
  by_cases hquote : c = '"'
  · subst hquote
    rw [scan_string, scanString, List.cons_append] at htext
    rw [scan_string, scan_string, (List.cons.inj htext).2]
    simp only [scanString, scanBody_replace_rest cs (hopen rfl)]
  · obtain ⟨kind, hscan⟩ := exists_scan_single hnumber hletter hquote
    rw [hscan cs, List.singleton_append] at htext
    rw [hscan cs, hscan ds, (List.cons.inj htext).2]

end FilterExpr.Token
