import FilterExpr.Proofs.Parser.Rename
import FilterExpr.Proofs.Text.Capitals
import FilterExpr.Proofs.Token.Extent
import FilterExpr.Proofs.Token.Layout

/-!
# FilterExpr.Proofs.Token.Recase

Texts that differ in the case of letters inside names only. `Recased source other` says that `other` is
`source` with some letters from `A` to `Z`, or from `a` to `z`, changed to the other case, all of them inside
the spans of names. Such texts have the same tokens at the same places, up to the spelling of names
(`scanAll_recased`).

Outside quotes the scanner does not tell capitals from small letters: scanning the text in small letters
gives the scan in small letters (`scan_toLower`). A quoted pattern is not touched by the change, and
what follows it has no influence on it (`scanBody_replace_rest`).
-/

namespace FilterExpr

open Text

/-! ## Changing the case of names -/

/-- The byte at `offset` lies inside a name. -/
def InName (ts : List Token) (offset : Nat) : Prop :=
  ∃ t ∈ ts, t.toClass = .identifier ∧ t.span.start ≤ offset ∧ offset < t.span.stop

instance (ts : List Token) (offset : Nat) : Decidable (InName ts offset) :=
  inferInstanceAs (Decidable (∃ t ∈ ts, _ ∧ _ ∧ _))

/-- The characters agree one by one, those inside the names of `ts` up to the case of ASCII letters, which is
all that `Char.toLower` removes. The first characters stand at byte `offset`. -/
def RecasedFrom (ts : List Token) : Nat → List Char → List Char → Prop
  | _, [], [] => True
  | offset, c :: cs, d :: ds =>
    (d = c ∨ InName ts offset ∧ d.toLower = c.toLower) ∧
      RecasedFrom ts (offset + c.utf8Size) cs ds
  | _, _, _ => False

instance RecasedFrom.decidable (ts : List Token) :
    (offset : Nat) → (cs ds : List Char) → Decidable (RecasedFrom ts offset cs ds)
  | _, [], [] => isTrue trivial
  | offset, c :: cs, _ :: ds =>
    have := RecasedFrom.decidable ts (offset + c.utf8Size) cs ds
    inferInstanceAs (Decidable (_ ∧ _))
  | _, [], _ :: _ => isFalse id
  | _, _ :: _, [] => isFalse id

/-- The second text is the first one with the case of some letters changed inside names. -/
def Recased (source other : String) : Prop :=
  RecasedFrom (tokenize source) 0 source.toList other.toList

instance (source other : String) : Decidable (Recased source other) :=
  RecasedFrom.decidable _ _ _ _

namespace RecasedFrom

variable {ts us : List Token} {offset : Nat} {as bs cs ds : List Char}

theorem map_toLower (h : RecasedFrom ts offset cs ds) :
    ds.map Char.toLower = cs.map Char.toLower := by
  fun_induction RecasedFrom ts offset cs ds with
  | case1 => rfl
  | case2 offset c cs d ds ih =>
    have hcd : d.toLower = c.toLower := by
      rcases h.1 with rfl | ⟨_, hlower⟩
      · rfl
      · exact hlower
    rw [List.map_cons, List.map_cons, hcd, ih h.2]
  | case3 => cases h

theorem exists_split (h : RecasedFrom ts offset (as ++ bs) ds) :
    ∃ as' bs', ds = as' ++ bs' ∧ RecasedFrom ts offset as as' ∧
      RecasedFrom ts (offset + byteLength as) bs bs' := by
  induction as generalizing offset ds with
  | nil => exact ⟨[], ds, rfl, trivial, h⟩
  | cons a as ih =>
    cases ds with
    | nil => cases h
    | cons d ds =>
      obtain ⟨hd, hds⟩ := h
      obtain ⟨as', bs', rfl, has, hbs⟩ := ih hds
      rw [byteLength_cons, ← Nat.add_assoc]
      exact ⟨d :: as', bs', rfl, ⟨hd, has⟩, hbs⟩

/-- Only the names from the offset on matter. -/
theorem weaken (h : RecasedFrom ts offset cs ds)
    (hnames : ∀ n, offset ≤ n → InName ts n → InName us n) : RecasedFrom us offset cs ds := by
  fun_induction RecasedFrom ts offset cs ds with
  | case1 => trivial
  | case2 offset c cs d ds ih =>
    refine ⟨h.1.imp_right fun hd => ⟨hnames offset (Nat.le_refl _) hd.1, hd.2⟩, ?_⟩
    exact ih h.2 fun n hn => hnames n (by omega)
  | case3 => cases h

theorem eq_of_no_name (h : RecasedFrom ts offset cs ds)
    (hnames : ∀ n, offset ≤ n → n < offset + byteLength cs → ¬InName ts n) : ds = cs := by
  fun_induction RecasedFrom ts offset cs ds with
  | case1 => rfl
  | case2 offset c cs d ds ih =>
    rw [byteLength_cons] at hnames
    have hsize := c.utf8Size_pos
    have hd : d = c := by
      rcases h.1 with hd | ⟨hname, _⟩
      · exact hd
      · exact absurd hname (hnames offset (by omega) (by omega))
    rw [hd, ih h.2 fun n hn hlt => hnames n (by omega) (by omega)]
  | case3 => cases h

end RecasedFrom

namespace Token

/-! ## Scanning in small letters -/

def Scan.toLower (s : Scan) : Scan :=
  ⟨s.kind.rename String.toLower, s.text.map Char.toLower, s.rest.map Char.toLower⟩

theorem toLower_ofList (cs : List Char) :
    (String.ofList cs).toLower = String.ofList (cs.map Char.toLower) := by
  rw [← String.toList_inj, toList_toLower, String.toList_ofList,
    String.toList_ofList]

theorem takeWhile_map_toLower {p : Char → Bool} (h : ∀ c, p c.toLower = p c) (cs : List Char) :
    (cs.map Char.toLower).takeWhile p = (cs.takeWhile p).map Char.toLower := by
  rw [List.takeWhile_map, show p ∘ Char.toLower = p from funext h]

theorem dropWhile_map_toLower {p : Char → Bool} (h : ∀ c, p c.toLower = p c) (cs : List Char) :
    (cs.map Char.toLower).dropWhile p = (cs.dropWhile p).map Char.toLower := by
  rw [List.dropWhile_map, show p ∘ Char.toLower = p from funext h]

theorem map_toLower_takeWhile_isDigit (cs : List Char) :
    (cs.takeWhile Char.isDigit).map Char.toLower = cs.takeWhile Char.isDigit := by
  have hdigits : ∀ c ∈ cs.takeWhile Char.isDigit, c.toLower = c := fun c hc =>
    toLower_of_not_isLetter
      (isLetter_eq_false_of_isDigit (List.all_eq_true.mp List.all_takeWhile c hc))
  rw [List.map_congr_left hdigits, List.map_id']

theorem map_toLower_ne_point {cs : List Char} (h : ∀ after, cs ≠ '.' :: after) (after : List Char) :
    cs.map Char.toLower ≠ '.' :: after := by
  intro hmap
  obtain ⟨c, rest, rfl, hc, _⟩ := List.map_eq_cons_iff.mp hmap
  rw [(toLower_eq_iff (by decide)).mp hc] at h
  exact h rest rfl

theorem scanNumber_toLower (cs : List Char) :
    scanNumber (cs.map Char.toLower) = (scanNumber cs).toLower := by
  have hpoint : '.'.toLower = '.' := by decide
  have htake := takeWhile_map_toLower isDigit_toLower
  have hdrop := dropWhile_map_toLower isDigit_toLower
  by_cases h : ∃ after, cs.dropWhile Char.isDigit = '.' :: after
  · obtain ⟨after, h⟩ := h
    have hlower : (cs.map Char.toLower).dropWhile Char.isDigit = '.' :: after.map Char.toLower := by
      rw [hdrop, h, List.map_cons, hpoint]
    by_cases h' : ∃ rest, after.dropWhile Char.isDigit = '.' :: rest
    · obtain ⟨rest, h'⟩ := h'
      have hlower' : (after.map Char.toLower).dropWhile Char.isDigit = '.' :: rest.map Char.toLower := by
        rw [hdrop, h', List.map_cons, hpoint]
      rw [scanNumber_two_points h h', scanNumber_two_points hlower hlower']
      simp [Scan.toLower, Kind.rename, htake, map_toLower_takeWhile_isDigit, hpoint]
    · have hnone := not_exists.mp h'
      have hnone' := map_toLower_ne_point hnone
      rw [← hdrop] at hnone'
      rw [scanNumber_one_point h hnone, scanNumber_one_point hlower hnone']
      simp only [Scan.toLower, htake, hdrop, map_toLower_takeWhile_isDigit, List.map_append,
        List.map_cons, hpoint]
      split <;> rfl
  · have hnone := not_exists.mp h
    have hnone' := map_toLower_ne_point hnone
    rw [← hdrop] at hnone'
    rw [scanNumber_no_point hnone, scanNumber_no_point hnone']
    simp [Scan.toLower, Kind.rename, htake, hdrop, map_toLower_takeWhile_isDigit]

theorem scan_toLower {c : Char} (hc : c ≠ '"') (cs : List Char) :
    scan c.toLower (cs.map Char.toLower) = (scan c cs).toLower := by
  have hsame {d : Char} (hd : d.isAlpha = false) : c.toLower = d ↔ c = d := toLower_eq_iff hd
  have hleft := hsame (d := '(') (by decide)
  have hright := hsame (d := ')') (by decide)
  have hcomma := hsame (d := ',') (by decide)
  have hquote := hsame (d := '"') (by decide)
  have hpoint := hsame (d := '.') (by decide)
  simp only [scan, hleft, hright, hcomma, hquote, hpoint, isDigit_toLower, isLetter_toLower,
    if_neg hc]
  split
  · rename_i h; subst h; rfl
  split
  · rename_i h; subst h; rfl
  split
  · rename_i h; subst h; rfl
  split
  · exact scanNumber_toLower (c :: cs)
  split
  · simp only [takeWhile_map_toLower isNameChar_toLower, dropWhile_map_toLower isNameChar_toLower,
      Scan.toLower, Kind.rename, toLower_ofList, List.map_cons]
  · rename_i hletter
    rw [toLower_of_not_isLetter (by simpa using hletter)]
    simp only [Scan.toLower, Kind.rename, List.map_cons, List.map_nil,
      toLower_of_not_isLetter (by simpa using hletter)]

/-! ## All tokens -/

theorem scan_recased {c d : Char} {cs ds : List Char}
    (hlower : (d :: ds).map Char.toLower = (c :: cs).map Char.toLower)
    (hquote : c = '"' → (scan c cs).text <+: d :: ds) :
    (scan d ds).toLower = (scan c cs).toLower := by
  rw [List.map_cons, List.map_cons] at hlower
  obtain ⟨hd, hds⟩ := List.cons.inj hlower
  by_cases hc : c = '"'
  · subst hc
    obtain ⟨rest, htext⟩ := hquote rfl
    rw [scan_string, scanString, List.cons_append] at htext
    obtain ⟨rfl, rfl⟩ := List.cons.inj htext
    have hboth : ((scanBody cs).text ++ rest).map Char.toLower =
        ((scanBody cs).text ++ (scanBody cs).rest).map Char.toLower := by
      rw [hds, scanBody_text_append_rest]
    have hrest : rest.map Char.toLower = (scanBody cs).rest.map Char.toLower := by
      rw [List.map_append, List.map_append] at hboth
      exact List.append_cancel_left hboth
    have hnil : (scanBody cs).RanOut → rest = [] := by
      intro h
      rw [rest_of_ranOut cs h] at hrest
      simpa using hrest
    simp only [scan_string, scanString, scanBody_replace_rest cs hnil, Scan.toLower, hrest]
  · have hd' : d ≠ '"' := by
      rintro rfl
      exact hc ((toLower_eq_iff (by decide)).mp (hd.symm.trans (by decide)))
    rw [← scan_toLower hd', ← scan_toLower hc, hd, hds]

theorem toClass_scan_quote {c : Char} (hc : c = '"') (cs : List Char) :
    (scan c cs).kind.toClass ≠ .identifier := by
  subst hc
  rw [scan_string, scanString]
  simp only
  split
  · intro h
    cases h
  · intro h
    cases h

theorem byteLength_map_toLower (cs : List Char) : byteLength (cs.map Char.toLower) = byteLength cs := by
  induction cs with
  | nil => rfl
  | cons c cs ih => rw [List.map_cons, byteLength_cons, byteLength_cons, utf8Size_toLower, ih]

/-- By induction on the tokens of the first text. A blank lies in no name; the text of a token that is no
name is unchanged; and behind the token only the names of later tokens matter. -/
theorem scanAll_recased {offset : Nat} {cs ds : List Char}
    (h : RecasedFrom (scanAll offset cs) offset cs ds) :
    (scanAll offset ds).map (Token.rename String.toLower) =
      (scanAll offset cs).map (Token.rename String.toLower) := by
  fun_induction scanAll offset cs generalizing ds with
  | case1 offset =>
    cases ds with
    | nil => rw [scanAll]
    | cons d ds => cases h
  | case2 offset c cs hblank ih =>
    cases ds with
    | nil => cases h
    | cons d ds =>
      obtain ⟨hd, hds⟩ := h
      have hdc : d = c := by
        rcases hd with hd | ⟨⟨t, ht, _, hstart, _⟩, _⟩
        · exact hd
        · have hsize := c.utf8Size_pos
          have hlater := start_of_mem_scanAll ht
          omega
      subst hdc
      rw [scanAll, if_pos hblank]
      exact ih hds
  | case3 offset c cs hblank s stop =>
    rename_i ih
    cases ds with
    | nil => cases h
    | cons d ds =>
      have hlower := h.map_toLower
      rw [← scan_text_append_rest c cs] at h
      obtain ⟨text, rest, hds, htext, hrest⟩ := h.exists_split
      have hquote : c = '"' → s.text <+: d :: ds := by
        intro hc
        rw [hds, htext.eq_of_no_name]
        · exact List.prefix_append s.text rest
        · rintro n _ hn ⟨t, ht, hclass, hstart, _⟩
          rcases List.mem_cons.mp ht with rfl | ht
          · exact toClass_scan_quote hc cs hclass
          · have hlater : stop ≤ n := Nat.le_trans (start_of_mem_scanAll ht) hstart
            exact absurd hn (Nat.not_lt.mpr hlater)
      obtain ⟨hkind, hsame, _⟩ := Scan.mk.inj (scan_recased hlower hquote)
      have hlength : (scan d ds).text.length = text.length := by
        have hleft := congrArg List.length hsame
        have hright := congrArg List.length htext.map_toLower
        simp only [List.length_map] at hleft hright
        exact hleft.trans hright.symm
      have hbytes : byteLength (scan d ds).text = byteLength s.text := by
        rw [← byteLength_map_toLower, hsame, byteLength_map_toLower]
      obtain ⟨_, hbehind⟩ := List.append_inj ((scan_text_append_rest d ds).trans hds) hlength
      have hlater : RecasedFrom (scanAll stop s.rest) stop s.rest rest := by
        refine hrest.weaken ?_
        rintro n hn ⟨t, ht, hclass, hstart, hstop⟩
        rcases List.mem_cons.mp ht with rfl | ht
        · exact absurd hstop (Nat.not_lt.mpr hn)
        · exact ⟨t, ht, hclass, hstart, hstop⟩
      have hblank' : ¬isBlank d = true := by
        rw [← isBlank_toLower, (List.cons.inj hlower).1, isBlank_toLower]
        exact hblank
      rw [scanAll, if_neg hblank', List.map_cons, List.map_cons, hbytes, hbehind, ih hlater,
        Token.rename, hkind]
      rfl

end Token

end FilterExpr
