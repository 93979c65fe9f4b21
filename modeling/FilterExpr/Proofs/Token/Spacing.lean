import FilterExpr.Proofs.Parser.Language
import FilterExpr.Proofs.Token.Extent
import FilterExpr.Proofs.Token.Layout

/-!
# FilterExpr.Proofs.Token.Spacing

Blanks between tokens mean nothing. If blanks are put into a text at a place that lies in no token, the
text has the same tokens as before, and those behind the place are moved by the length of the blanks
(`scanAll_insert`). The one exception is the place behind a quoted pattern that was never closed: the
pattern runs to the end of the text, so it takes up the blanks as well (`unclosed`).

The reason is that a blank prolongs no token (`ends_of_isBlank`), so that the tokens before the place stay
as they are (`scan_replace_rest`).
-/

namespace FilterExpr

open Text

namespace Token

/-! ## Moving tokens -/

/-- The token, moved to the right by `n` bytes. -/
def shift (n : Nat) (t : Token) : Token := { t with span := ⟨t.span.start + n, t.span.stop + n⟩ }

/-- Where the token comes to lie when `n` bytes are put in at `split`. The end of input lies behind every
place. -/
def pushed (split n : Nat) (t : Token) : Token :=
  if t.toClass ≠ .eof ∧ t.span.stop ≤ split then t else t.shift n

theorem pushed_of_le {split n : Nat} {t : Token} (ht : t.toClass ≠ .eof) (h : t.span.stop ≤ split) :
    t.pushed split n = t := if_pos ⟨ht, h⟩

theorem pushed_of_lt {split n : Nat} {t : Token} (h : split < t.span.stop) :
    t.pushed split n = t.shift n := if_neg fun ht => absurd ht.2 (Nat.not_le.mpr h)

theorem pushed_endAt (split n offset : Nat) :
    (Token.endAt offset).pushed split n = .endAt (offset + n) := if_neg fun ht => ht.1 rfl

@[simp] theorem kind_pushed (split n : Nat) (t : Token) : (t.pushed split n).kind = t.kind := by
  rw [pushed]
  split <;> rfl

theorem scanAll_shift (offset n : Nat) (cs : List Char) :
    scanAll (offset + n) cs = (scanAll offset cs).map (shift n) := by
  fun_induction scanAll offset cs with
  | case1 offset =>
    rw [scanAll]
    rfl
  | case2 offset c cs hblank ih =>
    rw [scanAll, if_pos hblank, ← ih, Nat.add_right_comm]
  | case3 offset c cs hblank s stop ih =>
    have hstop : offset + n + byteLength s.text = stop + n := Nat.add_right_comm _ _ _
    rw [scanAll, if_neg hblank, List.map_cons, ← ih, ← hstop]
    simp only [shift, ← hstop]
    rfl

/-! ## Blanks -/

theorem scanAll_blanks {gap : List Char} (h : ∀ c ∈ gap, isBlank c = true) (offset : Nat)
    (cs : List Char) : scanAll offset (gap ++ cs) = scanAll (offset + byteLength gap) cs := by
  induction gap generalizing offset with
  | nil => rfl
  | cons c gap ih =>
    obtain ⟨hc, hgap⟩ := List.forall_mem_cons.mp h
    rw [List.cons_append, scanAll, if_pos hc, ih hgap, byteLength_cons, Nat.add_assoc]

/-- Blanks in front of a text move all its tokens. -/
theorem scanAll_blanks_pushed {gap : List Char} (h : ∀ c ∈ gap, isBlank c = true) (offset : Nat)
    (cs : List Char) :
    scanAll offset (gap ++ cs) = (scanAll offset cs).map (pushed offset (byteLength gap)) := by
  rw [scanAll_blanks h, scanAll_shift]
  refine List.map_congr_left fun t ht => (pushed_of_lt ?_).symm
  have hstart := start_of_mem_scanAll ht
  have hstop := (of_mem_scanAll ht).2
  omega

/-- A blank stands in no name and in no number. -/
theorem ends_of_isBlank {c : Char} (h : isBlank c = true) :
    isNameChar c = false ∧ c.isDigit = false ∧ c ≠ '.' := by
  refine ⟨?_, ?_, ?_⟩
  · have hunderscore : c ≠ '_' := by
      rintro rfl
      revert h
      decide
    rw [isNameChar, isLetter_eq_false_of_isBlank h, Bool.false_or, beq_eq_false_iff_ne]
    exact hunderscore
  · cases hd : c.isDigit with
    | false => rfl
    | true =>
      rw [isBlank_eq_false_of_isDigit hd] at h
      cases h
  · rintro rfl
    revert h
    decide

/-! ## Patterns without an end -/

/-- The token is a quoted pattern that was not closed before the text ended: it starts with a quote,
runs to the end, and no character in it cut it short. -/
def unclosed (source : String) (t : Token) : Bool :=
  t.toClass = .illegal && t.span.stop = source.utf8ByteSize &&
    (t.span.slice? source).any fun text =>
      text.toList.head? = some '"' && text.toList.all isPrintable

theorem unclosed_of_ranOut {source : String} {front cs : List Char}
    (hsource : source.toList = front ++ '"' :: cs) (h : (scanBody cs).RanOut) :
    unclosed source ⟨(scan '"' cs).kind,
      ⟨byteLength front, byteLength front + byteLength (scan '"' cs).text⟩⟩ = true := by
  have htext : (scanBody cs).text = cs := by
    have happend := scanBody_text_append_rest cs
    rwa [rest_of_ranOut cs h, List.append_nil] at happend
  have hscan : (scan '"' cs).text = '"' :: cs := by
    rw [scan_string, scanString, htext]
  have hkind : (scan '"' cs).kind.toClass = .illegal := by
    rw [scan_string, scanString, h.open_eq]
    rfl
  have hstop : byteLength front + byteLength ('"' :: cs) = source.utf8ByteSize := by
    rw [← byteLength_append, ← hsource, byteLength_toList]
  have hsplit : source.toList = front ++ ('"' :: cs ++ []) := by simpa using hsource
  have hslice := Span.slice?_of_split hsplit
  rw [hstop] at hslice
  have hprintable : ('"' :: cs).all isPrintable = true := by
    rw [List.all_cons, printable_of_isEscapable (by decide), Bool.true_and, List.all_eq_true]
    exact htext ▸ h.printable
  simp only [unclosed, Token.toClass, hkind, hscan, hstop, hslice, Option.any_some,
    String.toList_ofList, hprintable, List.head?_cons, decide_true, Bool.and_true]

/-! ## Putting blanks in -/

/-- The place lies in no token, and not right behind a pattern without an end. -/
structure Between (source : String) (ts : List Token) (split : Nat) : Prop where
  outside : ∀ t ∈ ts, ¬(t.span.start < split ∧ split < t.span.stop)
  behind : ∀ t ∈ ts, unclosed source t = true → t.span.stop ≠ split

theorem Between.tail {source : String} {t : Token} {ts : List Token} {split : Nat}
    (h : Between source (t :: ts) split) : Between source ts split :=
  ⟨(List.forall_mem_cons.mp h.outside).2, (List.forall_mem_cons.mp h.behind).2⟩

/-- Of two ways to split a text, the one with the shorter front comes first. -/
theorem exists_append_of_byteLength_le {as bs cs ds : List Char} (h : as ++ bs = cs ++ ds)
    (hle : byteLength as ≤ byteLength cs) : ∃ es, cs = as ++ es ∧ bs = es ++ ds := by
  rcases List.append_eq_append_iff.mp h with ⟨es, hcs, hbs⟩ | ⟨es, has, hds⟩
  · exact ⟨es, hcs, hbs⟩
  · have hnil : es = [] := by
      by_contra hne
      have hpos := byteLength_pos hne
      rw [has, byteLength_append] at hle
      omega
    subst hnil
    exact ⟨[], by simpa using has.symm, by simpa using hds.symm⟩

/-- A token that lies before the place is read again, with all of the text up to the place. -/
theorem scan_insert {source : String} {front us vs gap : List Char} {c : Char} {ts : List Token}
    (hgap : ∀ d ∈ gap, isBlank d = true) (hsource : source.toList = front ++ c :: (us ++ vs))
    (hbetween : Between source
      (⟨(scan c (us ++ vs)).kind,
        ⟨byteLength front, byteLength front + byteLength (scan c (us ++ vs)).text⟩⟩ :: ts)
      (byteLength front + byteLength (c :: us))) :
    ∃ us', c :: us = (scan c (us ++ vs)).text ++ us' ∧ (scan c (us ++ vs)).rest = us' ++ vs ∧
      scan c (us ++ (gap ++ vs)) = { scan c (us ++ vs) with rest := us' ++ (gap ++ vs) } := by
  have htext : (scan c (us ++ vs)).text ++ (scan c (us ++ vs)).rest = (c :: us) ++ vs :=
    scan_text_append_rest c (us ++ vs)
  have hle : byteLength (scan c (us ++ vs)).text ≤ byteLength (c :: us) := by
    have houtside := hbetween.outside _ List.mem_cons_self
    have hsize := c.utf8Size_pos
    simp only [byteLength_cons] at houtside ⊢
    omega
  obtain ⟨us', hus, hrest⟩ := exists_append_of_byteLength_le htext hle
  refine ⟨us', hus, hrest, scan_replace_rest ?_ ?_ ?_⟩
  · rw [← List.cons_append, hus, List.append_assoc]
  · -- the first character behind the token is the old one or a blank
    cases us' with
    | nil =>
      cases gap with
      | nil => exact .inl (by rw [hrest]; rfl)
      | cons b gap => exact .inr (ends_cons (ends_of_isBlank (hgap b List.mem_cons_self)) _)
    | cons d us' => exact .inl (by rw [hrest]; rfl)
  · rintro rfl hout
    have hnil : us' ++ vs = [] := by
      rw [← hrest, scan_string, scanString]
      exact rest_of_ranOut _ hout
    have hlength : byteLength (scan '"' (us ++ vs)).text = byteLength ('"' :: us) := by
      rw [hus, (List.append_eq_nil_iff.mp hnil).1, List.append_nil]
    have hbehind := hbetween.behind _ List.mem_cons_self (unclosed_of_ranOut hsource hout)
    exact absurd (congrArg (byteLength front + ·) hlength) hbehind

/-- By induction on the tokens of the text before the blanks were put in. The characters `us` are those up
to the place, so a token lies either within `us`, and then it stays as it is, or behind them. -/
theorem scanAll_insert {source : String} {front cs us vs gap : List Char} {offset : Nat}
    (hgap : ∀ c ∈ gap, isBlank c = true) (hsource : source.toList = front ++ cs)
    (hoffset : offset = byteLength front) (hcs : cs = us ++ vs)
    (hbetween : Between source (scanAll offset cs) (offset + byteLength us)) :
    scanAll offset (us ++ (gap ++ vs)) =
      (scanAll offset cs).map (pushed (offset + byteLength us) (byteLength gap)) := by
  fun_induction scanAll offset cs generalizing front us with
  | case1 offset =>
    obtain ⟨rfl, rfl⟩ := List.append_eq_nil_iff.mp hcs.symm
    rw [List.nil_append, scanAll_blanks hgap, scanAll]
    rfl
  | case2 offset c cs hblank ih =>
    cases us with
    | nil =>
      rw [List.nil_append] at hcs
      rw [List.nil_append, scanAll_blanks_pushed hgap, ← hcs, scanAll, if_pos hblank]
      rfl
    | cons d us =>
      rw [List.cons_append] at hcs
      obtain ⟨rfl, rfl⟩ := List.cons.inj hcs
      rw [byteLength_cons, ← Nat.add_assoc] at hbetween ⊢
      rw [List.cons_append, scanAll, if_pos hblank]
      have hfront : source.toList = front ++ [c] ++ (us ++ vs) := by simpa using hsource
      exact ih hfront (by simp [hoffset]) rfl hbetween
  | case3 offset c cs hblank s =>
    rename_i stop ih
    cases us with
    | nil =>
      rw [List.nil_append] at hcs
      rw [List.nil_append, scanAll_blanks_pushed hgap, ← hcs, scanAll, if_neg hblank]
      rfl
    | cons d us =>
      rw [List.cons_append] at hcs
      obtain ⟨rfl, rfl⟩ := List.cons.inj hcs
      subst hoffset
      obtain ⟨us', hus, hrest, hscan⟩ := scan_insert hgap hsource hbetween
      have hsplit : byteLength front + byteLength (c :: us) = stop + byteLength us' := by
        rw [hus, byteLength_append, ← Nat.add_assoc]
      have hfront : source.toList = front ++ s.text ++ s.rest := by
        rw [List.append_assoc, scan_text_append_rest, hsource]
      have hstop : stop = byteLength (front ++ s.text) := (byteLength_append front s.text).symm
      rw [hsplit] at hbetween ⊢
      have hhead : pushed (stop + byteLength us') (byteLength gap)
          ⟨s.kind, ⟨byteLength front, stop⟩⟩ = ⟨s.kind, ⟨byteLength front, stop⟩⟩ :=
        pushed_of_le (spells_scan c (us ++ vs)).ne_eof (Nat.le_add_right _ _)
      rw [List.cons_append, scanAll, if_neg hblank, hscan, List.map_cons, hhead,
        ← ih hfront hstop hrest hbetween.tail]

end Token

open Token

/-- Blanks that are put into a text at a place in no token change nothing: the tokens behind the place are
moved by the length of the blanks, and the same filter is read, or none both times. The place must not
be right behind a quoted pattern that was not closed. -/
theorem tokenize_insert_blanks (u v w : String) (hblank : w.toList.all isBlank = true)
    (houtside : ∀ t ∈ tokenize (u ++ v),
      ¬(t.span.start < u.utf8ByteSize ∧ u.utf8ByteSize < t.span.stop))
    (hbehind : ∀ t ∈ tokenize (u ++ v), unclosed (u ++ v) t = true → t.span.stop ≠ u.utf8ByteSize) :
    tokenize (u ++ w ++ v) = (tokenize (u ++ v)).map (pushed u.utf8ByteSize w.utf8ByteSize) ∧
    ∀ limit f, parse (u ++ w ++ v) limit = .ok f ↔ parse (u ++ v) limit = .ok f := by
  have hscan : scanAll 0 (u ++ w ++ v).toList =
      (scanAll 0 (u ++ v).toList).map (pushed u.utf8ByteSize w.utf8ByteSize) := by
    have hbetween : Between (u ++ v) (scanAll 0 (u ++ v).toList) (0 + byteLength u.toList) := by
      rw [Nat.zero_add, byteLength_toList]
      exact ⟨fun t ht => houtside t (List.mem_append_left _ ht),
        fun t ht => hbehind t (List.mem_append_left _ ht)⟩
    have hsource : (u ++ v).toList = [] ++ (u ++ v).toList := rfl
    have hstart : 0 = byteLength [] := rfl
    have hinsert := scanAll_insert (List.all_eq_true.mp hblank) hsource hstart String.toList_append
      hbetween
    rw [Nat.zero_add, byteLength_toList, byteLength_toList] at hinsert
    rw [String.toList_append, String.toList_append, List.append_assoc, hinsert]
  constructor
  · rw [tokenize, tokenize, hscan, List.map_append, List.map_singleton, pushed_endAt]
    simp only [String.utf8ByteSize_append, Nat.add_right_comm]
  · intro limit f
    have hkinds : (Token.kind ∘ pushed u.utf8ByteSize w.utf8ByteSize) = Token.kind :=
      funext (kind_pushed _ _)
    rw [parse_eq_ok_iff, parse_eq_ok_iff, hscan, List.map_map, hkinds]

theorem tokenize_insert_blanks_before_paren :
    tokenize "not(eq(né,1.5\t\u2003))" =
      (tokenize "not(eq(né,1.5))").map (pushed 14 4) ∧
    ∀ limit f, parse "not(eq(né,1.5\t\u2003))" limit = .ok f ↔ parse "not(eq(né,1.5))" limit = .ok f :=
  tokenize_insert_blanks "not(eq(né,1.5" "))" "\t\u2003" (by decide) (by decide +kernel)
    (by decide +kernel)

end FilterExpr
