import FilterExpr.Proofs.Token.Cursor

/-!
# FilterExpr.Proofs.Token.Layout

Where the tokens of a text lie. `Layout offset cs ts` says that the characters `cs`, the first of which
stands at byte `offset`, are blanks and the texts of the tokens `ts` in turn, each text at the span of
its token, and that the last token is the end of input behind all of them. The tokens of a text are
laid out in it (`layout_tokenize`), and what is known about their spans follows from that:

* `Layout.ordered`, `Layout.exists_init`: the spans come one after the other, and only the last is empty;
* `Layout.split_of_mem`, `Layout.split_of_mem_gaps`: tokens and gaps are stretches of the text;
* `Layout.slices_pieces`: gaps and tokens together are the whole text.

Every token is what the scanner reads at the place where it starts (`StartsAt.eq_scan`).
-/

namespace FilterExpr

open Text

theorem byteLength_toList (s : String) : byteLength s.toList = s.utf8ByteSize := by
  have hlist (cs : List Char) : (String.ofList cs).utf8ByteSize = byteLength cs := by
    induction cs with
    | nil => rfl
    | cons c cs ih =>
      have hcons : String.ofList (c :: cs) = String.singleton c ++ String.ofList cs := by simp
      rw [hcons, String.utf8ByteSize_append, String.utf8ByteSize_singleton, ih, byteLength_cons]
  rw [← hlist, String.ofList_toList]

theorem byteLength_pos {cs : List Char} (h : cs ≠ []) : 0 < byteLength cs := by
  cases cs with
  | nil => exact absurd rfl h
  | cons c cs =>
    have hsize := c.utf8Size_pos
    rw [byteLength_cons]
    omega

/-! ## Slices -/

namespace Span

theorem splitBytes?_append (front rest : List Char) :
    splitBytes? (byteLength front) (front ++ rest) = some (front, rest) := by
  induction front with
  | nil => cases rest <;> simp [splitBytes?]
  | cons c front ih =>
    have hsize := c.utf8Size_pos
    rw [List.cons_append, byteLength_cons, splitBytes?, if_neg (by omega), if_pos (by omega),
      Nat.add_sub_cancel_left, ih]
    rfl

/-- The slice between two places of a text is what stands between them. -/
theorem slice?_of_split {source : String} {front text rest : List Char}
    (h : source.toList = front ++ (text ++ rest)) :
    slice? ⟨byteLength front, byteLength front + byteLength text⟩ source =
      some (String.ofList text) := by
  rw [slice?, if_pos (by simp), h, splitBytes?_append]
  simp only [Option.bind_some, Nat.add_sub_cancel_left, splitBytes?_append, Option.map_some]

/-- A place of a text that stands between two characters. -/
theorem isValid_of_split {source : String} {front rest : List Char}
    (h : source.toList = front ++ rest) : String.Pos.Raw.IsValid source ⟨byteLength front⟩ := by
  rw [String.Pos.Raw.isValid_iff_exists_append]
  refine ⟨String.ofList front, String.ofList rest, ?_, ?_⟩
  · rw [← String.toList_inj, h, String.toList_append, String.toList_ofList, String.toList_ofList]
  · rw [String.rawEndPos, ← byteLength_toList, String.toList_ofList]

end Span

namespace Token

/-! ## The texts of tokens -/

/-- The classes of tokens whose content is the text they were read from. -/
def Class.verbatim : Class → Bool
  | .identifier | .integer | .decimal | .comma | .leftParen | .rightParen => true
  | .illegal | .eof | .string => false

/-- A token of the kind can be read from the text. -/
structure Kind.Spells (kind : Kind) (text : List Char) : Prop where
  ne_eof : kind.toClass ≠ .eof
  ne_nil : text ≠ []
  literal_eq : kind.toClass.verbatim = true → kind.literal = String.ofList text

theorem spells_scanNumber {c : Char} (h : c.isDigit = true ∨ c = '.') (cs : List Char) :
    (scanNumber (c :: cs)).kind.Spells (scanNumber (c :: cs)).text := by
  refine ⟨?_, scanNumber_text_ne_nil h cs, ?_⟩
  · simp only [scanNumber]
    split
    · split
      · simp [Kind.toClass]
      · split <;> simp [Kind.toClass]
    · simp [Kind.toClass]
  · intro _
    simp only [scanNumber]
    split
    · split
      · rfl
      · split <;> rfl
    · rfl

theorem spells_scanString (quote : Char) (cs : List Char) :
    (scanString quote cs).kind.Spells (scanString quote cs).text := by
  simp only [scanString]
  split
  · exact ⟨by simp [Kind.toClass], by simp, by simp [Kind.toClass, Class.verbatim]⟩
  · exact ⟨by simp [Kind.toClass], by simp, by simp [Kind.toClass, Class.verbatim]⟩

theorem spells_scan (c : Char) (cs : List Char) : (scan c cs).kind.Spells (scan c cs).text := by
  rw [scan]
  split
  · rename_i h
    subst h
    exact ⟨by simp [Kind.toClass], by simp, fun _ => rfl⟩
  split
  · rename_i h
    subst h
    exact ⟨by simp [Kind.toClass], by simp, fun _ => rfl⟩
  split
  · rename_i h
    subst h
    exact ⟨by simp [Kind.toClass], by simp, fun _ => rfl⟩
  split
  · exact spells_scanString c cs
  split
  · rename_i h
    exact spells_scanNumber h cs
  split
  · exact ⟨by simp [Kind.toClass], by simp, fun _ => rfl⟩
  · exact ⟨by simp [Kind.toClass], by simp, by simp [Kind.toClass, Class.verbatim]⟩

/-! ## Layouts -/

inductive Layout : Nat → List Char → List Token → Prop where
  | done {offset : Nat} {gap : List Char} : (∀ c ∈ gap, isBlank c = true) →
      Layout offset gap [.endAt (offset + byteLength gap)]
  | token {offset : Nat} {gap text rest : List Char} {kind : Kind} {ts : List Token} :
      (∀ c ∈ gap, isBlank c = true) → kind.Spells text →
      Layout (offset + byteLength gap + byteLength text) rest ts →
      Layout offset (gap ++ (text ++ rest))
        (⟨kind, ⟨offset + byteLength gap, offset + byteLength gap + byteLength text⟩⟩ :: ts)

theorem Layout.cons_blank {offset : Nat} {c : Char} {cs : List Char} {ts : List Token}
    (hc : isBlank c = true) (h : Layout (offset + c.utf8Size) cs ts) :
    Layout offset (c :: cs) ts := by
  cases h with
  | done hgap =>
    rw [Nat.add_assoc, ← byteLength_cons]
    exact .done (List.forall_mem_cons.mpr ⟨hc, hgap⟩)
  | token hgap hspells hrest =>
    rw [Nat.add_assoc offset, ← byteLength_cons] at hrest ⊢
    exact .token (List.forall_mem_cons.mpr ⟨hc, hgap⟩) hspells hrest

/-- By induction on the tokens: a blank prolongs the gap in front of the next token, and a token follows
the one before it without a gap. -/
theorem layout_scanAll (offset : Nat) (cs : List Char) :
    Layout offset cs (scanAll offset cs ++ [.endAt (offset + byteLength cs)]) := by
  fun_induction scanAll offset cs with
  | case1 offset => exact .done (by simp)
  | case2 offset c cs hblank ih =>
    rw [byteLength_cons, ← Nat.add_assoc]
    exact ih.cons_blank hblank
  | case3 offset c cs hblank s stop ih =>
    have htext : s.text ++ s.rest = c :: cs := scan_text_append_rest c cs
    rw [← htext, byteLength_append, ← Nat.add_assoc]
    have hgap : ∀ d ∈ ([] : List Char), isBlank d = true := by simp
    exact Layout.token hgap (spells_scan c cs) ih

theorem layout_tokenize (source : String) : Layout 0 source.toList (tokenize source) := by
  have h := layout_scanAll 0 source.toList
  rwa [Nat.zero_add, byteLength_toList] at h

/-- The spans between the tokens, the first of which starts at `offset`. -/
def gaps : Nat → List Token → List Span
  | _, [] => []
  | offset, t :: ts => ⟨offset, t.span.start⟩ :: gaps t.span.stop ts

/-- The spans of gaps and tokens in turn. -/
def pieces : Nat → List Token → List Span
  | _, [] => []
  | offset, t :: ts => ⟨offset, t.span.start⟩ :: t.span :: pieces t.span.stop ts

namespace Layout

variable {offset : Nat} {cs : List Char} {ts : List Token}

theorem exists_init (h : Layout offset cs ts) :
    ∃ us, ts = us ++ [.endAt (offset + byteLength cs)] ∧
      ∀ t ∈ us, t.toClass ≠ .eof ∧ t.span.start < t.span.stop := by
  induction h with
  | done _ => exact ⟨[], rfl, by simp⟩
  | @token offset gap text rest kind ts _ hspells _ ih =>
    obtain ⟨us, rfl, hus⟩ := ih
    have hpos := byteLength_pos hspells.ne_nil
    refine ⟨⟨kind, ⟨offset + byteLength gap, offset + byteLength gap + byteLength text⟩⟩ :: us, ?_, ?_⟩
    · simp only [byteLength_append, Nat.add_assoc, List.cons_append]
    · exact List.forall_mem_cons.mpr ⟨⟨hspells.ne_eof, Nat.lt_add_of_pos_right hpos⟩, hus⟩

theorem ordered (h : Layout offset cs ts) :
    ts.Pairwise (fun t u => t.span.stop ≤ u.span.start) ∧ ∀ t ∈ ts, offset ≤ t.span.start := by
  induction h with
  | done _ => simp [Token.endAt, Span.point]
  | token _ _ _ ih =>
    obtain ⟨hpairwise, hstart⟩ := ih
    refine ⟨List.pairwise_cons.mpr ⟨hstart, hpairwise⟩, List.forall_mem_cons.mpr ⟨?_, ?_⟩⟩
    · exact Nat.le_add_right _ _
    · intro t ht
      have := hstart t ht
      omega

/-- A token is a stretch of the text. -/
theorem split_of_mem (h : Layout offset cs ts) {t : Token} (ht : t ∈ ts) :
    ∃ front text rest, cs = front ++ (text ++ rest) ∧
      t.span = ⟨offset + byteLength front, offset + byteLength front + byteLength text⟩ ∧
      (t.toClass.verbatim = true → t.literal = String.ofList text) := by
  induction h with
  | @done offset gap _ =>
    rw [List.mem_singleton.mp ht]
    exact ⟨gap, [], [], by simp, rfl, by simp [Token.endAt, Token.toClass, Kind.toClass, Class.verbatim]⟩
  | @token offset gap text rest kind ts _ hspells _ ih =>
    rcases List.mem_cons.mp ht with rfl | ht
    · exact ⟨gap, text, rest, rfl, rfl, hspells.literal_eq⟩
    · obtain ⟨front, text', rest', rfl, hspan, hliteral⟩ := ih ht
      refine ⟨gap ++ text ++ front, text', rest', by simp, ?_, hliteral⟩
      rw [hspan]
      simp only [byteLength_append, Nat.add_assoc]

/-- A gap is a stretch of blanks. -/
theorem split_of_mem_gaps (h : Layout offset cs ts) {g : Span} (hg : g ∈ gaps offset ts) :
    ∃ front gap rest, cs = front ++ (gap ++ rest) ∧
      g = ⟨offset + byteLength front, offset + byteLength front + byteLength gap⟩ ∧
      ∀ c ∈ gap, isBlank c = true := by
  induction h with
  | @done offset gap hgap =>
    rw [gaps, gaps, List.mem_singleton] at hg
    exact ⟨[], gap, [], by simp, hg, hgap⟩
  | @token offset gap text rest kind ts hgap _ _ ih =>
    rcases List.mem_cons.mp hg with rfl | hg
    · exact ⟨[], gap, text ++ rest, rfl, rfl, hgap⟩
    · obtain ⟨front, gap', rest', rfl, hspan, hgap'⟩ := ih hg
      refine ⟨gap ++ text ++ front, gap', rest', by simp, ?_, hgap'⟩
      rw [hspan]
      simp only [byteLength_append, Nat.add_assoc]

/-- By induction on the tokens; `front` is what stands before them in the source. -/
theorem slices_pieces {source : String} {front : List Char} (h : Layout offset cs ts)
    (hsource : source.toList = front ++ cs) (hoffset : offset = byteLength front) :
    ∃ texts, (pieces offset ts).map (·.slice? source) = texts.map some ∧
      String.join texts = String.ofList cs := by
  induction h generalizing front with
  | @done offset gap _ =>
    subst hoffset
    have hgap : source.toList = front ++ (gap ++ []) := by simpa using hsource
    have heof : source.toList = front ++ gap ++ ([] ++ []) := by simpa using hsource
    refine ⟨[String.ofList gap, ""], ?_, by simp⟩
    simpa [pieces, Token.endAt, Span.point, Span.slice?_of_split hgap] using Span.slice?_of_split heof
  | @token offset gap text rest kind ts _ _ _ ih =>
    subst hoffset
    have hsplit : source.toList = front ++ gap ++ (text ++ rest) := by simpa using hsource
    have hrest : source.toList = front ++ gap ++ text ++ rest := by simpa using hsource
    obtain ⟨texts, hslices, hjoin⟩ := ih hrest (by simp only [byteLength_append])
    refine ⟨String.ofList gap :: String.ofList text :: texts, ?_, ?_⟩
    · have htext := Span.slice?_of_split hsplit
      rw [byteLength_append] at htext
      rw [pieces, List.map_cons, List.map_cons, hslices, Span.slice?_of_split hsource, htext]
      rfl
    · rw [String.join_cons, String.join_cons, hjoin, String.ofList_append, String.ofList_append]

end Layout

theorem start_of_mem_scanAll {offset : Nat} {cs : List Char} {t : Token}
    (h : t ∈ scanAll offset cs) : offset ≤ t.span.start :=
  (layout_scanAll offset cs).ordered.2 t (List.mem_append_left _ h)

/-- There are no more tokens than bytes. -/
theorem length_scanAll_le (offset : Nat) (cs : List Char) :
    (scanAll offset cs).length ≤ byteLength cs := by
  fun_induction scanAll offset cs with
  | case1 => exact Nat.zero_le _
  | case2 offset c cs _ ih =>
    rw [byteLength_cons]
    omega
  | case3 offset c cs _ s stop ih =>
    have htext : s.text ++ s.rest = c :: cs := scan_text_append_rest c cs
    have hpos : 0 < byteLength s.text := byteLength_pos (scan_text_ne_nil c cs)
    rw [← htext, byteLength_append, List.length_cons]
    omega

theorem of_mem_scanAll {offset : Nat} {cs : List Char} {t : Token} (h : t ∈ scanAll offset cs) :
    t.toClass ≠ .eof ∧ t.span.start < t.span.stop := by
  obtain ⟨us, hus, hall⟩ := (layout_scanAll offset cs).exists_init
  rw [List.append_cancel_right hus] at h
  exact hall t h

/-! ## Tokens at a place -/

/-- A text is split at a byte in one way only. -/
theorem split_unique {front rest front' rest' : List Char} (h : front ++ rest = front' ++ rest')
    (hlength : byteLength front = byteLength front') : front = front' ∧ rest = rest' := by
  have hsplit := Span.splitBytes?_append front rest
  rw [h, hlength, Span.splitBytes?_append] at hsplit
  simpa [eq_comm] using hsplit

/-- The token is one of the text and starts where `rest` does. -/
structure StartsAt (source : String) (front rest : List Char) (t : Token) : Prop where
  mem : t ∈ tokenize source
  text_eq : source.toList = front ++ rest
  start_eq : t.span.start = byteLength front

theorem exists_scan_of_mem_scanAll {offset : Nat} {cs : List Char} {t : Token}
    (h : t ∈ scanAll offset cs) :
    ∃ front c rest, cs = front ++ c :: rest ∧
      t = ⟨(scan c rest).kind, ⟨offset + byteLength front,
        offset + byteLength front + byteLength (scan c rest).text⟩⟩ := by
  fun_induction scanAll offset cs with
  | case1 => cases h
  | case2 offset c cs _ ih =>
    obtain ⟨front, d, rest, rfl, ht⟩ := ih h
    exact ⟨c :: front, d, rest, rfl, by simpa [Nat.add_assoc] using ht⟩
  | case3 offset c cs _ s stop ih =>
    rcases List.mem_cons.mp h with rfl | h
    · exact ⟨[], c, cs, rfl, rfl⟩
    · obtain ⟨front, d, rest, hrest, ht⟩ := ih h
      have htext : s.text ++ s.rest = c :: cs := scan_text_append_rest c cs
      refine ⟨s.text ++ front, d, rest, ?_, ?_⟩
      · rw [List.append_assoc, ← hrest, htext]
      · simpa [stop, Nat.add_assoc] using ht

/-- The token at a place is what the scanner reads there. -/
theorem StartsAt.eq_scan {source : String} {front rest : List Char} {c : Char} {t : Token}
    (h : StartsAt source front (c :: rest) t) :
    t = ⟨(scan c rest).kind,
      ⟨byteLength front, byteLength front + byteLength (scan c rest).text⟩⟩ := by
  obtain ⟨hmem, htext, hstart⟩ := h
  rw [tokenize, List.mem_append, List.mem_singleton] at hmem
  rcases hmem with hmem | rfl
  · obtain ⟨front', d, rest', hsplit, ht⟩ := exists_scan_of_mem_scanAll hmem
    rw [Nat.zero_add] at ht
    have hlength : byteLength front = byteLength front' := by rw [← hstart, ht]
    obtain ⟨rfl, hrest⟩ := split_unique (htext.symm.trans hsplit) hlength
    obtain ⟨rfl, rfl⟩ := List.cons.inj hrest
    exact ht
  · -- the end of input stands behind all characters
    have hsize := c.utf8Size_pos
    rw [Token.endAt, Span.point, ← byteLength_toList, htext, byteLength_append, byteLength_cons]
      at hstart
    simp only at hstart
    omega

end Token

/-! ## Cursors in a text -/

namespace Cursor.At

variable {source : String} {front : List Char} {c : Cursor}

theorem offset_le (h : At source front c) : c.offset ≤ source.utf8ByteSize := by
  rw [h.offset_eq, ← byteLength_toList, h.text_eq, byteLength_append]
  exact Nat.le_add_right _ _

/-- The characters up to the end of the text can be moved over. -/
theorem advances_finish (h : At source front c) : Advances c c.finish := by
  have hmove := advances_append c.source c.offset c.rest []
  have hsize : c.offset + byteLength c.rest = c.source.utf8ByteSize := by
    rw [h.offset_eq, h.source_eq, ← byteLength_toList, h.text_eq, byteLength_append]
  rwa [List.append_nil, hsize] at hmove

/-- What a cursor moved over can be cut out of the text. -/
theorem slice?_of_advances (h : At source front c) {d : Cursor} (hd : Advances c d) :
    ∃ text, Span.slice? ⟨c.offset, d.offset⟩ source = some text ∧ c.rest = text.toList ++ d.rest := by
  obtain ⟨text, hrest, hat⟩ := h.advances hd
  have hsource := h.text_eq
  rw [hrest] at hsource
  refine ⟨String.ofList text, ?_, by rw [String.toList_ofList, hrest]⟩
  rw [h.offset_eq, hat.offset_eq, byteLength_append, Span.slice?_of_split hsource]

end Cursor.At

/-! ## Whole texts -/

open Token

/-- Scanning loses nothing of a text and invents nothing: tokens follow one another, between them are blanks
only, and both together are the text. Names, numbers and delimiters have the text of their span as
content. Reading the tokens one at a time gives the same ones, and a cursor only ever stands on the
boundary of a character. -/
theorem tokenize_lossless (source : String) :
    (∃ ts, tokenize source = ts ++ [.endAt source.utf8ByteSize] ∧
      ∀ t ∈ ts, t.toClass ≠ .eof ∧ t.span.start < t.span.stop) ∧
    (tokenize source).Pairwise (fun t u => t.span.stop ≤ u.span.start) ∧
    (∀ t ∈ tokenize source, String.Pos.Raw.IsValid source ⟨t.span.start⟩ ∧
      String.Pos.Raw.IsValid source ⟨t.span.stop⟩) ∧
    (∀ g ∈ gaps 0 (tokenize source), ∃ gap, g.slice? source = some gap ∧
      ∀ c ∈ gap.toList, isBlank c = true) ∧
    (∃ texts, (pieces 0 (tokenize source)).map (·.slice? source) = texts.map some ∧
      String.join texts = source) ∧
    (∀ t ∈ tokenize source, t.toClass.verbatim = true →
      t.span.slice? source = some t.literal) ∧
    (∀ n, ((Cursor.start source).skip n).next.1 =
      (tokenize source).getD n (.endAt source.utf8ByteSize)) ∧
    (∀ c, Cursor.Advances (.start source) c →
      String.Pos.Raw.IsValid source ⟨c.offset⟩ ∧ c.offset ≤ source.utf8ByteSize ∧
      Cursor.Advances c c.next.2 ∧ Cursor.Advances c c.finish ∧
      ∀ d, Cursor.Advances c d →
        ∃ text, Span.slice? ⟨c.offset, d.offset⟩ source = some text ∧
          c.rest = text.toList ++ d.rest) := by
  have hlayout := layout_tokenize source
  have hslice {t : Token} (ht : t ∈ tokenize source) :
      String.Pos.Raw.IsValid source ⟨t.span.start⟩ ∧ String.Pos.Raw.IsValid source ⟨t.span.stop⟩ ∧
        (t.toClass.verbatim = true → t.span.slice? source = some t.literal) := by
    obtain ⟨front, text, rest, hsource, hspan, hliteral⟩ := hlayout.split_of_mem ht
    rw [Nat.zero_add] at hspan
    have hsplit : source.toList = front ++ text ++ rest := by simpa using hsource
    have hstop := Span.isValid_of_split hsplit
    rw [byteLength_append] at hstop
    rw [hspan]
    refine ⟨Span.isValid_of_split hsource, hstop, fun hverbatim => ?_⟩
    rw [Span.slice?_of_split hsource, hliteral hverbatim]
  refine ⟨?_, hlayout.ordered.1, fun t ht => ⟨(hslice ht).1, (hslice ht).2.1⟩, ?_, ?_,
    fun t ht => (hslice ht).2.2, ?_, ?_⟩
  · have hinit := hlayout.exists_init
    rwa [Nat.zero_add, byteLength_toList] at hinit
  · intro g hg
    obtain ⟨front, gap, rest, hsource, rfl, hgap⟩ := hlayout.split_of_mem_gaps hg
    refine ⟨String.ofList gap, ?_, by simpa using hgap⟩
    rw [Nat.zero_add, Span.slice?_of_split hsource]
  · have hsource : source.toList = [] ++ source.toList := rfl
    have htexts := hlayout.slices_pieces hsource rfl
    rwa [String.ofList_toList] at htexts
  · exact Cursor.next_skip_start source
  · intro c hc
    obtain ⟨front, hat⟩ := Cursor.at_of_advances hc
    refine ⟨?_, hat.offset_le, c.advances_next, hat.advances_finish, fun d => hat.slice?_of_advances⟩
    rw [hat.offset_eq]
    exact Span.isValid_of_split hat.text_eq

end FilterExpr
