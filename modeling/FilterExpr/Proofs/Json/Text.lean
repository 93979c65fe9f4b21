import FilterExpr.Proofs.Json.Escapes

/-!
# FilterExpr.Proofs.Json.Text

JSON texts and the values they denote. A text is a sequence of tokens, strings and punctuation, with
blanks around them that do not count (`HasTokens`). `Json.tokens` lists the tokens of a value, and
`Denotes` says that the tokens of a text are those of a value.

* `hasTokens_cons_iff`: the tokens of a text are found from the front, one after the other, so that it
  has one sequence of them at most (`HasTokens.unique`).
* `tokens_cancel`: the tokens of a value can be told from whatever follows them, so that a text denotes
  one value at most.
* `spells_compact` and `spells_prettyAt`: the text of a value spells its tokens, without blanks and with
  one item a line.
-/

namespace FilterExpr.Json

/-- Induction over values, with the hypothesis for every item of an array and every member of an
object. -/
theorem induction {P : Json → Prop} (string : ∀ text, P (.string text))
    (array : ∀ items, (∀ j ∈ items, P j) → P (.array items))
    (object : ∀ members, (∀ m ∈ members, P m.2) → P (.object members)) (j : Json) : P j :=
  @Json.rec P (fun items => ∀ j ∈ items, P j) (fun members => ∀ m ∈ members, P m.2)
    (fun m => P m.2) string array object
    (fun _ h => nomatch h)
    (fun _ _ ihj ihs _ h => (List.mem_cons.mp h).elim (fun hj => hj ▸ ihj) (ihs _))
    (fun _ h => nomatch h)
    (fun _ _ ihm ihs _ h => (List.mem_cons.mp h).elim (fun hm => hm ▸ ihm) (ihs _))
    (fun _ _ ih => ih)
    j

/-! ## Tokens of a text -/

inductive Token where
  | string (text : String)
  | leftBracket
  | rightBracket
  | leftBrace
  | rightBrace
  | comma
  | colon
  deriving DecidableEq, Repr

/-- The characters of the punctuation. -/
def signs : List (Char × Token) :=
  [('[', .leftBracket), (']', .rightBracket), ('\x7b', .leftBrace), ('\x7d', .rightBrace),
   (',', .comma), (':', .colon)]

/-- The characters consist of the tokens, with blanks between them. -/
inductive HasTokens : List Char → List Token → Prop where
  | nil : HasTokens [] []
  | blank {c : Char} {cs : List Char} {ts : List Token} : c ∈ [' ', '\n', '\t', '\r'] →
      HasTokens cs ts → HasTokens (c :: cs) ts
  | sign {c : Char} {t : Token} {cs : List Char} {ts : List Token} : (c, t) ∈ signs →
      HasTokens cs ts → HasTokens (c :: cs) (t :: ts)
  | string {body cs : List Char} {text : String} {ts : List Token} : WritesAll body text.toList →
      HasTokens cs ts → HasTokens ('"' :: (body ++ '"' :: cs)) (.string text :: ts)

/-- The character that a token starts with. -/
def Token.head : Token → Char
  | .string _ => '"'
  | .leftBracket => '['
  | .rightBracket => ']'
  | .leftBrace => '\x7b'
  | .rightBrace => '\x7d'
  | .comma => ','
  | .colon => ':'

/-- What is left of a text behind a token whose first character has been taken: a string goes on up to its
closing quote. -/
def Token.Leaves : Token → List Char → List Char → Prop
  | .string text, cs, rest => readText cs = .ok (text.toList, rest)
  | _, cs, rest => rest = cs

theorem Token.leaves_sign {c : Char} {t : Token} (h : (c, t) ∈ signs) :
    c = t.head ∧ ∀ cs, t.Leaves cs cs := by
  simp only [signs, List.mem_cons, Prod.mk.injEq, List.not_mem_nil, or_false] at h
  rcases h with ⟨rfl, rfl⟩ | ⟨rfl, rfl⟩ | ⟨rfl, rfl⟩ | ⟨rfl, rfl⟩ | ⟨rfl, rfl⟩ | ⟨rfl, rfl⟩
  all_goals exact ⟨rfl, fun _ => rfl⟩

theorem Token.not_isBlank_head (t : Token) : ¬isBlank t.head = true := by
  cases t <;> simp [Token.head, isBlank]

theorem mem_blanks_iff {c : Char} : c ∈ [' ', '\n', '\t', '\r'] ↔ isBlank c = true := by
  simp [isBlank, or_assoc]

theorem skipBlanks_blank {c : Char} (h : isBlank c = true) (cs : List Char) :
    skipBlanks (c :: cs) = skipBlanks cs :=
  List.dropWhile_cons_of_pos h

theorem skipBlanks_head (t : Token) (cs : List Char) :
    skipBlanks (t.head :: cs) = t.head :: cs :=
  List.dropWhile_cons_of_neg t.not_isBlank_head

theorem HasTokens.of_skipBlanks {cs : List Char} {ts : List Token}
    (h : HasTokens (skipBlanks cs) ts) : HasTokens cs ts := by
  induction cs with
  | nil => exact h
  | cons c cs ih =>
    by_cases hc : isBlank c = true
    · rw [skipBlanks_blank hc] at h
      exact .blank (mem_blanks_iff.mpr hc) (ih h)
    · rw [skipBlanks, List.dropWhile_cons_of_neg hc] at h
      exact h

theorem HasTokens.of_head {t : Token} {after rest : List Char} {ts : List Token}
    (h : t.Leaves after rest) (hrest : HasTokens rest ts) : HasTokens (t.head :: after) (t :: ts) := by
  cases t with
  | string text =>
    obtain ⟨body, rfl, hbody⟩ := readText_eq_ok_iff.mp h
    exact .string hbody hrest
  | _ =>
    cases h
    exact .sign (by simp [Token.head, signs]) hrest

/-- A sequence of tokens is read from the front, one token after the other. -/
theorem hasTokens_cons_iff {cs : List Char} {t : Token} {ts : List Token} :
    HasTokens cs (t :: ts) ↔
      ∃ after rest, skipBlanks cs = t.head :: after ∧ t.Leaves after rest ∧ HasTokens rest ts := by
  constructor
  · intro h
    generalize hall : t :: ts = all at h
    induction h with
    | nil => cases hall
    | blank hc _ ih =>
      rw [skipBlanks_blank (mem_blanks_iff.mp hc)]
      exact ih hall
    | @sign c _ cs _ hsign hrest _ =>
      cases hall
      obtain ⟨rfl, hleaves⟩ := Token.leaves_sign hsign
      exact ⟨cs, cs, skipBlanks_head t cs, hleaves cs, hrest⟩
    | @string body cs text _ hbody hrest _ =>
      cases hall
      refine ⟨body ++ '"' :: cs, cs, skipBlanks_head (.string text) _, ?_, hrest⟩
      exact readText_eq_ok_iff.mpr ⟨body, rfl, hbody⟩
  · rintro ⟨after, rest, hskip, hleaves, hrest⟩
    apply HasTokens.of_skipBlanks
    rw [hskip]
    exact .of_head hleaves hrest

theorem hasTokens_nil_iff {cs : List Char} : HasTokens cs [] ↔ skipBlanks cs = [] := by
  constructor
  · intro h
    generalize hall : ([] : List Token) = all at h
    induction h with
    | nil => rfl
    | blank hc _ ih =>
      rw [skipBlanks_blank (mem_blanks_iff.mp hc)]
      exact ih hall
    | sign => cases hall
    | string => cases hall
  · intro h
    apply HasTokens.of_skipBlanks
    rw [h]
    exact .nil

theorem Token.eq_of_leaves {t u : Token} {after rest rest' : List Char} (hhead : t.head = u.head)
    (ht : t.Leaves after rest) (hu : u.Leaves after rest') : t = u ∧ rest = rest' := by
  cases t with
  | string text =>
    cases u with
    | string text' =>
      rw [Token.Leaves] at ht hu
      rw [ht, Except.ok.injEq, Prod.mk.injEq] at hu
      exact ⟨congrArg _ (String.toList_inj.mp hu.1), hu.2⟩
    | _ => simp [Token.head] at hhead
  | _ => cases u <;> simp_all [Token.head, Token.Leaves]

/-- By induction on the tokens: the front of the text tells the first one and what is left behind it. -/
theorem HasTokens.unique {ts : List Token} : ∀ {us : List Token} {cs : List Char},
    HasTokens cs ts → HasTokens cs us → ts = us := by
  induction ts with
  | nil =>
    intro us cs hts hus
    cases us with
    | nil => rfl
    | cons u us =>
      obtain ⟨after, _, hskip, _⟩ := hasTokens_cons_iff.mp hus
      rw [hasTokens_nil_iff.mp hts] at hskip
      cases hskip
  | cons t ts ih =>
    intro us cs hts hus
    obtain ⟨after, rest, hskip, hleaves, hrest⟩ := hasTokens_cons_iff.mp hts
    cases us with
    | nil =>
      rw [hasTokens_nil_iff.mp hus] at hskip
      cases hskip
    | cons u us =>
      obtain ⟨after', rest', hskip', hleaves', hrest'⟩ := hasTokens_cons_iff.mp hus
      rw [hskip, List.cons.injEq] at hskip'
      obtain ⟨hhead, rfl⟩ := hskip'
      obtain ⟨rfl, rfl⟩ := Token.eq_of_leaves hhead hleaves hleaves'
      rw [ih hrest hrest']

/-! ## Tokens of a value -/

mutual

def tokens : Json → List Token
  | .string text => [.string text]
  | .array items => .leftBracket :: ([Token.comma].intercalate (itemTokens items) ++ [.rightBracket])
  | .object members =>
    .leftBrace :: ([Token.comma].intercalate (memberTokens members) ++ [.rightBrace])

/-- The tokens of each item. -/
def itemTokens : List Json → List (List Token)
  | [] => []
  | item :: items => item.tokens :: itemTokens items

/-- The tokens of each member. -/
def memberTokens : List (String × Json) → List (List Token)
  | [] => []
  | member :: members => entryTokens member :: memberTokens members

def entryTokens : String × Json → List Token
  | (key, value) => .string key :: .colon :: value.tokens

end

theorem itemTokens_eq_map (items : List Json) : itemTokens items = items.map tokens := by
  induction items with
  | nil => rfl
  | cons item items ih => rw [itemTokens, ih, List.map_cons]

theorem memberTokens_eq_map (members : List (String × Json)) :
    memberTokens members = members.map entryTokens := by
  induction members with
  | nil => rfl
  | cons member members ih => rw [memberTokens, ih, List.map_cons]

/-- A text denotes the value whose tokens it consists of. -/
def Denotes (text : String) (j : Json) : Prop := HasTokens text.toList j.tokens

/-! ## One value for a text -/

section Separated

variable {α : Type} {word : α → List Token} {close : Token}

theorem intercalate_cons {sep : Token} (w : List Token) (ws : List (List Token)) :
    [sep].intercalate (w :: ws) = w ++ ws.flatMap (sep :: ·) := by
  induction ws generalizing w with
  | nil => simp
  | cons v ws ih => simp [List.intercalate_cons_cons, ih]

/-- The words of `x` are told apart from what follows. -/
def Separable (word : α → List Token) (x : α) : Prop :=
  ∀ (y : α) (r s : List Token), word x ++ r = word y ++ s → x = y ∧ r = s

/-- By induction on the words: a comma leads on to one more of them, and the closing token to none. -/
theorem flatMap_cancel (hclose : close ≠ .comma) {xs : List α} :
    ∀ {ys : List α} {r s : List Token}, (∀ x ∈ xs, Separable word x) →
      (xs.map word).flatMap (.comma :: ·) ++ close :: r =
        (ys.map word).flatMap (.comma :: ·) ++ close :: s → xs = ys ∧ r = s := by
  induction xs with
  | nil =>
    intro ys r s _ h
    cases ys with
    | nil => exact ⟨rfl, (List.cons.inj h).2⟩
    | cons y ys => exact absurd (List.cons.inj h).1 hclose
  | cons x xs ih =>
    intro ys r s hread h
    rw [List.forall_mem_cons] at hread
    cases ys with
    | nil => exact absurd (List.cons.inj h).1.symm hclose
    | cons y ys =>
      simp only [List.map_cons, List.flatMap_cons, List.cons_append, List.append_assoc] at h
      obtain ⟨hxy, hrest⟩ := hread.1 y _ _ (List.cons.inj h).2
      obtain ⟨hxs, hrs⟩ := ih hread.2 hrest
      exact ⟨by rw [hxy, hxs], hrs⟩

/-- Words set off by commas, up to a closing token that none of them starts with. -/
theorem intercalate_cancel (hclose : close ≠ .comma) (hstart : ∀ x, ∃ t ts, word x = t :: ts ∧ t ≠ close)
    {xs ys : List α} {r s : List Token} (hread : ∀ x ∈ xs, Separable word x)
    (h : [Token.comma].intercalate (xs.map word) ++ close :: r =
      [Token.comma].intercalate (ys.map word) ++ close :: s) : xs = ys ∧ r = s := by
  cases xs with
  | nil =>
    cases ys with
    | nil => exact ⟨rfl, (List.cons.inj h).2⟩
    | cons y ys =>
      obtain ⟨t, ts, hword, hne⟩ := hstart y
      rw [List.map_cons, intercalate_cons, hword] at h
      exact absurd (List.cons.inj h).1.symm hne
  | cons x xs =>
    cases ys with
    | nil =>
      obtain ⟨t, ts, hword, hne⟩ := hstart x
      rw [List.map_cons, intercalate_cons, hword] at h
      exact absurd (List.cons.inj h).1 hne
    | cons y ys =>
      rw [List.forall_mem_cons] at hread
      simp only [List.map_cons, intercalate_cons, List.append_assoc] at h
      obtain ⟨hxy, hrest⟩ := hread.1 y _ _ h
      obtain ⟨hxs, hrs⟩ := flatMap_cancel hclose hread.2 hrest
      exact ⟨by rw [hxy, hxs], hrs⟩

end Separated

theorem tokens_start (j : Json) :
    ∃ t ts, j.tokens = t :: ts ∧ t ≠ .rightBracket ∧ t ≠ .rightBrace := by
  cases j with
  | string text => exact ⟨_, _, rfl, by simp, by simp⟩
  | array items => exact ⟨_, _, rfl, by simp, by simp⟩
  | object members => exact ⟨_, _, rfl, by simp, by simp⟩

theorem separable_entryTokens {m : String × Json} (h : Separable tokens m.2) :
    Separable entryTokens m := by
  intro n r s hmn
  obtain ⟨key, value⟩ := m
  obtain ⟨key', value'⟩ := n
  simp only [entryTokens, List.cons_append, List.cons.injEq, Token.string.injEq, true_and] at hmn
  obtain ⟨hvalue, hrs⟩ := h value' r s hmn.2
  exact ⟨Prod.ext hmn.1 hvalue, hrs⟩

theorem tokens_cancel (j : Json) : Separable tokens j := by
  induction j using induction with
  | string text =>
    intro k r s h
    cases k with
    | string text' =>
      simp only [tokens, List.cons_append, List.nil_append, List.cons.injEq,
        Token.string.injEq] at h
      exact ⟨by rw [h.1], h.2⟩
    | array items => simp [tokens] at h
    | object members => simp [tokens] at h
  | array items ih =>
    intro k r s h
    cases k with
    | string text => simp [tokens] at h
    | array items' =>
      simp only [tokens, itemTokens_eq_map, List.cons_append, List.append_assoc, List.nil_append,
        List.cons.injEq, true_and] at h
      have hstart (x : Json) : ∃ t ts, x.tokens = t :: ts ∧ t ≠ .rightBracket := by
        obtain ⟨t, ts, htokens, hne, _⟩ := x.tokens_start
        exact ⟨t, ts, htokens, hne⟩
      obtain ⟨hitems, hrs⟩ := intercalate_cancel (by simp) hstart ih h
      exact ⟨by rw [hitems], hrs⟩
    | object members => simp [tokens] at h
  | object members ih =>
    intro k r s h
    cases k with
    | string text => simp [tokens] at h
    | array items => simp [tokens] at h
    | object members' =>
      simp only [tokens, memberTokens_eq_map, List.cons_append, List.append_assoc, List.nil_append,
        List.cons.injEq, true_and] at h
      have hstart (m : String × Json) : ∃ t ts, entryTokens m = t :: ts ∧ t ≠ .rightBrace := by
        obtain ⟨key, value⟩ := m
        exact ⟨.string key, .colon :: value.tokens, rfl, by simp⟩
      obtain ⟨hmembers, hrs⟩ := intercalate_cancel (by simp) hstart
        (fun m hm => separable_entryTokens (ih m hm)) h
      exact ⟨by rw [hmembers], hrs⟩

theorem eq_of_tokens_eq {j k : Json} (h : j.tokens = k.tokens) : j = k :=
  (j.tokens_cancel k [] [] (by rw [h])).1

/-! ## Spelling tokens -/

/-- The characters spell the tokens, whatever text follows. -/
def Spells (cs : List Char) (ts : List Token) : Prop :=
  ∀ rest us, HasTokens rest us → HasTokens (cs ++ rest) (ts ++ us)

theorem Spells.nil : Spells [] [] := fun _ _ h => h

theorem Spells.append {cs ds : List Char} {ts us : List Token} (hcs : Spells cs ts)
    (hds : Spells ds us) : Spells (cs ++ ds) (ts ++ us) := by
  intro rest vs h
  rw [List.append_assoc, List.append_assoc]
  exact hcs _ _ (hds _ _ h)

theorem Spells.denotes_iff {text : String} {j k : Json} (h : Spells text.toList j.tokens) :
    Denotes text k ↔ k = j := by
  have htokens := h [] [] .nil
  rw [List.append_nil, List.append_nil] at htokens
  constructor
  · intro hk
    exact eq_of_tokens_eq (HasTokens.unique hk htokens)
  · rintro rfl
    exact htokens

theorem spells_blanks {cs : List Char} (h : ∀ c ∈ cs, c ∈ [' ', '\n', '\t', '\r']) : Spells cs [] := by
  intro rest us hrest
  induction cs with
  | nil => exact hrest
  | cons c cs ih =>
    rw [List.forall_mem_cons] at h
    exact .blank h.1 (ih h.2)

theorem spells_newline (level : Nat) : Spells (newline level).toList [] := by
  apply spells_blanks
  intro c hc
  rw [newline, String.toList_ofList, List.mem_cons, List.mem_replicate] at hc
  rcases hc with rfl | ⟨_, rfl⟩
  · simp
  · simp

theorem spells_sign (t : Token) (h : (t.head, t) ∈ signs) : Spells [t.head] [t] :=
  fun _ _ hrest => .sign h hrest

theorem spells_quote (text : String) : Spells (quote text).toList [.string text] := by
  intro rest us hrest
  rw [quote, String.toList_ofList, List.cons_append, List.cons_append, List.append_assoc]
  exact .string (writesAll_written text.toList) hrest

/-! ## Written values -/

/-- Things that are written one by one, with a comma between two of them. -/
theorem spells_writeAll {α : Type} (writeAll : List α → String) (write : α → String)
    (hnil : writeAll [] = "") (hone : ∀ x, writeAll [x] = write x)
    (hcons : ∀ x y ys, writeAll (x :: y :: ys) = write x ++ "," ++ writeAll (y :: ys))
    {word : α → List Token} {xs : List α} (h : ∀ x ∈ xs, Spells (write x).toList (word x)) :
    Spells (writeAll xs).toList ([Token.comma].intercalate (xs.map word)) := by
  induction xs with
  | nil =>
    rw [hnil]
    exact .nil
  | cons x xs ih =>
    rw [List.forall_mem_cons] at h
    cases xs with
    | nil =>
      rw [hone, List.map_cons, List.map_nil, List.intercalate_singleton]
      exact h.1
    | cons y ys =>
      rw [hcons, String.toList_append, String.toList_append, List.map_cons, List.map_cons,
        List.intercalate_cons_cons]
      exact (h.1.append (spells_sign .comma (by decide))).append (ih h.2)

theorem spells_compact (j : Json) : Spells j.compact.toList j.tokens := by
  induction j using induction with
  | string text => exact spells_quote text
  | array items ih =>
    have hitems := spells_writeAll compactItems compact rfl (fun _ => rfl) (fun _ _ _ => rfl) ih
    rw [← itemTokens_eq_map] at hitems
    rw [compact, tokens, String.toList_append, String.toList_append]
    exact ((spells_sign .leftBracket (by decide)).append hitems).append (spells_sign .rightBracket (by decide))
  | object members ih =>
    have hmember : ∀ m ∈ members, Spells (compactMember m).toList (entryTokens m) := by
      rintro ⟨key, value⟩ hm
      rw [compactMember, String.toList_append, String.toList_append]
      exact ((spells_quote key).append (spells_sign .colon (by decide))).append (ih _ hm)
    have hmembers :=
      spells_writeAll compactMembers compactMember rfl (fun _ => rfl) (fun _ _ _ => rfl) hmember
    rw [← memberTokens_eq_map] at hmembers
    rw [compact, tokens, String.toList_append, String.toList_append]
    exact ((spells_sign .leftBrace (by decide)).append hmembers).append
      (spells_sign .rightBrace (by decide))

theorem denotes_compact (j : Json) : Denotes j.compact j :=
  j.spells_compact.denotes_iff.mpr rfl

/-- Line breaks and indents are blanks, so that the tokens are those of the text without them. -/
theorem spells_prettyAt (j : Json) : ∀ level, Spells (j.prettyAt level).toList j.tokens := by
  induction j using induction with
  | string text =>
    intro level
    exact spells_quote text
  | array items ih =>
    intro level
    have hitem : ∀ j ∈ items, Spells (newline (level + 1) ++ j.prettyAt (level + 1)).toList j.tokens := by
      intro j hj
      rw [String.toList_append]
      exact (spells_newline _).append (ih j hj _)
    have hitems :=
      spells_writeAll (prettyItems (level + 1)) _ rfl (fun _ => rfl) (fun _ _ _ => rfl) hitem
    rw [← itemTokens_eq_map] at hitems
    cases items with
    | nil =>
      rw [prettyAt, tokens, itemTokens, List.intercalate_nil]
      exact (spells_sign .leftBracket (by decide)).append (spells_sign .rightBracket (by decide))
    | cons item items =>
      have hend := (spells_newline level).append (spells_sign .rightBracket (by decide))
      simp only [prettyAt, tokens, String.toList_append, List.append_assoc]
      exact (spells_sign .leftBracket (by decide)).append (hitems.append hend)
  | object members ih =>
    intro level
    have hmember : ∀ m ∈ members,
        Spells (newline (level + 1) ++ prettyMember (level + 1) m).toList (entryTokens m) := by
      rintro ⟨key, value⟩ hm
      have hspace : Spells [' '] [] := spells_blanks (by simp)
      have hcolon := (spells_sign .colon (by decide)).append hspace
      simp only [prettyMember, String.toList_append, List.append_assoc]
      exact (spells_newline _).append ((spells_quote key).append (hcolon.append (ih _ hm _)))
    have hmembers :=
      spells_writeAll (prettyMembers (level + 1)) _ rfl (fun _ => rfl) (fun _ _ _ => rfl) hmember
    rw [← memberTokens_eq_map] at hmembers
    cases members with
    | nil =>
      rw [prettyAt, tokens, memberTokens, List.intercalate_nil]
      exact (spells_sign .leftBrace (by decide)).append (spells_sign .rightBrace (by decide))
    | cons member members =>
      have hend := (spells_newline level).append (spells_sign .rightBrace (by decide))
      simp only [prettyAt, tokens, String.toList_append, List.append_assoc]
      exact (spells_sign .leftBrace (by decide)).append (hmembers.append hend)

end FilterExpr.Json
