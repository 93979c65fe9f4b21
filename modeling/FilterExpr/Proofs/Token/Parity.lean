import FilterExpr.Proofs.Token.Extent
import FilterExpr.Proofs.Token.Layout
import Mathlib.Algebra.Group.Nat.Even
import Mathlib.Data.List.DropRight
import Mathlib.Order.Bounds.Basic

/-!
# FilterExpr.Proofs.Token.Parity

Where a quoted pattern ends and what it holds, told by the backslashes in it. Backslashes in a row take each
other in pairs, so it matters how many of them stand before a quote or a star:

* a quote with an even number of backslashes before it closes the pattern (`ClosesAt`);
* of `n` backslashes in a row, half stand for themselves, and an odd one takes the quote or star behind the
  row; before any other character the odd one stands for itself (`contentsAfter`).

`Ending cs b` says that the reading `b` of the body `cs` ends at the first place where a quote closes it or an
unprintable character breaks it off, or else at the end. There is one such reading (`Ending.unique`), and
it is the one that the scanner finds (`ending_scanBody`).
-/

namespace FilterExpr.Token

open Text

/-! ## Places in a body -/

/-- How many backslashes stand right before the place. -/
def backslashesBefore (cs : List Char) (i : Nat) : Nat :=
  ((cs.take i).rtakeWhile (· == '\\')).length

/-- A quote that is not taken by a backslash. -/
def ClosesAt (cs : List Char) (i : Nat) : Prop :=
  cs[i]? = some '"' ∧ Even (backslashesBefore cs i)

def UnprintableAt (cs : List Char) (i : Nat) : Prop := ∃ c ∈ cs[i]?, isPrintable c = false

instance (cs : List Char) (i : Nat) : Decidable (ClosesAt cs i) :=
  inferInstanceAs (Decidable (_ ∧ _))

instance (cs : List Char) (i : Nat) : Decidable (UnprintableAt cs i) :=
  decidable_of_iff ((cs[i]?).any (fun c => !isPrintable c) = true)
    (by simp [UnprintableAt, Option.any_eq_true])

/-- No place before the `n`-th ends the body. -/
def QuietTo (cs : List Char) (n : Nat) : Prop := ∀ i < n, ¬ClosesAt cs i ∧ ¬UnprintableAt cs i

/-! ## Contents -/

/-- The symbols of a body behind a row of `n` backslashes. The row ends at the first character that is no
backslash, and what it stands for depends on that character. -/
def contentsAfter : Nat → List Char → List Symbol
  | n, [] => List.replicate ((n + 1) / 2) (.char '\\')
  | n, c :: cs =>
    if c = '\\' then contentsAfter (n + 1) cs
    else if c = '*' ∨ c = '"' then
      List.replicate (n / 2) (.char '\\') ++
        if n % 2 = 1 then .char c :: contentsAfter 0 cs
        else if c = '*' then .wildcard :: contentsAfter 0 cs
        else []
    else
      List.replicate ((n + 1) / 2) (.char '\\') ++
        if isPrintable c then .char c :: contentsAfter 0 cs else []

/-- The symbols that a body stands for. -/
def contents (cs : List Char) : List Symbol := contentsAfter 0 cs

/-- Two backslashes stand for one, whatever follows. -/
theorem contentsAfter_add_two (n : Nat) (cs : List Char) :
    contentsAfter (n + 2) cs = .char '\\' :: contentsAfter n cs := by
  have hhalf : (n + 2) / 2 = n / 2 + 1 := by omega
  have hhalf' : (n + 2 + 1) / 2 = (n + 1) / 2 + 1 := by omega
  have hodd : (n + 2) % 2 = n % 2 := by omega
  induction cs generalizing n with
  | nil => simp [contentsAfter, hhalf', List.replicate_succ]
  | cons c cs ih =>
    unfold contentsAfter
    split
    · exact ih (n + 1) (by omega) (by omega) (by omega)
    split
    · simp [hhalf, hodd, List.replicate_succ]
    · simp [hhalf', List.replicate_succ]

/-! ## Readings -/

/-- The reading of a body that ends where it should. -/
inductive Ending (cs : List Char) : Body → Prop where
  | quote {i : Nat} : ClosesAt cs i → QuietTo cs i →
      Ending cs ⟨contents (cs.take (i + 1)), true, cs.take (i + 1), cs.drop (i + 1)⟩
  | unprintable {i : Nat} : UnprintableAt cs i → QuietTo cs i →
      Ending cs ⟨contents (cs.take (i + 1)), false, cs.take (i + 1), cs.drop (i + 1)⟩
  | none : QuietTo cs cs.length → Ending cs ⟨contents cs, false, cs, []⟩

theorem ClosesAt.lt_length {cs : List Char} {i : Nat} (h : ClosesAt cs i) : i < cs.length :=
  (List.getElem?_eq_some_iff.mp h.1).1

theorem UnprintableAt.lt_length {cs : List Char} {i : Nat} (h : UnprintableAt cs i) :
    i < cs.length := by
  obtain ⟨c, hc, _⟩ := h
  exact (List.getElem?_eq_some_iff.mp hc).1

/-- A quote is printable. -/
theorem ClosesAt.not_unprintableAt {cs : List Char} {i : Nat} (h : ClosesAt cs i) :
    ¬UnprintableAt cs i := by
  rintro ⟨c, hc, hprintable⟩
  rw [h.1] at hc
  cases hc
  rw [printable_of_isEscapable (by decide)] at hprintable
  cases hprintable

/-- The first place that ends the body is one place. -/
theorem QuietTo.eq {cs : List Char} {i j : Nat} (hi : QuietTo cs i) (hj : QuietTo cs j)
    (hstop : ClosesAt cs i ∨ UnprintableAt cs i) (hstop' : ClosesAt cs j ∨ UnprintableAt cs j) :
    i = j := by
  rcases Nat.lt_trichotomy i j with hlt | heq | hlt
  · exact absurd hstop (not_or.mpr (hj i hlt))
  · exact heq
  · exact absurd hstop' (not_or.mpr (hi j hlt))

theorem Ending.unique {cs : List Char} {b b' : Body} (h : Ending cs b) (h' : Ending cs b') :
    b = b' := by
  cases h with
  | quote hclose hquiet =>
    cases h' with
    | quote hclose' hquiet' =>
      obtain rfl := hquiet.eq hquiet' (.inl hclose) (.inl hclose')
      rfl
    | unprintable hbad hquiet' =>
      obtain rfl := hquiet.eq hquiet' (.inl hclose) (.inr hbad)
      exact absurd hbad hclose.not_unprintableAt
    | none hnone => exact absurd hclose (hnone _ hclose.lt_length).1
  | unprintable hbad hquiet =>
    cases h' with
    | quote hclose hquiet' =>
      obtain rfl := hquiet.eq hquiet' (.inr hbad) (.inl hclose)
      exact absurd hbad hclose.not_unprintableAt
    | unprintable hbad' hquiet' =>
      obtain rfl := hquiet.eq hquiet' (.inr hbad) (.inr hbad')
      rfl
    | none hnone => exact absurd hbad (hnone _ hbad.lt_length).2
  | none hnone =>
    cases h' with
    | quote hclose _ => exact absurd hclose (hnone _ hclose.lt_length).1
    | unprintable hbad _ => exact absurd hbad (hnone _ hbad.lt_length).2
    | none _ => rfl

/-! ## One symbol more in front -/

/-- Characters in front of a body go on a row of backslashes only if the body starts with that row. -/
theorem backslashesBefore_append (taken cs : List Char) (i : Nat) :
    backslashesBefore (taken ++ cs) (taken.length + i) =
      backslashesBefore cs i +
        if (cs.take i).all (· == '\\') then backslashesBefore taken taken.length else 0 := by
  simp only [backslashesBefore, List.rtakeWhile, List.length_reverse, List.take_length_add_append,
    List.reverse_append, List.take_length, List.takeWhile_append]
  by_cases h : (cs.take i).all (· == '\\') = true
  · have hall : (cs.take i).reverse.takeWhile (· == '\\') = (cs.take i).reverse := by
      rw [List.takeWhile_eq_self_iff]
      intro c hc
      exact List.all_eq_true.mp h c (List.mem_reverse.mp hc)
    rw [if_pos (by rw [hall, List.length_reverse]), if_pos h, List.length_append, hall]
  · have hnot : ¬((cs.take i).reverse.takeWhile (· == '\\')).length = (cs.take i).length := by
      intro hlength
      have hself := (List.takeWhile_prefix (· == '\\')).eq_of_length
        (hlength.trans List.length_reverse.symm)
      apply h
      rw [List.all_eq_true]
      intro c hc
      exact List.takeWhile_eq_self_iff.mp hself c (List.mem_reverse.mpr hc)
    rw [if_neg hnot, if_neg h, Nat.add_zero]

/-- The characters `taken` in front of `cs` stand for the symbol `s`, and the body goes on with `cs`. -/
structure Leads (taken : List Char) (s : Symbol) (cs : List Char) : Prop where
  closesAt_iff : ∀ i, ClosesAt (taken ++ cs) (taken.length + i) ↔ ClosesAt cs i
  quiet : QuietTo (taken ++ cs) taken.length
  contents_eq : ∀ n, contents (taken ++ cs.take n) = s :: contents (cs.take n)

namespace Leads

variable {taken cs : List Char} {s : Symbol}

theorem unprintableAt_iff (taken cs : List Char) (i : Nat) :
    UnprintableAt (taken ++ cs) (taken.length + i) ↔ UnprintableAt cs i := by
  simp [UnprintableAt, List.getElem?_append_right]

theorem quietTo (h : Leads taken s cs) {n : Nat} (hn : QuietTo cs n) :
    QuietTo (taken ++ cs) (taken.length + n) := by
  intro i hi
  by_cases hlt : i < taken.length
  · exact h.quiet i hlt
  · obtain ⟨j, rfl⟩ := Nat.exists_eq_add_of_le (Nat.le_of_not_lt hlt)
    rw [h.closesAt_iff, unprintableAt_iff]
    exact hn j (by omega)

theorem ending (h : Leads taken s cs) {b : Body} (hb : Ending cs b) :
    Ending (taken ++ cs) (b.cons taken s) := by
  cases hb with
  | @quote i hclose hquiet =>
    have hlead := Ending.quote ((h.closesAt_iff i).mpr hclose) (h.quietTo hquiet)
    rw [Nat.add_assoc, List.take_length_add_append, List.drop_length_add_append, h.contents_eq]
      at hlead
    exact hlead
  | @unprintable i hbad hquiet =>
    have hlead := Ending.unprintable ((unprintableAt_iff taken cs i).mpr hbad) (h.quietTo hquiet)
    rw [Nat.add_assoc, List.take_length_add_append, List.drop_length_add_append, h.contents_eq]
      at hlead
    exact hlead
  | none hquiet =>
    have hlead := h.quietTo hquiet
    rw [← List.length_append] at hlead
    have hcontents := h.contents_eq cs.length
    rw [List.take_length] at hcontents
    simpa [Body.cons, hcontents] using Ending.none hlead

/-- A row of backslashes that goes on into `taken` keeps its parity. -/
theorem closesAt_iff_of_even (h : Even (backslashesBefore taken taken.length)) (i : Nat) :
    ClosesAt (taken ++ cs) (taken.length + i) ↔ ClosesAt cs i := by
  rw [ClosesAt, ClosesAt, List.getElem?_append_right (Nat.le_add_right _ _),
    Nat.add_sub_cancel_left, backslashesBefore_append]
  split
  · rw [Nat.even_add]
    simp [h]
  · rw [Nat.add_zero]

/-- A character that is no backslash and no quote. -/
theorem single {c : Char} (hbackslash : c ≠ '\\') (hquote : c ≠ '"') (hc : isPrintable c = true) :
    Leads [c] (if c = '*' then .wildcard else .char c) cs where
  closesAt_iff := closesAt_iff_of_even (by simp [backslashesBefore, List.rtakeWhile, hbackslash])
  quiet := by
    intro i hi
    obtain rfl : i = 0 := by simpa using hi
    simp [ClosesAt, UnprintableAt, hquote, hc]
  contents_eq := by
    intro n
    by_cases hstar : c = '*' <;> simp [contents, contentsAfter, hbackslash, hquote, hstar, hc]

/-- A backslash with the character that it takes. -/
theorem escape {c : Char} (hc : isEscapable c = true) : Leads ['\\', c] (.char c) cs where
  closesAt_iff := by
    refine closesAt_iff_of_even ?_
    by_cases hbackslash : c = '\\'
    · subst hbackslash
      decide
    · simp [backslashesBefore, List.rtakeWhile, hbackslash]
  quiet := by
    have hprintable := printable_of_isEscapable hc
    have hbackslash : isPrintable '\\' = true := printable_of_isEscapable (by decide)
    intro i hi
    have hi : i = 0 ∨ i = 1 := by
      simp at hi
      omega
    rcases hi with rfl | rfl
    · simp [ClosesAt, UnprintableAt, hbackslash]
    · simp [ClosesAt, UnprintableAt, hprintable, backslashesBefore, List.rtakeWhile]
  contents_eq := by
    intro n
    by_cases hbackslash : c = '\\'
    · simp [contents, contentsAfter, hbackslash, contentsAfter_add_two]
    · have hspecial : c = '*' ∨ c = '"' := by
        simp only [isEscapable, Bool.or_eq_true, beq_iff_eq] at hc
        tauto
      simp [contents, contentsAfter, hbackslash, hspecial]

/-- A backslash with nothing to take. -/
theorem backslash (h : ∀ c ∈ cs.head?, isEscapable c = false) : Leads ['\\'] (.char '\\') cs where
  closesAt_iff := by
    intro i
    cases cs with
    | nil => simp [ClosesAt]
    | cons d ds =>
      have hd : d ≠ '\\' ∧ d ≠ '"' := by
        constructor <;> (rintro rfl; exact absurd (h _ rfl) (by decide))
      cases i with
      | zero => simp [ClosesAt, hd.2]
      | succ i =>
        rw [ClosesAt, ClosesAt, List.getElem?_append_right (Nat.le_add_right _ _),
          Nat.add_sub_cancel_left, backslashesBefore_append]
        simp [hd.1]
  quiet := by
    have hbackslash : isPrintable '\\' = true := printable_of_isEscapable (by decide)
    intro i hi
    obtain rfl : i = 0 := by simpa using hi
    simp [ClosesAt, UnprintableAt, hbackslash]
  contents_eq := by
    intro n
    cases cs with
    | nil => simp [contents, contentsAfter]
    | cons d ds =>
      cases n with
      | zero => simp [contents, contentsAfter]
      | succ n =>
        have hd := h d rfl
        simp only [isEscapable, Bool.or_eq_false_iff, beq_eq_false_iff_ne] at hd
        simp [contents, contentsAfter, hd]

end Leads

/-- By induction on the units of the body: characters, escapes and backslashes that take nothing. -/
theorem ending_scanBody (cs : List Char) : Ending cs (scanBody cs) := by
  have hnothing (c : Char) (cs : List Char) : QuietTo (c :: cs) 0 := fun i hi => absurd hi (by omega)
  fun_induction scanBody cs with
  | case1 => exact .none fun i hi => absurd hi (by simp)
  | case2 cs => exact .quote (i := 0) (by simp [ClosesAt, backslashesBefore]) (hnothing _ _)
  | case3 cs _ ih =>
    have hstar : isPrintable '*' = true := printable_of_isEscapable (by decide)
    exact (Leads.single (by decide) (by decide) hstar).ending ih
  | case4 =>
    have hlead : Leads ['\\'] (.char '\\') [] := .backslash (by simp)
    exact hlead.ending (.none fun i hi => absurd hi (by simp))
  | case5 d ds hd _ _ ih => exact (Leads.escape hd).ending ih
  | case6 d ds hd _ _ ih => exact (Leads.backslash (by simpa using hd)).ending ih
  | case7 c cs hquote hstar hbackslash hc ih =>
    have hlead := (Leads.single hbackslash hquote hc).ending ih
    rwa [if_neg hstar] at hlead
  | case8 c cs hquote hstar hbackslash hc =>
    have hcontents : contents [c] = [] := by
      simp [contents, contentsAfter, hquote, hstar, hbackslash, hc]
    have hbad : UnprintableAt (c :: cs) 0 := by simpa [UnprintableAt] using hc
    have hending := Ending.unprintable hbad (hnothing c cs)
    simp only [List.take_succ_cons, List.take_zero, List.drop_succ_cons, List.drop_zero,
      hcontents] at hending
    exact hending

/-! ## Tokens -/

/-- The token with this reading of its body. -/
theorem StartsAt.eq_of_ending {source : String} {front body : List Char} {t : Token} {b : Body}
    (h : StartsAt source front ('"' :: body) t) (hb : Ending body b) :
    t = ⟨if b.closed then .string ⟨b.symbols⟩ else .illegal (Pattern.text ⟨b.symbols⟩),
      ⟨byteLength front, byteLength front + byteLength ('"' :: b.text)⟩⟩ := by
  rw [h.eq_scan, scan_string, scanString, hb.unique (ending_scanBody body)]

/-- A token that starts with a quote ends with the first quote that closes `body`, the text behind it, and is
a string. If an unprintable character comes before, the token ends there and is illegal. With neither
it is illegal and runs to the end of the text. -/
theorem quoted_token_by_parity {source : String} {front body : List Char} {t : Token}
    (h : StartsAt source front ('"' :: body) t) :
    (∀ q, IsLeast {i | ClosesAt body i} q → (∀ x, UnprintableAt body x → q < x) →
      t = ⟨.string ⟨contents (body.take (q + 1))⟩,
        ⟨byteLength front, byteLength front + byteLength ('"' :: body.take (q + 1))⟩⟩) ∧
    (∀ x, IsLeast {i | UnprintableAt body i} x → (∀ q, ClosesAt body q → x < q) →
      t = ⟨.illegal (Pattern.text ⟨contents (body.take (x + 1))⟩),
        ⟨byteLength front, byteLength front + byteLength ('"' :: body.take (x + 1))⟩⟩) ∧
    ((∀ q, ¬ClosesAt body q) → (∀ x, ¬UnprintableAt body x) →
      t = ⟨.illegal (Pattern.text ⟨contents body⟩), ⟨byteLength front, source.utf8ByteSize⟩⟩) := by
  refine ⟨?_, ?_, ?_⟩
  · intro q hq hx
    have hquiet : QuietTo body q := by
      intro i hi
      refine ⟨fun hclose => ?_, fun hbad => ?_⟩
      · have := hq.2 hclose
        omega
      · have := hx i hbad
        omega
    exact h.eq_of_ending (.quote hq.1 hquiet)
  · intro x hx hq
    have hquiet : QuietTo body x := by
      intro i hi
      refine ⟨fun hclose => ?_, fun hbad => ?_⟩
      · have := hq i hclose
        omega
      · have := hx.2 hbad
        omega
    exact h.eq_of_ending (.unprintable hx.1 hquiet)
  · intro hq hx
    have hstop : byteLength front + byteLength ('"' :: body) = source.utf8ByteSize := by
      rw [← byteLength_append, ← h.text_eq, byteLength_toList]
    rw [h.eq_of_ending (.none fun i _ => ⟨hq i, hx i⟩), hstop]
    rfl

/-- Three backslashes before the first quote, two before the one that closes. -/
theorem quoted_token_by_parity_odd_and_even :
    StartsAt "eq(a,\"\\\\\\\"*\\\\\")" "eq(a,".toList ('"' :: "\\\\\\\"*\\\\\")".toList)
      ⟨.string ⟨[.char '\\', .char '"', .wildcard, .char '\\']⟩, ⟨5, 14⟩⟩ ∧
    IsLeast {i | ClosesAt "\\\\\\\"*\\\\\")".toList i} 7 ∧
    (∀ x, UnprintableAt "\\\\\\\"*\\\\\")".toList x → 7 < x) ∧
    Token.mk (.string ⟨[.char '\\', .char '"', .wildcard, .char '\\']⟩) ⟨5, 14⟩ =
      ⟨.string ⟨contents ("\\\\\\\"*\\\\\")".toList.take 8)⟩,
        ⟨5, 5 + byteLength ('"' :: "\\\\\\\"*\\\\\")".toList.take 8)⟩⟩ := by
  have hbody : (∀ i < 7, ¬ClosesAt "\\\\\\\"*\\\\\")".toList i) ∧
      (∀ i < 8, ¬UnprintableAt "\\\\\\\"*\\\\\")".toList i) ∧
      ⟨.string ⟨[.char '\\', .char '"', .wildcard, .char '\\']⟩, ⟨5, 14⟩⟩ ∈
        tokenize "eq(a,\"\\\\\\\"*\\\\\")" := by decide +kernel
  obtain ⟨hopen, hprintable, hmem⟩ := hbody
  have hstart : StartsAt "eq(a,\"\\\\\\\"*\\\\\")" "eq(a,".toList
      ('"' :: "\\\\\\\"*\\\\\")".toList) _ := ⟨hmem, rfl, rfl⟩
  have hleast : IsLeast {i | ClosesAt "\\\\\\\"*\\\\\")".toList i} 7 :=
    ⟨by decide, fun i hi => Nat.le_of_not_lt fun hlt => hopen i hlt hi⟩
  have hbad : ∀ x, UnprintableAt "\\\\\\\"*\\\\\")".toList x → 7 < x :=
    fun x hx => Nat.lt_of_not_le fun hle => hprintable x (by omega) hx
  exact ⟨hstart, hleast, hbad, (quoted_token_by_parity hstart).1 7 hleast hbad⟩

end FilterExpr.Token
