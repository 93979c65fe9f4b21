import FilterExpr.Proofs.Json.Text
import Mathlib.Data.String.Basic

/-!
# FilterExpr.Proofs.Json.Strings

Reading objects of strings. Each reader takes the tokens of what it reads off the front of a text, and is
characterised by them: `hasTokens_string_iff` for one string, `hasTokens_entry_iff` for a member and
`hasTokens_members_iff` for the members up to the closing brace. So the members of a text are read exactly if
the text denotes the object that lists them (`readStrings_eq_ok_iff`), whatever blanks it has and however
its characters are escaped.
-/

namespace FilterExpr.Json

/-- The object whose members are pairs of strings, in the order of the list. -/
def listing (pairs : List (String × String)) : Json :=
  .object (pairs.map fun (key, value) => (key, .string value))

/-! ## Strings and members -/

theorem readString_eq_ok_iff {cs rest : List Char} {value : String} :
    readString cs = .ok (value, rest) ↔
      ∃ after, skipBlanks cs = '"' :: after ∧ readText after = .ok (value.toList, rest) := by
  fun_cases readString cs with
  | case1 after hquote text rest' hread => simp [hquote, hread, String.ofList_eq]
  | case2 after hquote e herror => simp [hquote, herror]
  | case3 hquote =>
    simp only [reduceCtorEq, false_iff]
    rintro ⟨after, h, _⟩
    exact hquote after h

theorem readMember_eq_ok_iff {cs rest : List Char} {key value : String} :
    readMember cs = .ok ((key, value), rest) ↔
      ∃ mid after, readText cs = .ok (key.toList, mid) ∧ skipBlanks mid = ':' :: after ∧
        readString after = .ok (value, rest) := by
  fun_cases readMember cs with
  | case1 e herror => simp [herror]
  | case2 text mid hread after hcolon value' rest' hvalue =>
    simp [hread, hcolon, hvalue, String.ofList_eq, and_assoc]
  | case3 text mid hread after hcolon e herror => simp [hread, hcolon, herror]
  | case4 text mid hread hcolon =>
    simp only [hread, reduceCtorEq, Except.ok.injEq, Prod.mk.injEq, false_iff]
    rintro ⟨_, after, ⟨_, rfl⟩, h, _⟩
    exact hcolon after h

/-- After a member there is the closing brace, or a comma and further members. -/
theorem readMembers_eq_ok_iff {cs rest : List Char} {pairs : List (String × String)} :
    readMembers cs = .ok (pairs, rest) ↔
      ∃ pair mid, readMember cs = .ok (pair, mid) ∧
        ([pair] = pairs ∧ skipBlanks mid = '\x7d' :: rest ∨
          ∃ after body more, skipBlanks mid = ',' :: after ∧ skipBlanks after = '"' :: body ∧
            pair :: more = pairs ∧ readMembers body = .ok (more, rest)) := by
  fun_cases readMembers cs with
  | case1 e herror => simp [herror]
  | case2 pair mid hmember rest' hclose => simp [hmember, hclose]
  | case3 pair mid hmember after hcomma body hquote more rest' hmore =>
    simp [hmember, hcomma, hquote, hmore]
  | case4 pair mid hmember after hcomma body hquote e herror =>
    simp [hmember, hcomma, hquote, herror]
  | case5 pair mid hmember after hcomma hquote =>
    simp only [hmember, reduceCtorEq, Except.ok.injEq, Prod.mk.injEq, false_iff]
    rintro ⟨_, _, ⟨rfl, rfl⟩, ⟨_, h⟩ | ⟨_, body, _, h, hbody, _⟩⟩
    · cases hcomma.symm.trans h
    · cases hcomma.symm.trans h
      exact hquote body hbody
  | case6 pair mid hmember hclose hcomma =>
    simp only [hmember, reduceCtorEq, Except.ok.injEq, Prod.mk.injEq, false_iff]
    rintro ⟨_, _, ⟨rfl, rfl⟩, ⟨_, h⟩ | ⟨after, _, _, h, _⟩⟩
    · exact hclose rest h
    · exact hcomma after h

theorem readMembers_ne_nil {cs rest : List Char} {pairs : List (String × String)}
    (h : readMembers cs = .ok (pairs, rest)) : pairs ≠ [] := by
  obtain ⟨_, _, _, ⟨rfl, _⟩ | ⟨_, _, _, _, _, rfl, _⟩⟩ := readMembers_eq_ok_iff.mp h
  · simp
  · simp

/-! ## Tokens that the readers take -/

theorem hasTokens_string_iff {cs : List Char} {value : String} {ts : List Token} :
    HasTokens cs (.string value :: ts) ↔
      ∃ rest, readString cs = .ok (value, rest) ∧ HasTokens rest ts := by
  simp only [hasTokens_cons_iff, readString_eq_ok_iff, Token.head, Token.Leaves]
  constructor
  · rintro ⟨after, rest, hquote, hread, hrest⟩
    exact ⟨rest, ⟨after, hquote, hread⟩, hrest⟩
  · rintro ⟨rest, ⟨after, hquote, hread⟩, hrest⟩
    exact ⟨after, rest, hquote, hread, hrest⟩

/-- Punctuation leaves what stands behind it. -/
theorem hasTokens_sign_iff {cs : List Char} {t : Token} {ts : List Token}
    (ht : ∀ after rest, t.Leaves after rest ↔ rest = after) :
    HasTokens cs (t :: ts) ↔ ∃ rest, skipBlanks cs = t.head :: rest ∧ HasTokens rest ts := by
  simp only [hasTokens_cons_iff, ht]
  constructor
  · rintro ⟨_, rest, h, rfl, hrest⟩
    exact ⟨_, h, hrest⟩
  · rintro ⟨rest, h, hrest⟩
    exact ⟨rest, rest, h, rfl, hrest⟩

theorem hasTokens_entry_iff {cs : List Char} {key value : String} {ts : List Token} :
    HasTokens cs (.string key :: .colon :: .string value :: ts) ↔
      ∃ body rest, skipBlanks cs = '"' :: body ∧ readMember body = .ok ((key, value), rest) ∧
        HasTokens rest ts := by
  rw [hasTokens_cons_iff]
  simp only [hasTokens_sign_iff (t := .colon) fun _ _ => Iff.rfl, hasTokens_string_iff,
    readMember_eq_ok_iff, Token.head, Token.Leaves]
  constructor
  · rintro ⟨body, mid, hquote, hkey, after, hcolon, rest, hvalue, hrest⟩
    exact ⟨body, rest, hquote, ⟨mid, after, hkey, hcolon, hvalue⟩, hrest⟩
  · rintro ⟨body, rest, hquote, ⟨mid, after, hkey, hcolon, hvalue⟩, hrest⟩
    exact ⟨body, mid, hquote, hkey, after, hcolon, rest, hvalue, hrest⟩

/-- The tokens of a member. -/
def pairTokens (pair : String × String) : List Token := [.string pair.1, .colon, .string pair.2]

theorem tokens_listing (pairs : List (String × String)) :
    (listing pairs).tokens =
      .leftBrace :: ([Token.comma].intercalate (pairs.map pairTokens) ++ [.rightBrace]) := by
  rw [listing, tokens, memberTokens_eq_map, List.map_map]
  rfl

/-- By induction on the members that follow the first. -/
theorem hasTokens_members_iff {pairs : List (String × String)} {ts : List Token} :
    ∀ {pair : String × String} {cs : List Char},
      HasTokens cs (pairTokens pair ++ ((pairs.map pairTokens).flatMap (.comma :: ·) ++
          .rightBrace :: ts)) ↔
        ∃ body rest, skipBlanks cs = '"' :: body ∧ readMembers body = .ok (pair :: pairs, rest) ∧
          HasTokens rest ts := by
  induction pairs with
  | nil =>
    rintro ⟨key, value⟩ cs
    rw [pairTokens]
    simp only [List.map_nil, List.flatMap_nil, List.nil_append, List.cons_append, hasTokens_entry_iff,
      hasTokens_sign_iff (t := .rightBrace) fun _ _ => Iff.rfl]
    constructor
    · rintro ⟨body, mid, hquote, hmember, rest, hclose, hrest⟩
      exact ⟨body, rest, hquote, readMembers_eq_ok_iff.mpr ⟨_, mid, hmember, .inl ⟨rfl, hclose⟩⟩, hrest⟩
    · rintro ⟨body, rest, hquote, hmembers, hrest⟩
      obtain ⟨pair, mid, hmember, ⟨hpair, hclose⟩ | ⟨_, body', more, _, _, hpairs, hmore⟩⟩ :=
        readMembers_eq_ok_iff.mp hmembers
      · cases hpair
        exact ⟨body, mid, hquote, hmember, rest, hclose, hrest⟩
      · cases hpairs
        exact absurd rfl (readMembers_ne_nil hmore)
  | cons next pairs ih =>
    rintro ⟨key, value⟩ cs
    rw [pairTokens]
    simp only [List.map_cons, List.flatMap_cons, List.nil_append, List.cons_append, List.append_assoc,
      hasTokens_entry_iff, hasTokens_sign_iff (t := .comma) fun _ _ => Iff.rfl, ih]
    constructor
    · rintro ⟨body, mid, hquote, hmember, after, hcomma, body', rest, hquote', hmore, hrest⟩
      refine ⟨body, rest, hquote, readMembers_eq_ok_iff.mpr ⟨_, mid, hmember, .inr ?_⟩, hrest⟩
      exact ⟨after, body', next :: pairs, hcomma, hquote', rfl, hmore⟩
    · rintro ⟨body, rest, hquote, hmembers, hrest⟩
      obtain ⟨pair, mid, hmember, ⟨hpair, _⟩ | ⟨after, body', more, hcomma, hquote', hpairs, hmore⟩⟩ :=
        readMembers_eq_ok_iff.mp hmembers
      · cases hpair
      · cases hpairs
        exact ⟨body, mid, hquote, hmember, after, hcomma, body', rest, hquote', hmore, hrest⟩

/-! ## Objects -/

theorem readObject_eq_ok_iff {cs rest : List Char} {pairs : List (String × String)} :
    readObject cs = .ok (pairs, rest) ↔
      ∃ after, skipBlanks cs = '\x7b' :: after ∧
        ([] = pairs ∧ skipBlanks after = '\x7d' :: rest ∨
          ∃ body, skipBlanks after = '"' :: body ∧ readMembers body = .ok (pairs, rest)) := by
  fun_cases readObject cs with
  | case1 after hopen rest' hclose => simp [hopen, hclose]
  | case2 after hopen body hquote => simp [hopen, hquote]
  | case3 after hopen hclose hquote =>
    simp only [hopen, reduceCtorEq, List.cons.injEq, true_and, false_iff]
    rintro ⟨_, rfl, ⟨_, h⟩ | ⟨body, h, _⟩⟩
    · exact hclose rest h
    · exact hquote body h
  | case4 hopen =>
    simp only [reduceCtorEq, false_iff]
    rintro ⟨after, h, _⟩
    exact hopen after h

theorem hasTokens_listing_iff {cs : List Char} {pairs : List (String × String)} :
    HasTokens cs (listing pairs).tokens ↔
      ∃ rest, readObject cs = .ok (pairs, rest) ∧ skipBlanks rest = [] := by
  rw [tokens_listing, hasTokens_sign_iff (t := .leftBrace) fun _ _ => Iff.rfl]
  cases pairs with
  | nil =>
    simp only [List.map_nil, List.intercalate_nil, List.nil_append, readObject_eq_ok_iff,
      hasTokens_sign_iff (t := .rightBrace) fun _ _ => Iff.rfl, hasTokens_nil_iff, Token.head]
    constructor
    · rintro ⟨after, hopen, rest, hclose, hrest⟩
      exact ⟨rest, ⟨after, hopen, .inl ⟨trivial, hclose⟩⟩, hrest⟩
    · rintro ⟨rest, ⟨after, hopen, ⟨_, hclose⟩ | ⟨body, _, hmembers⟩⟩, hrest⟩
      · exact ⟨after, hopen, rest, hclose, hrest⟩
      · exact absurd rfl (readMembers_ne_nil hmembers)
  | cons pair pairs =>
    simp only [List.map_cons, intercalate_cons, List.append_assoc, hasTokens_members_iff,
      readObject_eq_ok_iff, hasTokens_nil_iff, Token.head]
    constructor
    · rintro ⟨after, hopen, body, rest, hquote, hmembers, hrest⟩
      exact ⟨rest, ⟨after, hopen, .inr ⟨body, hquote, hmembers⟩⟩, hrest⟩
    · rintro ⟨rest, ⟨after, hopen, ⟨hpairs, _⟩ | ⟨body, hquote, hmembers⟩⟩, hrest⟩
      · cases hpairs
      · exact ⟨after, hopen, body, rest, hquote, hmembers, hrest⟩

/-- The members of an object of strings are read from the texts that denote it, and from no others. -/
theorem readStrings_eq_ok_iff {text : String} {pairs : List (String × String)} :
    readStrings text = .ok pairs ↔ Denotes text (listing pairs) := by
  rw [Denotes, hasTokens_listing_iff]
  fun_cases readStrings text with
  | case1 members rest hread hrest => simp [hread, List.isEmpty_iff.mp hrest]
  | case2 members rest hread hrest => simp [hread, List.isEmpty_iff.not.mp hrest]
  | case3 e herror => simp [herror]

end FilterExpr.Json
