import FilterExpr.Proofs.Pattern.Delimited

/-!
# FilterExpr.Proofs.Pattern.Like

What the database makes of a pattern. The literal of a pattern is the right operand of `LIKE`, and the
backslashes in it are read twice: first for the value of the literal (`literalValue?`), where a backslash
before a percent sign or an underscore is kept, and then for the items of the operand (`likeItems`), where
a bare percent sign fits any text and a bare underscore any one character.

The literal writes a backslash of the pattern for the first reading only, and it leaves underscores as they
are. `heardItems` says what is heard in the end. So `LIKE` fits the texts that the pattern matches exactly
if the pattern has no underscore, and no backslash but as its last symbol (`Plain`). In any other pattern
something is heard that was not said.
-/

namespace FilterExpr

open Pattern (Part)

/-! ## What a pattern matches -/

namespace Pattern

/-- The text is put together from the parts: texts as they are, and any text for a wildcard. -/
inductive Fills : List Part → List Char → Prop where
  | nil : Fills [] []
  | text {chars : String} {parts : List Part} {s : List Char} : Fills parts s →
      Fills (.text chars :: parts) (chars.toList ++ s)
  | wildcard {filler s : List Char} {parts : List Part} : Fills parts s →
      Fills (.wildcard :: parts) (filler ++ s)

def Matches (p : Pattern) (s : String) : Prop := Fills p.parts s.toList

theorem fills_nil_iff {s : List Char} : Fills [] s ↔ s = [] := by
  constructor
  · rintro ⟨⟩
    rfl
  · rintro rfl
    exact .nil

theorem fills_text_iff {chars : String} {parts : List Part} {s : List Char} :
    Fills (.text chars :: parts) s ↔ ∃ rest, s = chars.toList ++ rest ∧ Fills parts rest := by
  constructor
  · rintro ⟨⟩
    exact ⟨_, rfl, ‹_›⟩
  · rintro ⟨rest, rfl, h⟩
    exact .text h

theorem fills_wildcard_iff {parts : List Part} {s : List Char} :
    Fills (.wildcard :: parts) s ↔ ∃ filler rest, s = filler ++ rest ∧ Fills parts rest := by
  constructor
  · rintro ⟨⟩
    exact ⟨_, _, rfl, ‹_›⟩
  · rintro ⟨filler, rest, rfl, h⟩
    exact .wildcard h

theorem fills_consPart_iff {c : Char} {parts : List Part} {s : List Char} :
    Fills (consPart c parts) s ↔ ∃ rest, s = c :: rest ∧ Fills parts rest := by
  cases parts with
  | nil => simp [consPart, fills_text_iff]
  | cons part parts =>
    cases part with
    | wildcard => simp [consPart, fills_text_iff]
    | text chars =>
      simp only [consPart, fills_text_iff, String.toList_append, String.toList_singleton]
      constructor
      · rintro ⟨rest, rfl, h⟩
        exact ⟨chars.toList ++ rest, rfl, rest, rfl, h⟩
      · rintro ⟨_, rfl, rest, rfl, h⟩
        exact ⟨rest, rfl, h⟩

end Pattern

/-! ## The value of a literal -/

/-- What a backslash with the character behind it stands for in a literal. The pairs for percent sign and
underscore are kept as they are. -/
def escapeValue (c : Char) : List Char :=
  if c = '%' ∨ c = '_' then ['\\', c]
  else if c = '0' then ['\x00']
  else if c = 'b' then ['\x08']
  else if c = 't' then ['\t']
  else if c = 'n' then ['\n']
  else if c = 'r' then ['\r']
  else if c = 'Z' then ['\x1a']
  else [c]

def Sign.value : Sign → List Char
  | .bare c => [c]
  | .taken c => escapeValue c

/-- The value of a text that is one literal and nothing else. -/
def literalValue? (text : String) : Option (List Char) :=
  match splitLiteral text.toList with
  | some (body, []) => some ((signs body).flatMap Sign.value)
  | _ => none

/-! ## LIKE -/

inductive LikeItem where
  | char (c : Char)
  | one
  | any
  deriving DecidableEq, Repr

def Sign.likeItem : Sign → LikeItem
  | .bare c => if c = '%' then .any else if c = '_' then .one else .char c
  | .taken c => .char c

/-- The items of an operand. -/
def likeItems (operand : List Char) : List LikeItem := (signs operand).map Sign.likeItem

/-- The items fit the whole text. -/
inductive Fits : List LikeItem → List Char → Prop where
  | nil : Fits [] []
  | char {c : Char} {items : List LikeItem} {s : List Char} : Fits items s →
      Fits (.char c :: items) (c :: s)
  | one {c : Char} {items : List LikeItem} {s : List Char} : Fits items s →
      Fits (.one :: items) (c :: s)
  | any {filler s : List Char} {items : List LikeItem} : Fits items s →
      Fits (.any :: items) (filler ++ s)

/-- `s LIKE operand`, letter for letter. -/
def Like (operand : List Char) (s : String) : Prop := Fits (likeItems operand) s.toList

/-- The item that a symbol means. -/
def Symbol.likeItem : Symbol → LikeItem
  | .char c => .char c
  | .wildcard => .any

theorem fits_char_iff {c : Char} {items : List LikeItem} {s : List Char} :
    Fits (.char c :: items) s ↔ ∃ rest, s = c :: rest ∧ Fits items rest := by
  constructor
  · rintro ⟨⟩
    exact ⟨_, rfl, ‹_›⟩
  · rintro ⟨rest, rfl, h⟩
    exact .char h

theorem fits_any_iff {items : List LikeItem} {s : List Char} :
    Fits (.any :: items) s ↔ ∃ filler rest, s = filler ++ rest ∧ Fits items rest := by
  constructor
  · rintro ⟨⟩
    exact ⟨_, _, rfl, ‹_›⟩
  · rintro ⟨filler, rest, rfl, h⟩
    exact .any h

/-- A pattern matches what its symbols fit. -/
theorem Pattern.fills_group_iff (symbols : List Symbol) (s : List Char) :
    Pattern.Fills (Pattern.group symbols) s ↔ Fits (symbols.map Symbol.likeItem) s := by
  induction symbols generalizing s with
  | nil =>
    rw [Pattern.group, Pattern.fills_nil_iff]
    constructor
    · rintro rfl
      exact .nil
    · rintro ⟨⟩
      rfl
  | cons symbol symbols ih =>
    cases symbol with
    | char c => simp [Pattern.group, Pattern.fills_consPart_iff, Symbol.likeItem, fits_char_iff, ih]
    | wildcard =>
      simp [Pattern.group, Pattern.fills_wildcard_iff, Symbol.likeItem, fits_any_iff, ih]

/-! ## What is heard -/

/-- The items that are heard for a row of symbols. A backslash takes what stands behind it: a wildcard
becomes a percent sign, and the backslash of a percent sign becomes text, so that the percent sign is
free. -/
def heardItems : List Symbol → List LikeItem
  | [] => []
  | .wildcard :: symbols => .any :: heardItems symbols
  | .char c :: symbols =>
    if c = '\\' then
      match symbols with
      | [] => [.char c]
      | .wildcard :: rest => .char '%' :: heardItems rest
      | .char d :: rest =>
        if d = '%' then .char c :: .any :: heardItems rest else .char d :: heardItems rest
    else if c = '_' then .one :: heardItems symbols
    else .char c :: heardItems symbols

/-- What the value of the literal has for a symbol. -/
def Symbol.operand : Symbol → List Char
  | .char c => if c = '%' then ['\\', c] else [c]
  | .wildcard => ['%']

theorem Symbol.value_sign (s : Symbol) : s.sign.value = s.operand := by
  cases s with
  | wildcard => rfl
  | char c =>
    by_cases h : (c = '\\' || c = '"' || c = '\'' || c = '%') = true
    · rw [Symbol.sign, if_pos h]
      simp only [Bool.or_eq_true, decide_eq_true_eq] at h
      rcases h with ((rfl | rfl) | rfl) | rfl <;> decide
    · rw [Symbol.sign, if_neg h]
      have hpercent : c ≠ '%' := by
        rintro rfl
        simp at h
      rw [Symbol.operand, if_neg hpercent, Sign.value]

theorem Pattern.literalValue?_sql (p : Pattern) :
    literalValue? p.sql = some (p.symbols.flatMap Symbol.operand) := by
  have hsplit := p.splitLiteral_sql []
  rw [List.append_nil] at hsplit
  simp [literalValue?, hsplit, signs_flatMap_sql, List.flatMap_map, Symbol.value_sign]

theorem likeItems_taken (c : Char) (cs : List Char) :
    likeItems ('\\' :: c :: cs) = .char c :: likeItems cs := by
  simp [likeItems, Sign.likeItem]

theorem likeItems_bare {c : Char} (h : c ≠ '\\') (cs : List Char) :
    likeItems (c :: cs) = (Sign.bare c).likeItem :: likeItems cs := by
  simp [likeItems, signs_bare h]

theorem likeItems_operand (symbols : List Symbol) :
    likeItems (symbols.flatMap Symbol.operand) = heardItems symbols := by
  fun_induction heardItems symbols with
  | case1 => rfl
  | case2 symbols ih =>
    simp [Symbol.operand, likeItems_bare, Sign.likeItem, ih]
  | case3 => rfl
  | case4 rest ih =>
    simp [Symbol.operand, likeItems_taken, ih]
  | case5 rest ih =>
    simp [Symbol.operand, likeItems_taken, likeItems_bare, Sign.likeItem, ih]
  | case6 d rest hd ih =>
    simp [Symbol.operand, likeItems_taken, hd, ih]
  | case7 symbols _ ih =>
    simp [Symbol.operand, likeItems_bare, Sign.likeItem, ih]
  | case8 c symbols hbackslash hunderscore ih =>
    by_cases hpercent : c = '%'
    · simp [Symbol.operand, likeItems_taken, hpercent, ih]
    · simp [Symbol.operand, likeItems_bare hbackslash, Sign.likeItem, hpercent, hunderscore, ih]

/-! ## Patterns that are heard as they are -/

/-- There is no underscore, and no backslash but as the last symbol. -/
def Plain (symbols : List Symbol) : Prop :=
  Symbol.char '_' ∉ symbols ∧ Symbol.char '\\' ∉ symbols.dropLast

instance (symbols : List Symbol) : Decidable (Plain symbols) :=
  inferInstanceAs (Decidable (_ ∧ _))

theorem plain_nil : Plain [] := by simp [Plain]

theorem plain_cons_iff {symbol : Symbol} {symbols : List Symbol} :
    Plain (symbol :: symbols) ↔
      symbol ≠ .char '_' ∧ (symbol = .char '\\' → symbols = []) ∧ Plain symbols := by
  cases symbols with
  | nil => simp [Plain, eq_comm]
  | cons t symbols =>
    simp only [Plain, List.mem_cons, List.dropLast_cons_cons, not_or, reduceCtorEq, imp_false]
    constructor
    · rintro ⟨⟨h, ht⟩, h', hlast⟩
      exact ⟨Ne.symm h, Ne.symm h', ht, hlast⟩
    · rintro ⟨h, h', ht, hlast⟩
      exact ⟨⟨Ne.symm h, ht⟩, Ne.symm h', hlast⟩

theorem heardItems_of_plain {symbols : List Symbol} (h : Plain symbols) :
    heardItems symbols = symbols.map Symbol.likeItem := by
  fun_induction heardItems symbols with
  | case1 => rfl
  | case2 symbols ih => simp [Symbol.likeItem, ih (plain_cons_iff.mp h).2.2]
  | case3 => rfl
  | case4 rest => simp [plain_cons_iff] at h
  | case5 rest => simp [plain_cons_iff] at h
  | case6 d rest => simp [plain_cons_iff] at h
  | case7 symbols => simp [plain_cons_iff] at h
  | case8 c symbols _ _ ih => simp [Symbol.likeItem, ih (plain_cons_iff.mp h).2.2]

/-! ## Patterns that are heard as something else -/

/-- The least that an item fits. For any one character it is one that is no underscore. -/
def LikeItem.least : LikeItem → List Char
  | .char c => [c]
  | .one => ['x']
  | .any => []

def leastText (items : List LikeItem) : List Char := items.flatMap LikeItem.least

theorem fits_leastText (items : List LikeItem) : Fits items (leastText items) := by
  induction items with
  | nil => exact .nil
  | cons item items ih =>
    cases item with
    | char c => exact .char ih
    | one => exact .one ih
    | any =>
      have hany : Fits (.any :: items) ([] ++ leastText items) := .any ih
      exact hany

/-- The characters of a pattern stand in every text that it matches. -/
theorem leastText_sublist {symbols : List Symbol} {s : List Char}
    (h : Fits (symbols.map Symbol.likeItem) s) :
    (leastText (symbols.map Symbol.likeItem)).Sublist s := by
  induction symbols generalizing s with
  | nil => exact List.nil_sublist s
  | cons symbol symbols ih =>
    cases symbol with
    | char c =>
      obtain ⟨rest, rfl, hrest⟩ := fits_char_iff.mp h
      exact (ih hrest).cons_cons c
    | wildcard =>
      obtain ⟨filler, rest, rfl, hrest⟩ := fits_any_iff.mp h
      exact (ih hrest).trans (List.sublist_append_right filler rest)

/-- What is heard asks for no more characters than the pattern has. -/
theorem length_leastText_heardItems (symbols : List Symbol) :
    (leastText (heardItems symbols)).length ≤
      (leastText (symbols.map Symbol.likeItem)).length := by
  simp only [leastText]
  fun_induction heardItems symbols with
  | case1 => simp
  | case2 symbols ih => simpa [Symbol.likeItem, LikeItem.least] using ih
  | case3 => simp [Symbol.likeItem, LikeItem.least]
  | case4 rest ih => simpa [Symbol.likeItem, LikeItem.least] using ih
  | case5 rest ih =>
    simp [Symbol.likeItem, LikeItem.least] at ih ⊢
    omega
  | case6 d rest hd ih =>
    simp [Symbol.likeItem, LikeItem.least] at ih ⊢
    omega
  | case7 symbols _ ih => simpa [Symbol.likeItem, LikeItem.least] using ih
  | case8 c symbols _ _ ih => simpa [Symbol.likeItem, LikeItem.least] using ih

/-- By induction on the symbols as they are heard. Where a backslash takes a character, what is heard is too
short; where it takes a wildcard, or an underscore is heard, a character is another one. -/
theorem plain_of_leastText_eq {symbols : List Symbol}
    (h : leastText (heardItems symbols) = leastText (symbols.map Symbol.likeItem)) :
    Plain symbols := by
  fun_induction heardItems symbols with
  | case1 => exact plain_nil
  | case2 symbols ih => exact plain_cons_iff.mpr ⟨by simp, by simp, ih h⟩
  | case3 => exact plain_cons_iff.mpr ⟨by simp, by simp, plain_nil⟩
  | case4 rest => simp [leastText, Symbol.likeItem, LikeItem.least] at h
  | case5 rest =>
    have hlength := length_leastText_heardItems rest
    have heq := congrArg List.length h
    simp [leastText, Symbol.likeItem, LikeItem.least] at hlength heq
    omega
  | case6 d rest =>
    have hlength := length_leastText_heardItems rest
    have heq := congrArg List.length h
    simp [leastText, Symbol.likeItem, LikeItem.least] at hlength heq
    omega
  | case7 symbols => simp [leastText, Symbol.likeItem, LikeItem.least] at h
  | case8 c symbols hbackslash hunderscore ih =>
    refine plain_cons_iff.mpr ⟨by simp [hunderscore], by simp [hbackslash], ih ?_⟩
    exact (List.cons.inj h).2

/-! ## The meaning of patterns -/

/-- `LIKE` with the literal of a pattern fits the texts that the pattern matches exactly if the pattern has no
underscore, and no backslash but as its last symbol. -/
theorem like_fits_iff_plain (p : Pattern) : ∃ operand, literalValue? p.sql = some operand ∧
    ((∀ s, Like operand s ↔ p.Matches s) ↔ Plain p.symbols) := by
  refine ⟨_, p.literalValue?_sql, ?_⟩
  simp only [Like, Pattern.Matches, Pattern.parts, likeItems_operand, Pattern.fills_group_iff]
  constructor
  · intro h
    -- the shortest text that is fitted has the characters of the pattern, and no others
    have hfits := (h (String.ofList (leastText (heardItems p.symbols)))).mp
      (by simpa using fits_leastText (heardItems p.symbols))
    rw [String.toList_ofList] at hfits
    have hsublist := leastText_sublist hfits
    exact plain_of_leastText_eq
      (hsublist.eq_of_length_le (length_leastText_heardItems p.symbols)).symm
  · intro h s
    rw [heardItems_of_plain h]

/-- An underscore of the pattern is heard as any one character. -/
theorem like_fits_other_than_underscore :
    literalValue? (Pattern.literal "_").sql = some ['_'] ∧ Like ['_'] "x" ∧
      ¬(Pattern.literal "_").Matches "x" := by
  have hparts : (Pattern.literal "_").parts = [.text "_"] := by decide
  refine ⟨rfl, .one .nil, ?_⟩
  intro h
  rw [Pattern.Matches, hparts, Pattern.fills_text_iff] at h
  obtain ⟨rest, hrest, _⟩ := h
  simp at hrest

end FilterExpr
