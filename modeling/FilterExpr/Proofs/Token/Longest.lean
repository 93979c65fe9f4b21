import FilterExpr.Proofs.RoundTrip
import FilterExpr.Proofs.Token.Layout
import Mathlib.Computability.Language

/-!
# FilterExpr.Proofs.Token.Longest

Names and numbers by longest match. What they look like is said by regular languages over characters:

    name    = letter (letter | "_")*
    integer = digit+
    decimal = digit* "." digit+

A name is the longest word of its language that stands at its place (`longest_name`). A number is made
of the longest rows of digits, with a point between them: `NumberToken` lists what can come of that, and
`NumberScan.numberToken` says that the scanner gives nothing else. So the numbers in a tree that was read
are words of these languages, as they stand in the text (`asWritten_of_mem_nodes`).
-/

namespace FilterExpr

open Text Token
open scoped Computability

/-! ## Languages -/

namespace Lexeme

/-- The words of one character of the class. -/
def oneOf (p : Char → Bool) : Language Char := {w | ∃ c, p c = true ∧ w = [c]}

def name : Language Char := oneOf isLetter * (oneOf isLetter + {['_']})∗

def digits : Language Char := (oneOf Char.isDigit)∗

def integer : Language Char := oneOf Char.isDigit * (oneOf Char.isDigit)∗

def decimal : Language Char := digits * {['.']} * integer

theorem mem_kstar_oneOf {p : Char → Bool} {w : List Char} :
    w ∈ (oneOf p)∗ ↔ ∀ c ∈ w, p c = true := by
  rw [Language.mem_kstar]
  constructor
  · rintro ⟨words, rfl, hwords⟩ c hc
    obtain ⟨word, hword, hc⟩ := List.mem_flatten.mp hc
    obtain ⟨d, hd, rfl⟩ := hwords word hword
    rwa [List.mem_singleton.mp hc]
  · intro h
    refine ⟨w.map fun c => [c], ?_, ?_⟩
    · simp [← List.flatMap_def]
    · intro word hword
      obtain ⟨c, hc, rfl⟩ := List.mem_map.mp hword
      exact ⟨c, h c hc, rfl⟩

theorem mem_oneOf_mul {p : Char → Bool} {L : Language Char} {w : List Char} :
    w ∈ oneOf p * L ↔ ∃ c rest, w = c :: rest ∧ p c = true ∧ rest ∈ L := by
  rw [Language.mem_mul]
  constructor
  · rintro ⟨_, ⟨c, hc, rfl⟩, rest, hrest, rfl⟩
    exact ⟨c, rest, rfl, hc, hrest⟩
  · rintro ⟨c, rest, rfl, hc, hrest⟩
    exact ⟨[c], ⟨c, hc, rfl⟩, rest, hrest, rfl⟩

/-- What may follow the first letter of a name. -/
theorem oneOf_isNameChar : oneOf isLetter + {['_']} = oneOf isNameChar := by
  apply Language.ext
  intro w
  rw [Language.mem_add]
  constructor
  · rintro (⟨c, hc, rfl⟩ | hw)
    · exact ⟨c, by simp [isNameChar, hc], rfl⟩
    · exact ⟨'_', rfl, hw⟩
  · rintro ⟨c, hc, rfl⟩
    simp only [isNameChar, Bool.or_eq_true, beq_iff_eq] at hc
    rcases hc with hc | rfl
    · exact .inl ⟨c, hc, rfl⟩
    · exact .inr rfl

theorem mem_integer {w : List Char} : w ∈ integer ↔ isInteger w = true := by
  rw [integer, mem_oneOf_mul]
  cases w with
  | nil => simp [isInteger]
  | cons c cs => simp [isInteger, mem_kstar_oneOf]

theorem mem_decimal {w : List Char} : w ∈ decimal ↔ isDecimal w = true := by
  rw [isDecimal_iff, decimal, Language.mem_mul]
  constructor
  · rintro ⟨_, hfront, fraction, hfraction, rfl⟩
    obtain ⟨whole, hwhole, _, rfl, rfl⟩ := Language.mem_mul.mp hfront
    exact ⟨whole, fraction, by simp, mem_kstar_oneOf.mp hwhole, mem_integer.mp hfraction⟩
  · rintro ⟨whole, fraction, rfl, hwhole, hfraction⟩
    refine ⟨whole ++ ['.'], ?_, fraction, mem_integer.mpr hfraction, by simp⟩
    exact Language.append_mem_mul (mem_kstar_oneOf.mpr hwhole) rfl

end Lexeme

/-! ## Longest words -/

/-- The text starts with the word, and with no longer word of the language. -/
structure Longest (L : Language Char) (text word : List Char) : Prop where
  mem : word ∈ L
  isPrefix : word <+: text
  covers : ∀ w ∈ L, w <+: text → w <+: word

theorem longest_takeWhile (p : Char → Bool) (text : List Char) :
    Longest (Lexeme.oneOf p)∗ text (text.takeWhile p) := by
  refine ⟨Lexeme.mem_kstar_oneOf.mpr fun _ => List.mem_takeWhile_imp, List.takeWhile_prefix p, ?_⟩
  rintro w hw ⟨rest, rfl⟩
  rw [List.takeWhile_append_of_pos (Lexeme.mem_kstar_oneOf.mp hw)]
  exact List.prefix_append _ _

theorem longest_name {c : Char} (hc : isLetter c = true) (rest : List Char) :
    Longest Lexeme.name (c :: rest) (c :: rest.takeWhile isNameChar) := by
  have hlongest := longest_takeWhile isNameChar rest
  refine ⟨?_, ?_, ?_⟩
  · rw [Lexeme.name, Lexeme.oneOf_isNameChar]
    exact Lexeme.mem_oneOf_mul.mpr ⟨c, _, rfl, hc, hlongest.mem⟩
  · exact List.cons_prefix_cons.mpr ⟨rfl, hlongest.isPrefix⟩
  · intro w hw hprefix
    rw [Lexeme.name, Lexeme.oneOf_isNameChar] at hw
    obtain ⟨d, tail, rfl, _, htail⟩ := Lexeme.mem_oneOf_mul.mp hw
    obtain ⟨rfl, htail'⟩ := List.cons_prefix_cons.mp hprefix
    exact List.cons_prefix_cons.mpr ⟨rfl, hlongest.covers tail htail htail'⟩

theorem longest_digits {row rest : List Char} (hrow : ∀ c ∈ row, c.isDigit = true)
    (hrest : ∀ c ∈ rest.head?, c.isDigit = false) : Longest Lexeme.digits (row ++ rest) row := by
  have hlongest := longest_takeWhile Char.isDigit (row ++ rest)
  rwa [(takeWhile_append_stop hrow hrest).1] at hlongest

/-! ## Numbers -/

/-- What comes of a text that starts with a digit or a point: the kind of the token and the characters that
it takes. -/
inductive NumberToken (text : List Char) : Kind → List Char → Prop where
  /-- There is no point behind the first digits. -/
  | integer {whole : List Char} : Longest Lexeme.digits text whole →
      (∀ after, text ≠ whole ++ '.' :: after) →
      NumberToken text (.integer (String.ofList whole)) whole
  /-- There is a second point, and the token ends with it. -/
  | twoPoints {whole fraction after rest : List Char} : Longest Lexeme.digits text whole →
      text = whole ++ '.' :: after → Longest Lexeme.digits after fraction →
      after = fraction ++ '.' :: rest →
      NumberToken text (.illegal (String.ofList (whole ++ '.' :: fraction ++ ['.'])))
        (whole ++ '.' :: fraction ++ ['.'])
  /-- The one point has no digit behind it. -/
  | noFraction {whole after : List Char} : Longest Lexeme.digits text whole →
      text = whole ++ '.' :: after → Longest Lexeme.digits after [] →
      (∀ rest, after ≠ '.' :: rest) →
      NumberToken text (.illegal (String.ofList (whole ++ ['.']))) (whole ++ ['.'])
  | decimal {whole fraction after : List Char} : Longest Lexeme.digits text whole →
      text = whole ++ '.' :: after → Longest Lexeme.digits after fraction → fraction ≠ [] →
      (∀ rest, after ≠ fraction ++ '.' :: rest) →
      NumberToken text (.decimal (String.ofList (whole ++ '.' :: fraction)))
        (whole ++ '.' :: fraction)

theorem Token.EndsNumber.ne_append_point {rest : List Char} (h : EndsNumber rest)
    (row after : List Char) : row ++ rest ≠ row ++ '.' :: after :=
  fun heq => h.ne_point after (List.append_cancel_left heq)

theorem Token.NumberScan.numberToken {text : List Char} {s : Scan} (h : NumberScan text s) :
    NumberToken text s.kind s.text := by
  -- a point stops a row of digits
  have hpoint {row : List Char} (hrow : ∀ c ∈ row, c.isDigit = true) (after : List Char) :
      Longest Lexeme.digits (row ++ '.' :: after) row :=
    longest_digits hrow (by simp)
  cases h with
  | @integer whole rest htext hwhole hends =>
    subst htext
    exact .integer (longest_digits hwhole fun c hc => (hends c hc).1) (hends.ne_append_point whole)
  | @point whole fraction rest htext hwhole hfraction hends =>
    have htext : text = whole ++ '.' :: (fraction ++ rest) := by simpa using htext
    subst htext
    have hlongest := longest_digits hfraction fun c hc => (hends c hc).1
    have hone := hends.ne_append_point fraction
    cases fraction with
    | nil => exact .noFraction (hpoint hwhole _) rfl hlongest hone
    | cons d ds => exact .decimal (hpoint hwhole _) rfl hlongest (by simp) hone
  | @points whole fraction rest htext hwhole hfraction =>
    have htext : text = whole ++ '.' :: (fraction ++ '.' :: rest) := by simpa using htext
    subst htext
    exact .twoPoints (hpoint hwhole _) rfl (hpoint hfraction rest) rfl

/-! ## Numbers in trees -/

theorem Param.mem_allKinds {p : Param} {ps : List Param} {k : Kind} (hp : p ∈ ps) (hk : k ∈ p.kinds) :
    k ∈ Param.allKinds ps := by
  induction ps with
  | nil => cases hp
  | cons q ps ih =>
    cases ps with
    | nil =>
      rw [List.mem_singleton.mp hp] at hk
      exact hk
    | cons r ps =>
      rw [Param.allKinds, List.mem_append, List.mem_cons]
      rcases List.mem_cons.mp hp with rfl | hp
      · exact .inl hk
      · exact .inr (.inr (ih hp))

theorem Param.exists_of_mem_nodesFrom {path : Path} {index : Nat} {ps : List Param}
    {node : Path × Param} (h : node ∈ Param.nodesFrom path index ps) :
    ∃ p ∈ ps, ∃ path', node ∈ p.nodesAt path' := by
  induction ps generalizing index with
  | nil => cases h
  | cons p ps ih =>
    rw [Param.nodesFrom, List.mem_append] at h
    rcases h with h | h
    · exact ⟨p, List.mem_cons_self, _, h⟩
    · obtain ⟨q, hq, hnode⟩ := ih h
      exact ⟨q, List.mem_cons_of_mem p hq, hnode⟩

/-- The values of a tree are among its tokens. -/
theorem Call.token_mem_kinds {place : Path} {v : Value} (c : Call) :
    ∀ path, (place, Param.value v) ∈ c.nodesAt path → v.token ∈ c.kinds := by
  induction c using Call.induction with
  | step name params ih =>
    intro path h
    rw [Call.nodesAt, List.mem_cons] at h
    have hparams : v.token ∈ Param.allKinds params := by
      rcases h with h | h
      · cases h
      · obtain ⟨p, hp, path', hnode⟩ := Param.exists_of_mem_nodesFrom h
        refine Param.mem_allKinds hp ?_
        cases p with
        | value w =>
          rw [Param.nodesAt, List.mem_singleton] at hnode
          cases hnode
          exact List.mem_singleton.mpr rfl
        | call c => exact ih c hp path' hnode
    rw [Call.kinds]
    simp [hparams]

/-- A value of a tree that was read has lexable content, and the token it was read from is in the text. -/
theorem exists_token_of_mem_nodes {source : String} {limit : Nat} {f : Call}
    (h : parse source limit = .ok f) {path : Path} {v : Value} (hv : (path, .value v) ∈ f.nodes) :
    v.lexable = true ∧ ∃ t ∈ tokenize source, t.kind = v.token := by
  obtain ⟨hkinds, _⟩ := parse_eq_ok_iff.mp h
  have hmem := f.token_mem_kinds [] hv
  rw [← hkinds] at hmem
  obtain ⟨t, ht, hkind⟩ := List.mem_map.mp hmem
  refine ⟨?_, t, List.mem_append_left _ ht, hkind⟩
  rw [← v.lexable_token, ← hkind]
  exact lexable_of_mem_scanAll ht

/-- Names, numbers and delimiters stand in the text as their content says. -/
theorem slice?_of_mem_tokenize {source : String} {t : Token} (ht : t ∈ tokenize source)
    (hverbatim : t.toClass.verbatim = true) : t.span.slice? source = some t.literal := by
  obtain ⟨front, text, rest, hsource, hspan, hliteral⟩ := (layout_tokenize source).split_of_mem ht
  rw [hspan, Nat.zero_add, Span.slice?_of_split hsource, hliteral hverbatim]

/-- The number is a word of the language, and some token of the text reads so at its span. -/
structure AsWritten (source : String) (L : Language Char) (kind : Kind) : Prop where
  mem : kind.literal.toList ∈ L
  written : ∃ t ∈ tokenize source, t.kind = kind ∧ t.span.slice? source = some kind.literal

theorem asWritten_of_mem_nodes {source : String} {limit : Nat} {f : Call}
    (h : parse source limit = .ok f) {path : Path} {v : Value} (hv : (path, .value v) ∈ f.nodes)
    {L : Language Char} (hverbatim : v.token.toClass.verbatim = true)
    (hmem : v.lexable = true → v.token.literal.toList ∈ L) : AsWritten source L v.token := by
  obtain ⟨hlexable, t, ht, hkind⟩ := exists_token_of_mem_nodes h hv
  refine ⟨hmem hlexable, t, ht, hkind, ?_⟩
  rw [← hkind] at hverbatim ⊢
  exact slice?_of_mem_tokenize ht hverbatim

/-- A token that starts with a letter is a name, the longest that stands there. A token that starts with a
digit or a point is made of the longest rows of digits, as `NumberToken` says. So the numbers of a tree
that was read are words of their languages and stand in the text as they are. -/
theorem tokens_by_longest_match :
    (∀ (source : String) (front rest : List Char) (c : Char) (t : Token),
      StartsAt source front (c :: rest) t → isLetter c = true →
      ∃ name, Longest Lexeme.name (c :: rest) name ∧
        t = ⟨.identifier (String.ofList name),
          ⟨byteLength front, byteLength front + byteLength name⟩⟩) ∧
    (∀ (source : String) (front rest : List Char) (c : Char) (t : Token),
      StartsAt source front (c :: rest) t → c.isDigit = true ∨ c = '.' →
      ∃ text, NumberToken (c :: rest) t.kind text ∧
        t.span = ⟨byteLength front, byteLength front + byteLength text⟩) ∧
    (∀ (source : String) (limit : Nat) (f : Call), parse source limit = .ok f →
      ∀ (path : Path) (digits : String),
        ((path, .value (.integer digits)) ∈ f.nodes →
          AsWritten source Lexeme.integer (.integer digits)) ∧
        ((path, .value (.decimal digits)) ∈ f.nodes →
          AsWritten source Lexeme.decimal (.decimal digits))) := by
  refine ⟨?_, ?_, ?_⟩
  · intro source front rest c t ht hc
    rw [ht.eq_scan, scan_name hc]
    exact ⟨_, longest_name hc rest, rfl⟩
  · intro source front rest c t ht hc
    rw [ht.eq_scan, scan_number hc]
    exact ⟨_, (numberScan_scanNumber (c :: rest)).numberToken, rfl⟩
  · intro source limit f h path digits
    constructor
    · intro hv
      exact asWritten_of_mem_nodes h hv rfl Lexeme.mem_integer.mpr
    · intro hv
      exact asWritten_of_mem_nodes h hv rfl Lexeme.mem_decimal.mpr

end FilterExpr
