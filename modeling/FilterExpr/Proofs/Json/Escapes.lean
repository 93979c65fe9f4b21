import FilterExpr.Json
import FilterExpr.Json.Reader
import FilterExpr.Proofs.Basic

/-!
# FilterExpr.Proofs.Json.Escapes

How characters are written in JSON strings. `Writes` lists the ways to write one character: as it is, by a
letter behind a backslash, or by its code units in UTF-16, each in four hexadecimal digits. It does
not speak of reading. `readText_eq_ok_iff` says that a string is read exactly from the characters that
write it, up to the closing quote, and `writesAll_written` that it is written in one of these ways.
-/

namespace FilterExpr.Json

/-! ## Ways to write a character -/

/-- The letters behind a backslash, each with the character that it stands for. -/
def letterEscapes : List (Char × Char) :=
  [('"', '"'), ('\\', '\\'), ('/', '/'), ('b', '\x08'), ('f', '\x0c'), ('n', '\n'), ('r', '\r'),
   ('t', '\t')]

/-- The hexadecimal digits in lower and in upper case, each with its value. -/
def hexDigits : List (Char × Nat) := "0123456789abcdef".toList.zipIdx ++ "ABCDEF".toList.zipIdx 10

/-- The number that four hexadecimal digits denote. -/
inductive Quad : List Char → Nat → Prop where
  | mk {a b c d : Char} {i j k l : Nat} : (a, i) ∈ hexDigits → (b, j) ∈ hexDigits →
      (c, k) ∈ hexDigits → (d, l) ∈ hexDigits → Quad [a, b, c, d] (((i * 16 + j) * 16 + k) * 16 + l)

/-- The code units of a character in UTF-16. -/
def utf16 (c : Char) : List Nat :=
  if c.toNat < 0x10000 then [c.toNat]
  else [0xD800 + (c.toNat - 0x10000) / 0x400, 0xDC00 + (c.toNat - 0x10000) % 0x400]

/-- The ways to write a character between quotes. -/
inductive Writes : List Char → Char → Prop where
  | plain {c : Char} : c ≠ '"' → c ≠ '\\' → 0x20 ≤ c.toNat → Writes [c] c
  | letter {e c : Char} : (e, c) ∈ letterEscapes → Writes ['\\', e] c
  | unit {c : Char} {n : Nat} {digits : List Char} : utf16 c = [n] → Quad digits n →
      Writes ('\\' :: 'u' :: digits) c
  | pair {c : Char} {m n : Nat} {high low : List Char} : utf16 c = [m, n] → Quad high m → Quad low n →
      Writes ('\\' :: 'u' :: (high ++ '\\' :: 'u' :: low)) c

/-- Characters that are written one after the other. -/
inductive WritesAll : List Char → List Char → Prop where
  | nil : WritesAll [] []
  | cons {w body text : List Char} {c : Char} : Writes w c → WritesAll body text →
      WritesAll (w ++ body) (c :: text)

/-! ## Digits -/

theorem hexValue?_of_mem {c : Char} {n : Nat} (h : (c, n) ∈ hexDigits) : hexValue? c = some n := by
  have hall : ∀ e ∈ hexDigits, hexValue? e.1 = some e.2 := by decide
  exact hall (c, n) h

theorem toNat_lt_of_hexValue? {c : Char} {n : Nat} (h : hexValue? c = some n) : c.toNat < 103 := by
  have hle {d : Char} (hcd : c ≤ d) (hd : d.toNat < 103) : c.toNat < 103 :=
    Nat.lt_of_le_of_lt (UInt32.le_iff_toNat_le.mp hcd) hd
  unfold hexValue? at h
  split_ifs at h with h₁ h₂ h₃
  · exact hle h₁.2 (by decide)
  · exact hle h₂.2 (by decide)
  · exact hle h₃.2 (by decide)

theorem hexValue?_eq_some_iff {c : Char} {n : Nat} : hexValue? c = some n ↔ (c, n) ∈ hexDigits := by
  constructor
  · intro h
    have hall : ∀ k < 103, ∀ n ∈ hexValue? (Char.ofNat k), (Char.ofNat k, n) ∈ hexDigits := by decide
    have hc := hall c.toNat (toNat_lt_of_hexValue? h) n
    rw [Char.ofNat_toNat] at hc
    exact hc h
  · exact hexValue?_of_mem

theorem Quad.lt {digits : List Char} {n : Nat} (h : Quad digits n) : n < 0x10000 := by
  have hall : ∀ e ∈ hexDigits, e.2 < 16 := by decide
  obtain ⟨ha, hb, hc, hd⟩ := h
  have ha := hall _ ha
  have hb := hall _ hb
  have hc := hall _ hc
  have hd := hall _ hd
  simp only at ha hb hc hd
  omega

theorem readUnit_eq_ok_iff {cs rest : List Char} {n : Nat} :
    readUnit cs = .ok (n, rest) ↔ ∃ digits, cs = digits ++ rest ∧ Quad digits n := by
  constructor
  · intro h
    unfold readUnit at h
    split at h
    · cases h
    split at h
    · split at h
      · rename_i ha hb hc hd
        cases h
        rw [hexValue?_eq_some_iff] at ha hb hc hd
        exact ⟨[_, _, _, _], rfl, .mk ha hb hc hd⟩
      · cases h
    · cases h
  · rintro ⟨_, rfl, @⟨a, b, c, d, _, _, _, _, ha, hb, hc, hd⟩⟩
    have hbytes : ¬byteLength [a, b, c, d] < 4 := by
      have := a.utf8Size_pos
      have := b.utf8Size_pos
      have := c.utf8Size_pos
      have := d.utf8Size_pos
      simp only [byteLength_cons, byteLength_nil]
      omega
    rw [← hexValue?_eq_some_iff] at ha hb hc hd
    simp only [readUnit, List.cons_append, List.nil_append, List.take_succ_cons, List.take_zero,
      if_neg hbytes, ha, hb, hc, hd]

/-! ## Code units -/

theorem isHighSurrogate_iff {n : Nat} : isHighSurrogate n = true ↔ 0xD800 ≤ n ∧ n ≤ 0xDBFF := by
  simp [isHighSurrogate]

theorem isLowSurrogate_iff {n : Nat} : isLowSurrogate n = true ↔ 0xDC00 ≤ n ∧ n ≤ 0xDFFF := by
  simp [isLowSurrogate]

theorem toNat_valid (c : Char) : c.toNat.isValidChar := c.valid

theorem utf16_eq_unit_iff {c : Char} {n : Nat} :
    utf16 c = [n] ↔ n < 0x10000 ∧ ¬isLowSurrogate n = true ∧ ¬isHighSurrogate n = true ∧
      Char.ofNat n = c := by
  rw [isLowSurrogate_iff, isHighSurrogate_iff, utf16]
  constructor
  · intro h
    have hvalid := toNat_valid c
    split_ifs at h with hsmall
    · cases h
      refine ⟨hsmall, ?_, ?_, Char.ofNat_toNat c⟩ <;> omega
    · simp at h
  · rintro ⟨hsmall, hlow, hhigh, rfl⟩
    have hvalid : n.isValidChar := by
      rw [Nat.isValidChar]
      omega
    rw [toNat_ofNat hvalid, if_pos hsmall]

theorem utf16_eq_pair_iff {c : Char} {m n : Nat} :
    utf16 c = [m, n] ↔ isHighSurrogate m = true ∧ isLowSurrogate n = true ∧
      Char.ofNat (0x10000 + (m - 0xD800) * 0x400 + (n - 0xDC00)) = c := by
  rw [isLowSurrogate_iff, isHighSurrogate_iff, utf16]
  constructor
  · intro h
    have hvalid := toNat_valid c
    split_ifs at h with hsmall
    · simp at h
    · simp only [List.cons.injEq, and_true] at h
      have hcode : 0x10000 + (m - 0xD800) * 0x400 + (n - 0xDC00) = c.toNat := by omega
      refine ⟨by omega, by omega, ?_⟩
      rw [hcode, Char.ofNat_toNat]
  · rintro ⟨hhigh, hlow, rfl⟩
    have hvalid : (0x10000 + (m - 0xD800) * 0x400 + (n - 0xDC00)).isValidChar := by
      rw [Nat.isValidChar]
      omega
    rw [toNat_ofNat hvalid, if_neg (by omega)]
    simp only [List.cons.injEq, and_true]
    omega

/-! ## Reading -/

theorem readLowSurrogate_eq_ok_iff {cs rest : List Char} {n : Nat} :
    readLowSurrogate cs = .ok (n, rest) ↔
      ∃ digits, cs = '\\' :: 'u' :: (digits ++ rest) ∧ Quad digits n ∧ isLowSurrogate n = true := by
  constructor
  · intro h
    unfold readLowSurrogate at h
    split at h
    · cases h
    · cases h
    · split at h
      · rename_i hmarks
        obtain ⟨rfl, rfl⟩ := hmarks
        split at h
        · rename_i hunit
          split at h
          · rename_i hlow
            cases h
            obtain ⟨digits, rfl, hquad⟩ := readUnit_eq_ok_iff.mp hunit
            exact ⟨digits, rfl, hquad, hlow⟩
          · cases h
        · cases h
      · cases h
  · rintro ⟨digits, rfl, hquad, hlow⟩
    have hunit : readUnit (digits ++ rest) = .ok (n, rest) := readUnit_eq_ok_iff.mpr ⟨digits, rfl, hquad⟩
    simp [readLowSurrogate, hunit, hlow]

theorem readCodePoint_eq_ok_iff {cs rest : List Char} {c : Char} :
    readCodePoint cs = .ok (c, rest) ↔ ∃ w, cs = w ++ rest ∧ Writes ('\\' :: 'u' :: w) c := by
  constructor
  · intro h
    unfold readCodePoint at h
    split at h
    · cases h
    · rename_i n after hunit
      obtain ⟨digits, rfl, hquad⟩ := readUnit_eq_ok_iff.mp hunit
      split at h
      · cases h
      rename_i hlow
      split at h
      · rename_i hhigh
        split at h
        · rename_i m rest' hsecond
          rw [Except.ok.injEq, Prod.mk.injEq] at h
          obtain ⟨hchar, rfl⟩ := h
          obtain ⟨digits', rfl, hquad', hlow'⟩ := readLowSurrogate_eq_ok_iff.mp hsecond
          refine ⟨digits ++ '\\' :: 'u' :: digits', by simp, ?_⟩
          exact .pair (utf16_eq_pair_iff.mpr ⟨hhigh, hlow', hchar⟩) hquad hquad'
        · cases h
      · rename_i hhigh
        cases h
        exact ⟨digits, rfl, .unit (utf16_eq_unit_iff.mpr ⟨hquad.lt, hlow, hhigh, rfl⟩) hquad⟩
  · rintro ⟨w, rfl, hw⟩
    cases hw with
    | letter he => simp [letterEscapes] at he
    | unit hc hquad =>
      obtain ⟨_, hlow, hhigh, hchar⟩ := utf16_eq_unit_iff.mp hc
      have hunit : readUnit (w ++ rest) = _ := readUnit_eq_ok_iff.mpr ⟨w, rfl, hquad⟩
      simp [readCodePoint, hunit, hlow, hhigh, hchar]
    | @pair _ m n high low hc hquad hquad' =>
      obtain ⟨hhigh, hlow', hchar⟩ := utf16_eq_pair_iff.mp hc
      have hlow : isLowSurrogate m = false := by
        rw [isHighSurrogate_iff] at hhigh
        rw [Bool.eq_false_iff, ne_eq, isLowSurrogate_iff]
        omega
      have hunit : readUnit (high ++ ('\\' :: 'u' :: (low ++ rest))) = _ :=
        readUnit_eq_ok_iff.mpr ⟨high, rfl, hquad⟩
      have hsecond : readLowSurrogate ('\\' :: 'u' :: (low ++ rest)) = _ :=
        readLowSurrogate_eq_ok_iff.mpr ⟨low, rfl, hquad', hlow'⟩
      simp [readCodePoint, hunit, hlow, hhigh, hsecond, hchar]

theorem letterEscape?_eq_some_iff {e c : Char} : letterEscape? e = some c ↔ (e, c) ∈ letterEscapes := by
  constructor
  · intro h
    unfold letterEscape? at h
    split_ifs at h with h₁ h₂ h₃ h₄ h₅ h₆
    · simp only [Bool.or_eq_true, decide_eq_true_eq] at h₁
      cases h
      rcases h₁ with (rfl | rfl) | rfl <;> decide
    all_goals
      cases h
      subst e
      decide
  · have hall : ∀ p ∈ letterEscapes, letterEscape? p.1 = some p.2 := by decide
    exact hall (e, c)

theorem readEscape_eq_ok_iff {cs rest : List Char} {c : Char} :
    readEscape cs = .ok (c, rest) ↔ ∃ w, cs = w ++ rest ∧ Writes ('\\' :: w) c := by
  constructor
  · intro h
    unfold readEscape at h
    split at h
    · cases h
    · rename_i e after
      split at h
      · rename_i hletter
        cases h
        exact ⟨[e], rfl, .letter (letterEscape?_eq_some_iff.mp hletter)⟩
      · split at h
        · rename_i he
          subst he
          obtain ⟨w, rfl, hw⟩ := readCodePoint_eq_ok_iff.mp h
          exact ⟨'u' :: w, rfl, hw⟩
        · cases h
  · rintro ⟨w, rfl, hw⟩
    have hcode (w : List Char) (h : Writes ('\\' :: 'u' :: w) c) :
        readEscape ('u' :: (w ++ rest)) = .ok (c, rest) :=
      readCodePoint_eq_ok_iff.mpr ⟨w, rfl, h⟩
    cases hw with
    | plain _ hne _ => exact absurd rfl hne
    | letter he => simp [readEscape, letterEscape?_eq_some_iff.mpr he]
    | unit hc hquad => exact hcode _ (.unit hc hquad)
    | pair hc hquad hquad' => exact hcode _ (.pair hc hquad hquad')

theorem readText_escape {cs rest : List Char} {c : Char} (h : readEscape cs = .ok (c, rest)) :
    readText ('\\' :: cs) = consText c (readText rest) := by
  rw [readText, if_neg (by decide), if_pos rfl]
  split
  · rename_i h'
    rw [h] at h'
    cases h'
    rfl
  · rename_i h'
    rw [h] at h'
    cases h'

theorem readText_append {w : List Char} {c : Char} (h : Writes w c) (more : List Char) :
    readText (w ++ more) = consText c (readText more) := by
  have hescape (w : List Char) (h : Writes ('\\' :: w) c) :
      readText ('\\' :: (w ++ more)) = consText c (readText more) :=
    readText_escape (readEscape_eq_ok_iff.mpr ⟨w, rfl, h⟩)
  cases h with
  | plain hquote hbackslash hcontrol =>
    rw [List.singleton_append, readText, if_neg hquote, if_neg hbackslash, if_neg (by omega)]
  | letter he => exact hescape _ (.letter he)
  | unit hc hquad => exact hescape _ (.unit hc hquad)
  | pair hc hquad hquad' => exact hescape _ (.pair hc hquad hquad')

/-- A string is read from the characters that write it, up to the closing quote. -/
theorem readText_eq_ok_iff {cs text rest : List Char} :
    readText cs = .ok (text, rest) ↔ ∃ body, cs = body ++ '"' :: rest ∧ WritesAll body text := by
  constructor
  · intro h
    fun_induction readText cs generalizing text with
    | case1 => cases h
    | case2 => cases h; exact ⟨[], rfl, .nil⟩
    | case3 cs d after hescape _ ih =>
      obtain ⟨more, hmore, rfl⟩ := consText_eq_ok_iff.mp h
      obtain ⟨body, rfl, hbody⟩ := ih hmore
      obtain ⟨w, rfl, hw⟩ := readEscape_eq_ok_iff.mp hescape
      exact ⟨'\\' :: w ++ body, by simp, .cons hw hbody⟩
    | case4 => cases h
    | case5 => cases h
    | case6 c cs hquote hbackslash hcontrol ih =>
      obtain ⟨more, hmore, rfl⟩ := consText_eq_ok_iff.mp h
      obtain ⟨body, rfl, hbody⟩ := ih hmore
      exact ⟨[c] ++ body, rfl, .cons (.plain hquote hbackslash (by omega)) hbody⟩
  · rintro ⟨body, rfl, hbody⟩
    induction hbody with
    | nil => simp [readText]
    | cons hw _ ih => rw [List.append_assoc, readText_append hw, ih, consText]

/-! ## Writing -/

theorem hexDigit_mem (n : Nat) : (hexDigit n, n % 16) ∈ hexDigits := by
  have hall : ∀ d < 16, (Nat.digitChar d, d) ∈ hexDigits := by decide
  exact hall (n % 16) (Nat.mod_lt n (by decide))

/-- Four digits are enough for a control character, and the first two of them are zeros. -/
theorem quad_hexDigit {n : Nat} (h : n < 0x20) : Quad ['0', '0', hexDigit (n / 16), hexDigit n] n := by
  have hzero : ('0', 0) ∈ hexDigits := by decide
  have hvalue : ((0 * 16 + 0) * 16 + n / 16 % 16) * 16 + n % 16 = n := by omega
  have hquad := Quad.mk hzero hzero (hexDigit_mem (n / 16)) (hexDigit_mem n)
  rw [hvalue] at hquad
  exact hquad

theorem shortEscape_mem {c e : Char} (h : shortEscape? c = some e) : (e, c) ∈ letterEscapes := by
  unfold shortEscape? at h
  split_ifs at h
  all_goals
    cases h
    subst c
    decide

theorem writes_writtenChar (c : Char) : Writes (writtenChar c) c := by
  unfold writtenChar
  split
  · rename_i hc
    rw [Bool.or_eq_true, decide_eq_true_eq, decide_eq_true_eq] at hc
    rcases hc with rfl | rfl
    · exact .letter (by decide)
    · exact .letter (by decide)
  rename_i hplain
  split
  · rename_i hcontrol
    split
    · rename_i e he
      exact .letter (shortEscape_mem he)
    · exact .unit (if_pos (by omega)) (quad_hexDigit hcontrol)
  · rename_i hcontrol
    rw [Bool.or_eq_true, decide_eq_true_eq, decide_eq_true_eq, not_or] at hplain
    exact .plain hplain.1 hplain.2 (by omega)

theorem writesAll_written (text : List Char) : WritesAll (text.flatMap writtenChar) text := by
  induction text with
  | nil => exact .nil
  | cons c text ih => exact .cons (writes_writtenChar c) ih

end FilterExpr.Json
