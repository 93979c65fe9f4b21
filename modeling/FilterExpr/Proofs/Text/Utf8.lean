import Mathlib.Data.List.Basic

/-!
# FilterExpr.Proofs.Text.Utf8

The order of texts by code point is the order of their bytes in UTF-8 (`utf8_lt_of_lt`).

A character is written as its digits to the base 64, each in a byte of its own, behind a first byte that
holds the rest of the number and tells how many digits there are (`utf8EncodeChar_eq_units`). Of two
characters with the same number of digits the smaller one has the smaller bytes, from the first on
(`units_append_lt`); with more digits the first byte is larger already.
-/

namespace FilterExpr.Text

/-- The bytes of a text. -/
def utf8 (s : String) : List UInt8 := s.toByteArray.data.toList

/-! ## Digits -/

/-- What is left of a number without its last digits to the base 64. -/
def lead : Nat → Nat → Nat
  | 0, n => n
  | k + 1, n => lead k (n / 64)

/-- The last digits of a number to the base 64 in a byte each, behind a byte for the rest. -/
def units (mark : Nat) : Nat → Nat → List UInt8
  | 0, n => [UInt8.ofNat (n + mark)]
  | k + 1, n => units mark k (n / 64) ++ [UInt8.ofNat (n % 64 + 0x80)]

theorem exists_units_eq_cons (mark k n : Nat) :
    ∃ more, units mark k n = UInt8.ofNat (lead k n + mark) :: more := by
  induction k generalizing n with
  | zero => exact ⟨[], rfl⟩
  | succ k ih =>
    obtain ⟨more, hmore⟩ := ih (n / 64)
    exact ⟨more ++ [UInt8.ofNat (n % 64 + 0x80)], by rw [units, hmore, lead, List.cons_append]⟩

theorem cons_ofNat_lt_iff {m n : Nat} (hm : m < 256) (hn : n < 256) {xs ys : List UInt8} :
    UInt8.ofNat m :: xs < UInt8.ofNat n :: ys ↔ m < n ∨ m = n ∧ xs < ys := by
  rw [List.cons_lt_cons_iff, UInt8.lt_iff_toNat_lt, ← UInt8.toNat_inj, UInt8.toNat_ofNat_of_lt' hm,
    UInt8.toNat_ofNat_of_lt' hn]

/-- By induction on the digits: either the numbers differ without the last one, or only there. -/
theorem units_append_lt {mark k : Nat} (xs ys : List UInt8) : ∀ {m n : Nat}, m < n →
    lead k n + mark < 256 → units mark k m ++ xs < units mark k n ++ ys := by
  induction k generalizing xs ys with
  | zero =>
    intro m n h hn
    rw [lead] at hn
    rw [units, units, List.singleton_append, List.singleton_append, cons_ofNat_lt_iff (by omega) hn]
    omega
  | succ k ih =>
    intro m n h hn
    rw [units, units, List.append_assoc, List.append_assoc]
    rcases Nat.lt_or_eq_of_le (Nat.div_le_div_right (c := 64) (Nat.le_of_lt h)) with hlt | heq
    · exact ih _ _ hlt hn
    · rw [heq]
      apply List.append_left_lt
      rw [List.singleton_append, List.singleton_append, cons_ofNat_lt_iff (by omega) (by omega)]
      omega

/-! ## Characters -/

/-- How many digits of a code point stand behind the first byte. -/
def digitCount (n : Nat) : Nat :=
  if n ≤ 0x7F then 0 else if n ≤ 0x7FF then 1 else if n ≤ 0xFFFF then 2 else 3

/-- What the first byte has on top of its part of the number, to tell how many digits follow. -/
def leadMark : Nat → Nat
  | 0 => 0
  | 1 => 0xC0
  | 2 => 0xE0
  | _ => 0xF0

def firstByte (n : Nat) : Nat := lead (digitCount n) n + leadMark (digitCount n)

theorem toNat_lt (c : Char) : c.toNat < 0x110000 := by
  rcases c.valid with h | ⟨_, h⟩
  · exact Nat.lt_trans h (by decide)
  · exact h

theorem utf8EncodeChar_eq_units (c : Char) :
    String.utf8EncodeChar c = units (leadMark (digitCount c.toNat)) (digitCount c.toNat) c.toNat := by
  have hbound := toNat_lt c
  have hencode : String.utf8EncodeChar c =
      if c.toNat ≤ 0x7F then [UInt8.ofNat c.toNat]
      else if c.toNat ≤ 0x7FF then
        [UInt8.ofNat (c.toNat / 64 % 32 + 0xC0), UInt8.ofNat (c.toNat % 64 + 0x80)]
      else if c.toNat ≤ 0xFFFF then
        [UInt8.ofNat (c.toNat / 4096 % 16 + 0xE0), UInt8.ofNat (c.toNat / 64 % 64 + 0x80),
          UInt8.ofNat (c.toNat % 64 + 0x80)]
      else
        [UInt8.ofNat (c.toNat / 262144 % 8 + 0xF0), UInt8.ofNat (c.toNat / 4096 % 64 + 0x80),
          UInt8.ofNat (c.toNat / 64 % 64 + 0x80), UInt8.ofNat (c.toNat % 64 + 0x80)] := rfl
  rw [hencode, digitCount]
  split_ifs
  · rfl
  · have hlead : c.toNat / 64 % 32 = c.toNat / 64 := by omega
    rw [hlead]
    rfl
  · have hlead : c.toNat / 4096 % 16 = c.toNat / 64 / 64 := by omega
    rw [hlead]
    rfl
  · have hlead : c.toNat / 262144 % 8 = c.toNat / 64 / 64 / 64 := by omega
    have hdigit : c.toNat / 4096 = c.toNat / 64 / 64 := by omega
    rw [hlead, hdigit]
    rfl

theorem firstByte_lt {n : Nat} (h : n < 0x110000) : firstByte n < 256 := by
  unfold firstByte digitCount
  split_ifs <;> simp only [lead, leadMark] <;> omega

/-- The larger of two code points has as many digits, or a larger first byte. -/
theorem digitCount_eq_or_firstByte_lt {m n : Nat} (h : m < n) :
    digitCount m = digitCount n ∨ firstByte m < firstByte n := by
  unfold firstByte digitCount
  split_ifs <;> simp only [lead, leadMark, true_or] <;> omega

theorem utf8EncodeChar_append_lt {c d : Char} (h : c < d) (xs ys : List UInt8) :
    String.utf8EncodeChar c ++ xs < String.utf8EncodeChar d ++ ys := by
  have hlt : c.toNat < d.toNat := UInt32.lt_iff_toNat_lt.mp h
  have hc := firstByte_lt (toNat_lt c)
  have hd := firstByte_lt (toNat_lt d)
  rw [utf8EncodeChar_eq_units, utf8EncodeChar_eq_units]
  rcases digitCount_eq_or_firstByte_lt hlt with heq | hfirst
  · rw [heq]
    exact units_append_lt xs ys hlt hd
  · obtain ⟨more, hmore⟩ := exists_units_eq_cons (leadMark (digitCount c.toNat)) (digitCount c.toNat)
      c.toNat
    obtain ⟨more', hmore'⟩ := exists_units_eq_cons (leadMark (digitCount d.toNat))
      (digitCount d.toNat) d.toNat
    rw [hmore, hmore', List.cons_append, List.cons_append]
    exact (cons_ofNat_lt_iff hc hd).mpr (.inl hfirst)

/-! ## Texts -/

theorem flatMap_utf8EncodeChar_lt {cs ds : List Char} (h : cs < ds) :
    cs.flatMap String.utf8EncodeChar < ds.flatMap String.utf8EncodeChar := by
  induction h with
  | @nil d ds =>
    obtain ⟨b, bs, hd⟩ := List.exists_cons_of_ne_nil (String.utf8EncodeChar_ne_nil (c := d))
    rw [List.flatMap_cons, hd]
    exact List.nil_lt_cons b _
  | rel hcd => exact utf8EncodeChar_append_lt hcd _ _
  | cons _ ih => exact List.append_left_lt ih

theorem utf8_eq (s : String) : utf8 s = s.toList.flatMap String.utf8EncodeChar := by
  rw [utf8, ← String.utf8Encode_toList]
  exact List.toList_data_toByteArray

theorem utf8_lt_of_lt {a b : String} (h : a < b) : utf8 a < utf8 b := by
  rw [utf8_eq, utf8_eq]
  exact flatMap_utf8EncodeChar_lt h

end FilterExpr.Text
