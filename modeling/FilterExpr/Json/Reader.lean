import FilterExpr.Span
import FilterExpr.Text.Basic

/-!
# FilterExpr.Json.Reader

Reading the JSON texts of objects whose members are strings. Reading goes from left to right and stops
at the first fault: the text ends too early, it is no JSON, or it is JSON of another shape. A number
is read whole before its shape is blamed, and one beyond the range of double precision is no JSON.
-/

namespace FilterExpr.Json

open Text (digitValue ofDigits)

inductive Fault where
  /-- The text ends too early. -/
  | truncated
  /-- The text is no JSON. -/
  | malformed
  /-- A value of another kind than asked for. -/
  | mismatched
  deriving DecidableEq, Repr

def isBlank (c : Char) : Bool := c = ' ' || c = '\n' || c = '\t' || c = '\r'

def skipBlanks (cs : List Char) : List Char := cs.dropWhile isBlank

/-! ## Strings -/

def hexValue? (c : Char) : Option Nat :=
  if '0' ≤ c ∧ c ≤ '9' then some (c.toNat - '0'.toNat)
  else if 'a' ≤ c ∧ c ≤ 'f' then some (c.toNat - 'a'.toNat + 10)
  else if 'A' ≤ c ∧ c ≤ 'F' then some (c.toNat - 'A'.toNat + 10)
  else none

/-- Reads four hexadecimal digits, for which four bytes have to be left. -/
def readUnit (cs : List Char) : Except Fault (Nat × List Char) :=
  if byteLength (cs.take 4) < 4 then .error .truncated
  else
    match cs with
    | a :: b :: c :: d :: rest =>
      match hexValue? a, hexValue? b, hexValue? c, hexValue? d with
      | some a, some b, some c, some d => .ok (((a * 16 + b) * 16 + c) * 16 + d, rest)
      | _, _, _, _ => .error .malformed
    | _ => .error .malformed

def isHighSurrogate (n : Nat) : Bool := 0xD800 ≤ n && n ≤ 0xDBFF

def isLowSurrogate (n : Nat) : Bool := 0xDC00 ≤ n && n ≤ 0xDFFF

/-- Reads the second half of a surrogate pair, which has to follow at once. -/
def readLowSurrogate : List Char → Except Fault (Nat × List Char)
  | [] => .error .truncated
  | [c] => .error (if c = '\\' then .truncated else .malformed)
  | c :: d :: rest =>
    if c = '\\' ∧ d = 'u' then
      match readUnit rest with
      | .ok (n, rest) => if isLowSurrogate n then .ok (n, rest) else .error .malformed
      | .error e => .error e
    else .error .malformed

/-- Reads what follows the letter of a code point escape. -/
def readCodePoint (cs : List Char) : Except Fault (Char × List Char) :=
  match readUnit cs with
  | .error e => .error e
  | .ok (n, rest) =>
    if isLowSurrogate n then .error .malformed
    else if isHighSurrogate n then
      match readLowSurrogate rest with
      | .ok (m, rest) => .ok (Char.ofNat (0x10000 + (n - 0xD800) * 0x400 + (m - 0xDC00)), rest)
      | .error e => .error e
    else .ok (Char.ofNat n, rest)

/-- The character that an escape of one letter stands for. -/
def letterEscape? (c : Char) : Option Char :=
  if c = '"' || c = '\\' || c = '/' then some c
  else if c = 'b' then some '\x08'
  else if c = 'f' then some '\x0c'
  else if c = 'n' then some '\n'
  else if c = 'r' then some '\r'
  else if c = 't' then some '\t'
  else none

/-- Reads what follows a backslash. -/
def readEscape : List Char → Except Fault (Char × List Char)
  | [] => .error .truncated
  | c :: rest =>
    match letterEscape? c with
    | some d => .ok (d, rest)
    | none => if c = 'u' then readCodePoint rest else .error .malformed

theorem readUnit_length {cs rest : List Char} {n : Nat} (h : readUnit cs = .ok (n, rest)) :
    rest.length < cs.length := by
  simp only [readUnit] at h
  split at h
  · cases h
  split at h
  · split at h <;> cases h
    simp
    omega
  · cases h

theorem readLowSurrogate_length {cs rest : List Char} {n : Nat}
    (h : readLowSurrogate cs = .ok (n, rest)) : rest.length < cs.length := by
  match cs with
  | [] => cases h
  | [_] => cases h
  | c :: d :: cs =>
    simp only [readLowSurrogate] at h
    split at h
    · split at h
      · rename_i hu
        split at h <;> cases h
        have := readUnit_length hu
        simp
        omega
      · cases h
    · cases h

theorem readCodePoint_length {cs rest : List Char} {c : Char}
    (h : readCodePoint cs = .ok (c, rest)) : rest.length < cs.length := by
  simp only [readCodePoint] at h
  split at h
  · cases h
  · rename_i hu
    have hlt := readUnit_length hu
    split at h
    · cases h
    split at h
    · split at h
      · rename_i hs
        rw [Except.ok.injEq, Prod.mk.injEq] at h
        exact h.2 ▸ Nat.lt_trans (readLowSurrogate_length hs) hlt
      · cases h
    · rw [Except.ok.injEq, Prod.mk.injEq] at h
      exact h.2 ▸ hlt

theorem readEscape_length {cs rest : List Char} {c : Char} (h : readEscape cs = .ok (c, rest)) :
    rest.length < cs.length := by
  match cs with
  | [] => cases h
  | _ :: cs =>
    simp only [readEscape] at h
    split at h
    · cases h
      simp
    · split at h
      · have := readCodePoint_length h
        simp
        omega
      · cases h

/-- Puts a character in front of the text that was read. -/
def consText (c : Char) : Except Fault (List Char × List Char) → Except Fault (List Char × List Char)
  | .ok (text, rest) => .ok (c :: text, rest)
  | .error e => .error e

theorem consText_eq_ok_iff {c : Char} {r : Except Fault (List Char × List Char)}
    {text rest : List Char} :
    consText c r = .ok (text, rest) ↔ ∃ more, r = .ok (more, rest) ∧ text = c :: more := by
  constructor
  · intro h
    match r with
    | .ok (more, _) => cases h; exact ⟨more, rfl, rfl⟩
    | .error _ => cases h
  · rintro ⟨more, rfl, rfl⟩
    rfl

/-- Reads the characters of a string after its opening quote, and its closing quote. -/
def readText (cs : List Char) : Except Fault (List Char × List Char) :=
  match cs with
  | [] => .error .truncated
  | c :: rest =>
    if c = '"' then .ok ([], rest)
    else if c = '\\' then
      match _h : readEscape rest with
      | .ok (d, rest) => consText d (readText rest)
      | .error e => .error e
    else if c.toNat < 0x20 then .error .malformed
    else consText c (readText rest)
termination_by cs.length
decreasing_by
  · have := readEscape_length _h
    simp
    omega
  · simp

theorem readText_length {cs rest text : List Char} (h : readText cs = .ok (text, rest)) :
    rest.length < cs.length := by
  fun_induction readText cs generalizing rest text with
  | case1 => cases h
  | case2 => cases h; simp
  | case3 cs d cs' hesc _ ih =>
    obtain ⟨_, ht, _⟩ := consText_eq_ok_iff.mp h
    have := ih ht
    have := readEscape_length hesc
    simp
    omega
  | case4 => cases h
  | case5 => cases h
  | case6 c cs _ _ _ ih =>
    obtain ⟨_, ht, _⟩ := consText_eq_ok_iff.mp h
    have := ih ht
    simp
    omega

/-! ## Values of another kind -/

/-- The fault of a text that starts like a word: that of the shape, if the word is there. -/
def wordFault : List Char → List Char → Fault
  | [], _ => .mismatched
  | _ :: _, [] => .truncated
  | w :: ws, c :: cs => if w = c then wordFault ws cs else .malformed

/-- A decimal number `digits * 10 ^ exponent`. Only the leading digits that fit in 64 bits are kept;
`full` says that a digit has been left out. -/
structure Decimal where
  digits : Nat
  exponent : Int
  full : Bool

/-- Takes a digit before the point. -/
def Decimal.pushWhole (n : Decimal) (c : Char) : Decimal :=
  let digits := n.digits * 10 + digitValue c
  if !n.full && digits < Nat.pow 2 64 then { n with digits := digits }
  else { n with exponent := n.exponent + 1, full := true }

/-- Takes a digit after the point. -/
def Decimal.pushFraction (n : Decimal) (c : Char) : Decimal :=
  let digits := n.digits * 10 + digitValue c
  if !n.full && digits < Nat.pow 2 64 then { n with digits := digits, exponent := n.exponent - 1 }
  else { n with full := true }

/-- The nearest number of 53 significant binary digits, on a tie the even one. -/
def roundDouble (n : Nat) : Nat :=
  let shift := n.log2 - 52
  let unit := Nat.pow 2 shift
  let quotient := n / unit
  let twice := 2 * (n % unit)
  if twice < unit ∨ (twice = unit ∧ quotient % 2 = 0) then quotient * unit
  else (quotient + 1) * unit

/-- Whether a number is too large for double precision. -/
def Decimal.isHuge (n : Decimal) : Bool :=
  n.digits != 0 && 0 ≤ n.exponent &&
    (308 < n.exponent ||
      Nat.pow 2 1024 - Nat.pow 2 970 ≤
        roundDouble n.digits * roundDouble (Nat.pow 10 n.exponent.toNat))

def Decimal.fault (n : Decimal) : Fault := if n.isHuge then .malformed else .mismatched

/-- The fault of a text that does not go on as it has to. -/
def stopFault : List Char → Fault
  | [] => .truncated
  | _ :: _ => .malformed

/-- The fault of a number whose exponent starts here. -/
def exponentFault (n : Decimal) (cs : List Char) : Fault :=
  let (negative, cs) :=
    match cs with
    | '+' :: rest => (false, rest)
    | '-' :: rest => (true, rest)
    | _ => (false, cs)
  let digits := cs.takeWhile Char.isDigit
  if digits.isEmpty then stopFault cs
  else
    let size : Nat := ofDigits digits
    { n with exponent := if negative then n.exponent - size else n.exponent + size : Decimal }.fault

/-- The fault of a number whose digits end here. -/
def numberEndFault (n : Decimal) : List Char → Fault
  | 'e' :: rest => exponentFault n rest
  | 'E' :: rest => exponentFault n rest
  | _ => n.fault

/-- The fault of a number after its digits before the point. -/
def fractionFault (n : Decimal) : List Char → Fault
  | '.' :: rest =>
    let digits := rest.takeWhile Char.isDigit
    if digits.isEmpty then stopFault rest
    else
      numberEndFault (digits.foldl Decimal.pushFraction { n with full := false })
        (rest.dropWhile Char.isDigit)
  | rest => numberEndFault n rest

/-- The fault of a number after its sign. A zero in front stands alone. -/
def numberFault (cs : List Char) : Fault :=
  let digits := cs.takeWhile Char.isDigit
  if digits.isEmpty then stopFault cs
  else if digits.head? = some '0' ∧ 1 < digits.length then .malformed
  else fractionFault (digits.foldl Decimal.pushWhole ⟨0, 0, false⟩) (cs.dropWhile Char.isDigit)

/-- The fault of a text in which a value of the kind asked for does not start here. -/
def valueFault : List Char → Fault
  | [] => .truncated
  | c :: rest =>
    if c = 'n' then wordFault "ull".toList rest
    else if c = 't' then wordFault "rue".toList rest
    else if c = 'f' then wordFault "alse".toList rest
    else if c = '-' then numberFault rest
    else if c.isDigit then numberFault (c :: rest)
    else if c = '"' then
      match readText rest with
      | .ok _ => .mismatched
      | .error e => e
    else if c = '[' ∨ c = '\x7b' then .mismatched
    else .malformed

/-! ## Objects of strings -/

/-- Reads a string value, with blanks before it. -/
def readString (cs : List Char) : Except Fault (String × List Char) :=
  match skipBlanks cs with
  | '"' :: rest =>
    match readText rest with
    | .ok (text, rest) => .ok (String.ofList text, rest)
    | .error e => .error e
  | rest => .error (valueFault rest)

/-- Reads a member whose opening quote has been taken: the rest of its key, a colon and a string. -/
def readMember (cs : List Char) : Except Fault ((String × String) × List Char) :=
  match readText cs with
  | .error e => .error e
  | .ok (key, rest) =>
    match skipBlanks rest with
    | ':' :: rest =>
      match readString rest with
      | .ok (value, rest) => .ok ((String.ofList key, value), rest)
      | .error e => .error e
    | rest => .error (stopFault rest)

theorem skipBlanks_length_le (cs : List Char) : (skipBlanks cs).length ≤ cs.length :=
  (List.dropWhile_suffix _).length_le

theorem length_lt_of_skipBlanks {c : Char} {cs rest : List Char} (h : skipBlanks cs = c :: rest) :
    rest.length < cs.length := by
  have := skipBlanks_length_le cs
  rw [h] at this
  simp at this
  omega

theorem readString_length {cs rest : List Char} {s : String} (h : readString cs = .ok (s, rest)) :
    rest.length < cs.length := by
  simp only [readString] at h
  split at h
  · rename_i hq
    split at h <;> cases h
    rename_i ht
    exact Nat.lt_trans (readText_length ht) (length_lt_of_skipBlanks hq)
  · cases h

theorem readMember_length {cs rest : List Char} {m : String × String}
    (h : readMember cs = .ok (m, rest)) : rest.length < cs.length := by
  simp only [readMember] at h
  split at h
  · cases h
  · rename_i ht
    split at h
    · rename_i hc
      split at h <;> cases h
      rename_i hs
      exact Nat.lt_trans (readString_length hs)
        (Nat.lt_trans (length_lt_of_skipBlanks hc) (readText_length ht))
    · cases h

/-- Reads the members of an object up to its closing brace; the opening quote of the first has been
taken. -/
def readMembers (cs : List Char) : Except Fault (List (String × String) × List Char) :=
  match _hm : readMember cs with
  | .error e => .error e
  | .ok (member, rest) =>
    match _hr : skipBlanks rest with
    | '\x7d' :: rest => .ok ([member], rest)
    | ',' :: rest =>
      match _hq : skipBlanks rest with
      | '"' :: rest =>
        match readMembers rest with
        | .ok (members, rest) => .ok (member :: members, rest)
        | .error e => .error e
      | rest => .error (stopFault rest)
    | rest => .error (stopFault rest)
termination_by cs.length
decreasing_by
  exact Nat.lt_trans (length_lt_of_skipBlanks _hq)
    (Nat.lt_trans (length_lt_of_skipBlanks _hr) (readMember_length _hm))

/-- Reads an object of strings. -/
def readObject (cs : List Char) : Except Fault (List (String × String) × List Char) :=
  match skipBlanks cs with
  | '\x7b' :: rest =>
    match skipBlanks rest with
    | '\x7d' :: rest => .ok ([], rest)
    | '"' :: rest => readMembers rest
    | rest => .error (stopFault rest)
  | rest => .error (valueFault rest)

/-- The members of an object of strings in the order of the text, which has to hold nothing else. -/
def readStrings (text : String) : Except Fault (List (String × String)) :=
  match readObject text.toList with
  | .ok (members, rest) => if (skipBlanks rest).isEmpty then .ok members else .error .malformed
  | .error e => .error e

end FilterExpr.Json
