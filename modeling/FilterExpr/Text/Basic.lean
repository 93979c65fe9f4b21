/-!
# FilterExpr.Text.Basic

Sets of code points, and the two classes of characters that need no long table. A set is listed as
inclusive runs in increasing order: the tables of the character classes are such lists, and `Run.covers`
decides membership. Blanks are the characters with the property `White_Space` of Unicode 17.0; they
separate tokens and have no other meaning outside quoted text. Digits are `0` to `9`.
-/

namespace FilterExpr.Text

/-! ## Runs of code points -/

/-- The code points from `first` to `last`, both included. -/
structure Run where
  first : Nat
  last : Nat
  deriving DecidableEq, Repr

/-- Membership in the union of runs in increasing order: the first run that does not end before `n`
decides. -/
def Run.covers : List Run → Nat → Bool
  | [], _ => false
  | r :: rs, n => bif n.ble r.last then r.first.ble n else covers rs n

/-! ## Blanks -/

/-- The code points with the property `White_Space`. -/
def blankRuns : List Run :=
  [⟨0x9, 0xD⟩, ⟨0x20, 0x20⟩, ⟨0x85, 0x85⟩, ⟨0xA0, 0xA0⟩, ⟨0x1680, 0x1680⟩, ⟨0x2000, 0x200A⟩,
   ⟨0x2028, 0x2029⟩, ⟨0x202F, 0x202F⟩, ⟨0x205F, 0x205F⟩, ⟨0x3000, 0x3000⟩]

def isBlank (c : Char) : Bool :=
  Run.covers blankRuns c.toNat

/-! ## Digits -/

def digitValue (c : Char) : Nat := c.toNat - '0'.toNat

/-- The number that digits denote, the most significant one first. -/
def ofDigits (digits : List Char) : Nat := digits.foldl (fun n c => n * 10 + digitValue c) 0

end FilterExpr.Text
