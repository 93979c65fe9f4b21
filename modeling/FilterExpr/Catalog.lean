/-!
# FilterExpr.Catalog

The functions that a checked filter may call. Junctions and `NOT` take conditions; comparisons and
searches take a field and a value. `Builtin.ofName?` looks a function up by its name in upper case.
-/

namespace FilterExpr

inductive Junction where
  | and
  | or
  deriving DecidableEq, Repr

inductive Comparison where
  | eq
  | neq
  | gt
  | gte
  | lt
  | lte
  deriving DecidableEq, Repr

/-- Comparisons with quoted text only. -/
inductive Search where
  | contains
  | within
  deriving DecidableEq, Repr

inductive Builtin where
  | not
  | junction (j : Junction)
  | comparison (op : Comparison)
  | search (op : Search)
  deriving DecidableEq, Repr

def Junction.name : Junction → String
  | .and => "AND"
  | .or => "OR"

def Comparison.name : Comparison → String
  | .eq => "EQ"
  | .neq => "NEQ"
  | .gt => "GT"
  | .gte => "GTE"
  | .lt => "LT"
  | .lte => "LTE"

def Search.name : Search → String
  | .contains => "CONTAINS"
  | .within => "IN"

namespace Builtin

/-- The groups of functions that take the same parameters. -/
inductive Family where
  | unary
  | binary
  | operator
  deriving DecidableEq, Repr

def Family.name : Family → String
  | .unary => "logical-unary"
  | .binary => "logical-binary"
  | .operator => "operator"

/-- The number of parameters. -/
def Family.arity : Family → Nat
  | .unary => 1
  | .binary => 2
  | .operator => 2

def family : Builtin → Family
  | .not => .unary
  | .junction _ => .binary
  | .comparison _ => .operator
  | .search _ => .operator

def arity (f : Builtin) : Nat := f.family.arity

def name : Builtin → String
  | .not => "NOT"
  | .junction j => j.name
  | .comparison op => op.name
  | .search op => op.name

def all : List Builtin :=
  [.not, .junction .and, .junction .or,
   .comparison .eq, .comparison .neq, .comparison .gt, .comparison .gte, .comparison .lt,
   .comparison .lte, .search .contains, .search .within]

/-- The function of the given name, compared letter by letter. -/
def ofName? (name : String) : Option Builtin := all.find? (·.name = name)

theorem ofName?_name (f : Builtin) : ofName? f.name = some f := by
  cases f with
  | not => decide
  | junction j => cases j <;> decide
  | comparison op => cases op <;> decide
  | search op => cases op <;> decide

theorem name_eq_of_ofName? {name : String} {f : Builtin} (h : ofName? name = some f) :
    f.name = name := by
  have := List.find?_some h
  simpa using this

/-- No two functions share a name. -/
theorem ofName?_eq_some_iff {name : String} {f : Builtin} :
    ofName? name = some f ↔ f.name = name :=
  ⟨name_eq_of_ofName?, fun h => h ▸ ofName?_name f⟩

end Builtin

end FilterExpr
