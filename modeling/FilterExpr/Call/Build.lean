import FilterExpr.Call
import FilterExpr.Catalog
import FilterExpr.Text.Name

/-!
# FilterExpr.Call.Build

Call trees built by hand. The functions of the catalogue come with their names in upper case and their
fields in lower case; what they are called with is not checked.
-/

namespace FilterExpr.Call

def not (c : Call) : Call := ⟨Builtin.not.name, [.call c]⟩

def join (j : Junction) (l r : Call) : Call := ⟨j.name, [.call l, .call r]⟩

/-- A function on a field and a value. -/
def operator (name field : String) (value : Value) : Call :=
  ⟨name, [.value (.identifier (Text.lowerField field)), .value value]⟩

def compare (op : Comparison) (field : String) (value : Value) : Call :=
  operator op.name field value

def search (op : Search) (field : String) (value : Value) : Call :=
  operator op.name field value

end FilterExpr.Call

namespace FilterExpr.Value

/-- Quoted text without wildcards. -/
def ofText (text : String) : Value := .string (.literal text)

def ofInt (n : Int) : Value := .integer (toString n)

end FilterExpr.Value
