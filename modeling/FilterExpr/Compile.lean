import FilterExpr.Condition.Check
import FilterExpr.Condition.Where
import FilterExpr.Parser

/-!
# FilterExpr.Compile

From filter text to a condition and on to a `WHERE` fragment. An error tells the stage at which it arose.
-/

namespace FilterExpr

inductive FilterError where
  | parse (e : ParseError)
  | check (e : CheckError)
  | mapping (e : RejectedField)
  deriving DecidableEq, Repr

def FilterError.message : FilterError → String
  | .parse e => "parse error: " ++ e.render
  | .check e => "syntax error: " ++ e.message
  | .mapping e => "transpile error: " ++ e.message

/-- The condition that a text stands for. -/
def compile (source : String) (limit : Nat := Parser.defaultLimit) :
    Except FilterError Condition := do
  let call ← (parse source limit).mapError .parse
  call.check.mapError .check

/-- The fragment for a text. -/
def toWhere (mapping : FieldMapping) (source : String) (limit : Nat := Parser.defaultLimit) :
    Except FilterError String := do
  let condition ← compile source limit
  (condition.toSql mapping).mapError .mapping

end FilterExpr
