import FilterExpr.Main
import FilterExpr.Proofs.Call.Build
import FilterExpr.Proofs.Call.Json
import FilterExpr.Proofs.Condition.Readable
import FilterExpr.Proofs.Condition.Recase
import FilterExpr.Proofs.Condition.Recheck
import FilterExpr.Proofs.Condition.Where
import FilterExpr.Proofs.Parser.Limit
import FilterExpr.Proofs.Pattern.Like
import FilterExpr.Proofs.Pattern.Parts
import FilterExpr.Proofs.Session.Cursor
import FilterExpr.Proofs.Token.Longest
import FilterExpr.Proofs.Token.Parity
import FilterExpr.Proofs.Token.Spacing
