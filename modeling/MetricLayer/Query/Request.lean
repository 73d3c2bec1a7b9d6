import MetricLayer.Json
import MetricLayer.Sql.Dialect
import MetricLayer.TableCalc.Calculation
/-!
# Query requests

What a caller asks for: metrics and dimensions by reference, filters and segments that restrict
the rows, ordering and pagination, whether rows are grouped, values of parameters, and
optionally a dialect, a choice about rollup tables and calculations over the result rows.
-/

namespace MetricLayer

/-- A query request. -/
structure QueryRequest where
  metrics : List String := []
  dimensions : List String := []
  filters : List String := []
  segments : List String := []
  /-- Entries `field [ASC|DESC]`. -/
  orderBy : List String := []
  limit : Option Nat := none
  offset : Option Nat := none
  /-- Return the rows themselves instead of grouping them. -/
  ungrouped : Bool := false
  parameters : List (String × Json) := []
  dialect : Option Dialect := none
  usePreaggregations : Option Bool := none
  tableCalculations : List TableCalc.Calculation := []
  deriving Inhabited

end MetricLayer
