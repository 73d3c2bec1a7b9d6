import MetricLayer.Schema.Granularity
import MetricLayer.Time.Comparison
import MetricLayer.Text.Split
/-!
# Metrics

A metric is a named measure. A *simple* metric either aggregates a column of its model's rows
(`agg` is set) or is a formula over other metrics (`sql` only). The other kinds combine metrics:
a ratio of two metrics, a derived formula, a running (cumulative) value, a period-over-period
comparison, and a conversion funnel, which has no SQL form.

`Metric.rawExpression` is the per-row value an aggregate reads: the metric's SQL with the
model placeholder replaced by the row source, kept only on rows that pass the metric's filters.
-/

namespace MetricLayer

open MetricLayer.Text

/-- The kinds of metric. -/
inductive MetricKind where
  | simple
  | ratio
  | derived
  | cumulative
  | timeComparison
  | conversion
  deriving Repr, DecidableEq, Inhabited

namespace MetricKind

/-- All kinds of metric. -/
def all : List MetricKind := [simple, ratio, derived, cumulative, timeComparison, conversion]

/-- The name of a kind. -/
def name : MetricKind → String
  | simple => "simple"
  | ratio => "ratio"
  | derived => "derived"
  | cumulative => "cumulative"
  | timeComparison => "time_comparison"
  | conversion => "conversion"

/-- The kind with a name. -/
def ofName? (s : String) : Option MetricKind := all.find? (·.name == s)

/-- Kinds whose value is computed over the grouped result with a window function. -/
def needsWindow : MetricKind → Bool
  | cumulative | timeComparison => true
  | _ => false

end MetricKind

/-- The aggregate functions of simple metrics. -/
inductive Aggregation where
  | sum
  | count
  | countDistinct
  | avg
  | min
  | max
  | median
  deriving Repr, DecidableEq, Inhabited

namespace Aggregation

/-- All aggregate functions. -/
def all : List Aggregation := [sum, count, countDistinct, avg, min, max, median]

/-- The name of an aggregate function. -/
def name : Aggregation → String
  | sum => "sum"
  | count => "count"
  | countDistinct => "count_distinct"
  | avg => "avg"
  | min => "min"
  | max => "max"
  | median => "median"

/-- The aggregate function with a name. -/
def ofName? (s : String) : Option Aggregation := all.find? (·.name == s)

end Aggregation

/-- The value that replaces a missing metric value. -/
inductive FillValue where
  | int (i : Int)
  | float (x : Float)
  | text (s : String)
  deriving Repr, Inhabited

/-- Fill values are equal when of the same kind and value; doubles compare as numbers. -/
def FillValue.beq : FillValue → FillValue → Bool
  | .int a, .int b => a == b
  | .float a, .float b => a == b
  | .text a, .text b => a == b
  | _, _ => false

instance : BEq FillValue := ⟨FillValue.beq⟩

/-- A metric definition. -/
structure Metric where
  name : String
  kind : MetricKind := .simple
  agg : Option Aggregation := none
  sql : Option String := none
  numerator : Option String := none
  denominator : Option String := none
  /-- The per-row expression of a window metric, used when `sql` is absent. -/
  windowExpression : Option String := none
  /-- A rolling window such as `7 days`. -/
  window : Option String := none
  /-- Restart the running value at the start of every period of this grain. -/
  grainToDate : Option Granularity := none
  comparison : Option TimeComparison := none
  funnelSteps : List String := []
  /-- Row conditions; only rows passing all of them are aggregated. -/
  filters : List String := []
  fillNullsWith : Option FillValue := none
  description : Option String := none
  label : Option String := none
  deriving Repr, BEq, Inhabited

namespace Metric

/-- A simple metric that aggregates rows. -/
def isAggregate (m : Metric) : Bool := m.kind == .simple && m.agg.isSome

/-- A simple metric that is a formula over other metrics. -/
def isFormula (m : Metric) : Bool := m.kind == .simple && m.agg.isNone && m.sql.isSome

/-- The placeholder for a model's row source inside SQL fragments. -/
def modelPlaceholder : String := "\x7bmodel\x7d"

/-- The value one row contributes: the metric's SQL (else its window expression, else `1` for a
count, else its name) with the model placeholder replaced by `source`; under filters, a
`CASE` that keeps it only on rows passing every filter. -/
def rawExpression (m : Metric) (source : String) : String :=
  let body := match m.sql, m.windowExpression with
    | some s, _ => s
    | none, some w => w
    | none, none => if m.agg == some .count then "1" else m.name
  let body := replaceAll body modelPlaceholder source
  if m.filters.isEmpty then body
  else
    let condition := " AND ".intercalate
      (m.filters.map fun f => "(" ++ replaceAll f modelPlaceholder source ++ ")")
    "CASE WHEN " ++ condition ++ " THEN " ++ body ++ " END"

end Metric

end MetricLayer
