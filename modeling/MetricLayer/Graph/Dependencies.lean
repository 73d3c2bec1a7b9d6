import MetricLayer.Graph.Basic
import MetricLayer.Schema.RefToken
/-!
# Metric dependencies

The metrics a metric is computed from: the metric references of a formula, the two operands of
a ratio, the single reference of a cumulative metric, the base of a comparison. A bare name in a
formula counts as a metric only when it resolves (or is the metric's own name), so that column
names in formulas are not taken for metrics; a braced `${name}` always counts.

A metric *reads rows* when it aggregates them, or when it is a cumulative metric over a raw
expression. `Graph.metricModels` collects the models whose rows a metric reads, following its
dependencies; every canonical metric is visited once, so cyclic definitions end.
-/

namespace MetricLayer

open MetricLayer.Text

namespace Graph

/-- Whether a formula token names a metric: `model.x` when the model exists, a bare name when
it is the metric's own name or resolves. -/
def isMetricToken (g : Graph) (token : String) (m : Metric) (context : Option String) : Bool :=
  match splitOnce token "." with
  | some (modelName, _) => g.hasModel modelName
  | none => token == m.name || (g.resolveMetric token context).toBool

/-- The names a metric depends on, each once, in order of appearance. -/
def dependencies (g : Graph) (m : Metric) (context : Option String) : List String :=
  if m.isAggregate then [] else
  let found : List String := match m.kind with
    | .simple | .derived =>
      match m.sql with
      | some f => ((RefToken.scan f).filter fun r => r.braced || g.isMetricToken r.name m context).map (·.name)
      | none => []
    | .ratio => [m.numerator, m.denominator].filterMap (·.map trimBlank)
    | .cumulative =>
      match m.sql.bind RefToken.single? with
      | some n => if g.isMetricToken n m context then [n] else []
      | none => []
    | .timeComparison => (m.comparison.map fun c => [trimBlank c.metric]).getD []
    | .conversion => []
  found.foldl (fun acc d => if acc.contains d then acc else acc ++ [d]) []

end Graph

/-- A metric reads rows when it aggregates them, or when it is cumulative over no metric. -/
def Metric.readsRows (m : Metric) (deps : List String) : Bool :=
  m.isAggregate || (m.kind == .cumulative && deps.isEmpty)

namespace Graph

/-- Adds to `(models, seen)` the models whose rows `reference` reads, depth first; a canonical
name already seen is skipped. Each level adds a new name, so `fuel` = the number of metrics plus
one is enough. -/
def collectModels (g : Graph) : Nat → String → Option String → List String × List String →
    Except Error (List String × List String)
  | 0, _, _, acc => pure acc
  | fuel + 1, reference, context, (models, seen) => do
    let r ← g.resolveMetric reference context
    if seen.contains r.canonical then return (models, seen)
    let seen := seen ++ [r.canonical]
    let deps := g.dependencies r.metric r.modelName
    let models := match r.metric.readsRows deps, r.model with
      | true, some m => if models.contains m.name then models else models ++ [m.name]
      | _, _ => models
    deps.foldlM (fun acc d => g.collectModels fuel d r.modelName acc) (models, seen)

/-- The models whose rows a metric reads, in order of discovery. -/
def metricModels (g : Graph) (reference : String) (context : Option String) :
    Except Error (List String) :=
  (·.1) <$> g.collectModels (g.metricCount + 2) reference context ([], [])

end Graph

end MetricLayer
