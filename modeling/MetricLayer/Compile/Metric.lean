import MetricLayer.Graph.Dependencies
import MetricLayer.Sql.Expr
/-!
# Compiling metrics to SQL expressions

A metric becomes one SQL expression, read against the relations of a query:

* an aggregate reads the `<metric>_raw` column of its model's relation: aggregated when the
  query groups rows, as is when it returns rows, and as the stored `<model>_agg` column when the
  aggregates were computed beforehand (`Scope`);
* a formula has each metric it names replaced by that metric's expression in parentheses;
* a ratio is `(numerator) / NULLIF(denominator, 0)`;
* window metrics and conversion metrics have no expression of this kind.

A fill value wraps the result in `COALESCE`. Compiled metrics are remembered by canonical name
(`Memo`), so a metric named by several formulas is compiled once; a metric met again while it
is being compiled is a dependency cycle. Failures leave the memory of the metrics compiled
before them in place.
-/

namespace MetricLayer

open MetricLayer.Sql

/-- Where aggregates read their inputs. -/
inductive Scope where
  /-- Rows grouped by the query; each model's rows are in the named relation. -/
  | grouped (sources : List (String × String))
  /-- Aggregates already computed in one `<model>_agg` relation per model. -/
  | preAggregated
  /-- Rows not grouped; each model's rows are in the named relation. -/
  | rows (sources : List (String × String))
  deriving Inhabited

/-- The relation of a model's aggregates. -/
def aggRelation (model : String) : String := model ++ "_agg"

/-- The relation of a model's rows. -/
def cteRelation (model : String) : String := model ++ "_cte"

/-- The column holding a metric's per-row value. -/
def rawColumn (metric : String) : String := metric ++ "_raw"

/-- The literal of a fill value. -/
def FillValue.literal : FillValue → Expr
  | .int i => .lit (.int i)
  | .float x => .lit (.float x)
  | .text s => .lit (.str s)

/-- `COALESCE(e, fill)` when the metric has a fill value. -/
def Metric.fillNulls (m : Metric) (e : Expr) : Expr :=
  match m.fillNullsWith with
  | some v => coalesce [e, v.literal]
  | none => e

/-- The relation of a model in a scope. -/
def sourceFor (sources : List (String × String)) (model : Model) (m : Metric) :
    Except Error String :=
  match sources.lookup model.name with
  | some s => .ok s
  | none => .error (.unsupportedMetric (model.name ++ "." ++ m.name)
      s!"model '{model.name}' is not part of this query")

/-- The expression of an aggregate metric of `model` in a scope (sum when no function is given). -/
def aggregateIn (scope : Scope) (d : Dialect) (model : Model) (m : Metric) : Except Error Expr :=
  match scope with
  | .preAggregated => .ok (tableCol (aggRelation model.name) m.name)
  | .rows sources => do
    let s ← sourceFor sources model m
    pure (tableCol s (rawColumn m.name))
  | .grouped sources => do
    let s ← sourceFor sources model m
    let input := tableCol s (rawColumn m.name)
    pure <| match m.agg.getD .sum with
      | .sum => fn "SUM" [input]
      | .count => fn "COUNT" [input]
      | .countDistinct => .call "COUNT" [input] true
      | .avg => fn "AVG" [input]
      | .min => fn "MIN" [input]
      | .max => fn "MAX" [input]
      | .median => .raw (d.median (input.render d))

/-- What the compiler remembers between metrics. -/
structure Memo where
  /-- Compiled metrics by canonical name. -/
  done : List (String × Expr) := []
  /-- Metrics being compiled. -/
  active : List String := []
  deriving Inhabited

/-- A compilation step: it may fail, and its memory survives a failure. -/
abbrev CompileM := ExceptT Error (StateM Memo)

/-- A result that may have failed, as a compilation step. -/
def CompileM.ofExcept {α : Type} : Except Error α → CompileM α
  | .ok a => pure a
  | .error e => throw e

/-- The fixed inputs of a compilation. -/
structure MetricCompiler where
  graph : Graph
  dialect : Dialect
  scope : Scope

namespace MetricCompiler

/-- The error of an aggregate metric without a model. -/
def unattached (m : Metric) : Error := .unsupportedMetric m.name "aggregates need a model"

mutual
/-- Compiles a metric reference seen from a context model. -/
def compile (c : MetricCompiler) : Nat → String → Option String → CompileM Expr
  | 0, reference, _ => throw (.unsupportedMetric reference "dependency chain too deep")
  | fuel + 1, reference, context => do
    let r ← CompileM.ofExcept (c.graph.resolveMetric reference context)
    c.compileResolved fuel r

/-- Compiles a resolved metric, from memory when it was compiled before. -/
def compileResolved (c : MetricCompiler) : Nat → ResolvedMetric → CompileM Expr
  | 0, r => throw (.unsupportedMetric r.metric.name "dependency chain too deep")
  | fuel + 1, r => do
    let key := r.canonical
    let memo ← get
    match memo.done.lookup key with
    | some e => pure e
    | none =>
      if memo.active.contains key then throw (.cyclicDependency [key, key])
      modify fun s => { s with active := key :: s.active }
      let result ← tryCatch (Except.ok <$> c.compileFresh fuel r) (fun e => pure (Except.error e))
      modify fun s => { s with active := s.active.erase key }
      match result with
      | .ok e =>
        modify fun s => { s with done := (key, e) :: s.done }
        pure e
      | .error e => throw e

/-- Compiles a resolved metric without looking in memory. -/
def compileFresh (c : MetricCompiler) : Nat → ResolvedMetric → CompileM Expr
  | 0, r => throw (.unsupportedMetric r.metric.name "dependency chain too deep")
  | fuel + 1, r => do
    let m := r.metric
    let context := r.modelName
    let e ← match m.kind with
      | .simple =>
        if m.agg.isSome then
          match r.model with
          | some model => CompileM.ofExcept (aggregateIn c.scope c.dialect model m)
          | none => throw (unattached m)
        else c.formula fuel m context
      | .derived => c.formula fuel m context
      | .ratio =>
        match m.numerator, m.denominator with
        | some num, some den => do
          let n ← c.compile fuel num context
          let dd ← c.compile fuel den context
          pure ((Expr.paren n).div (nullif dd (litInt 0)))
        | _, _ => throw (.unsupportedMetric m.name "ratio needs a numerator and a denominator")
      | .cumulative | .timeComparison =>
        throw (.unsupportedMetric m.name "window metrics must be requested directly, not referenced")
      | .conversion =>
        throw (.unsupportedMetric m.name "conversion metrics cannot be compiled to SQL")
    pure (m.fillNulls e)

/-- A formula with each metric it depends on replaced by its compiled SQL. -/
def formula (c : MetricCompiler) : Nat → Metric → Option String → CompileM Expr
  | 0, m, _ => throw (.unsupportedMetric m.name "dependency chain too deep")
  | fuel + 1, m, context => do
    let compiled ← (c.graph.dependencies m context).mapM fun dep => do
      let e ← c.compile fuel dep context
      pure (dep, e.render c.dialect)
    pure (.raw (RefToken.substitute (m.sql.getD "") compiled))
end

/-- How deep compilations may nest: each level compiles a metric not yet being compiled. -/
def depth (c : MetricCompiler) : Nat := 4 * (c.graph.metricCount + 2)

/-- Compiles a metric reference. -/
def compileRef (c : MetricCompiler) (reference : String) (context : Option String) :
    CompileM Expr :=
  c.compile c.depth reference context

/-- Compiles a resolved metric. -/
def compileMetric (c : MetricCompiler) (r : ResolvedMetric) : CompileM Expr :=
  c.compileResolved c.depth r

/-- The value a window metric runs over: the compared metric of a comparison; the first
dependency of a cumulative metric, or its own aggregate when it has none; otherwise the
metric itself. -/
def windowInput (c : MetricCompiler) (r : ResolvedMetric) : CompileM Expr := do
  let m := r.metric
  let context := r.modelName
  match m.kind with
  | .timeComparison =>
    match m.comparison with
    | some cmp => c.compileRef cmp.metric context
    | none => throw (.invalidTimeComparison s!"metric '{m.name}' has no comparison")
  | .cumulative =>
    match c.graph.dependencies m context with
    | dep :: _ => c.compileRef dep context
    | [] =>
      match r.model with
      | some model => CompileM.ofExcept (aggregateIn c.scope c.dialect model m)
      | none => throw (unattached m)
  | _ => c.compileMetric r

end MetricCompiler

end MetricLayer
