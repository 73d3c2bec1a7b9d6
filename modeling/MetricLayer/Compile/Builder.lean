import MetricLayer.Compile.Context
import MetricLayer.Compile.Metric
import MetricLayer.Graph.Join
import MetricLayer.Sql.Query
/-!
# Building the query

Every model a query joins gets one common table expression, `<model>_cte`, that reads its
table (or query) as `t` and computes exactly what the query needs from its rows: the primary
key, the join keys, the dimensions (truncated to their grain) and the per-row values of its
row metrics (`<metric>_raw`), restricted by the model's segments.

The query then has one of two shapes:

* *inline*: one base model (the first whose rows are aggregated) is joined along the join tree
  to every other touched model, and everything is selected and grouped at once;
* *per model*: when rows of several models are aggregated, each of them is aggregated on its
  own join tree (`<model>_agg`), and the partial results are merged on the dimensions with a
  full outer join (a left join where the dialect has none), the dimensions taken from whichever
  side has them.

A join that can match several rows of its target would count the base rows several times; then
the base rows are first made distinct (`deduped`) on the base key and the columns read.
Filters on dimensions restrict rows, and make the joins to their models inner joins; filters on
metrics are applied to the aggregates. Window metrics wrap the grouped query (`base`) and are
computed over its rows, ordered by the first time dimension.
-/

namespace MetricLayer

open MetricLayer.Sql MetricLayer.Text

/-- How the query is put together. -/
inductive Shape where
  | inline (base : String) (path : JoinPath)
  | perModel (parts : List (String × JoinPath))
  deriving Inhabited

/-- A relation joining the touched models, and the relation each model's columns are read from. -/
structure JoinedSource where
  query : Query
  relations : List (String × String)
  deriving Inhabited

/-- Where a dimension's column is read in a joined source. -/
def JoinedSource.dimension (src : JoinedSource) (d : ResolvedDimension) : Sql.Expr :=
  tableCol ((src.relations.lookup d.model.name).getD (cteRelation d.model.name)) d.column

/-- Adds a named column unless one of that name is there already. -/
def addColumn (cols : List SelectItem) (name : String) (e : Sql.Expr) : List SelectItem :=
  if cols.any (·.asName == some name) then cols else cols ++ [⟨e, some name⟩]

/-- A condition written by a user: trimmed, and parenthesised when it has an `OR`. -/
def predicate (sql : String) : Sql.Expr :=
  let s := trimBlank sql
  if containsText (s.map Char.toUpper) " OR " then .paren (.raw s) else .raw s

/-- Runs a compilation with an empty memory. -/
def CompileM.runFresh {α : Type} (m : CompileM α) : Except Error α := (Id.run (m.run.run {})).1

/-- The name of the subquery of distinct base rows. -/
def dedupedRelation : String := "deduped"

/-- The name of the grouped query under window metrics. -/
def baseRelation : String := "base"

namespace QueryContext

/-- The shape of the query. -/
def shape (ctx : QueryContext) : Except Error Shape := do
  let contributing := ctx.contributingModels
  if contributing.length > 1 && !ctx.ungrouped then
    let slicing := ctx.slicingModels
    let parts ← contributing.mapM fun m => do
      let path ← ctx.graph.joinTree m (slicing.filter (· != m))
      pure (m, path)
    return .perModel parts
  let base ← match contributing.head? <|> ctx.models.head? with
    | some b => pure b
    | none => throw (.invalidReference "query does not touch any model")
  let path ← ctx.graph.joinTree base (ctx.models.filter (· != base))
  pure (.inline base path)

/-- The rows of one model as the query needs them. -/
def modelRows (ctx : QueryContext) (model : Model) (keys : List String) : Except Error Query := do
  let source ← match model.table, model.sql with
    | some t, _ => pure (Source.rawTable t)
    | none, some s => pure (Source.sql (← ctx.params.interpolate s))
    | none, none =>
      throw (.modelInvalid model.name [s!"Model '{model.name}' must have either 'table' or 'sql' defined"])
  let cols := addColumn [] model.primaryKey (.raw model.primaryKey)
  let cols := keys.foldl (fun cols k => addColumn cols k (.raw k)) cols
  let cols := (ctx.cteDimensions model.name).foldl (fun cols dim =>
    let e := replaceAll dim.dimension.sqlExpr Metric.modelPlaceholder sourceAlias
    let e := match dim.granularity with
      | some g => ctx.dialect.dateTrunc g.name e
      | none => e
    addColumn cols dim.column (.raw e)) cols
  let cols := (ctx.rowMetricsOf model.name).foldl (fun cols r =>
    addColumn cols (rawColumn r.metric.name) (.raw (r.metric.rawExpression sourceAlias))) cols
  let q : Query := { select := cols, source := some (source, some sourceAlias) }
  pure ((ctx.segments.filter (·.model == model.name)).foldl (fun q s => q.addFilter (predicate s.sql)) q)

/-- The common table expressions of the joined models: the base of each tree, then the models
of its joins in order, each with the keys its joins use. -/
def modelCtes (ctx : QueryContext) (shape : Shape) : Except Error (List (String × Query)) := do
  let trees := match shape with
    | .inline b p => [(b, p)]
    | .perModel ps => ps
  let addKey (keys : List (String × List String)) (m k : String) : List (String × List String) :=
    match keys.lookup m with
    | some ks => keys.map fun (m', ks') => if m' == m then (m', ks ++ [k]) else (m', ks')
    | none => keys ++ [(m, [k])]
  let (order, keys) := trees.foldl (fun (acc : List String × List (String × List String)) (base, path) =>
    let (order, keys) := acc
    let order := if order.contains base then order else order ++ [base]
    path.steps.foldl (fun (acc : List String × List (String × List String)) step =>
      [(step.source, step.sourceKey), (step.target, step.targetKey)].foldl
        (fun (acc : List String × List (String × List String)) (m, k) =>
          let (order, keys) := acc
          (if order.contains m then order else order ++ [m], addKey keys m k)) acc) (order, keys))
    ([], [])
  order.mapM fun name => do
    let model ← ctx.graph.getModel name
    let q ← ctx.modelRows model ((keys.lookup name).getD [])
    pure (cteRelation name, q)

/-- A filter with its `model.field` names replaced: dimensions by `locate`, metrics by their
compiled expression when a compiler is given. -/
def renderFilter (ctx : QueryContext) (f : QueryFilter) (compiler : Option MetricCompiler)
    (locate : ResolvedDimension → Except Error Sql.Expr) : CompileM Sql.Expr := do
  let compiled ← (RefToken.scan f.sql).foldlM (fun (compiled : List (String × String)) r => do
    if (compiled.lookup r.name).isSome then return compiled
    match splitOnce r.name "." with
    | none => pure compiled
    | some (model, _) =>
      if !ctx.graph.hasModel model then pure compiled
      else match ctx.graph.resolveDimension r.name with
        | .ok dim =>
          let e ← CompileM.ofExcept (locate dim)
          pure (compiled ++ [(r.name, e.render ctx.dialect)])
        | .error _ =>
          match compiler with
          | some c =>
            let e ← c.compileRef r.name none
            pure (compiled ++ [(r.name, "(" ++ e.render ctx.dialect ++ ")")])
          | none => pure compiled) []
  pure (predicate (RefToken.replaceRefs f.sql fun r => compiled.lookup r.name))

/-- The models joined along a path and the relations their columns are read from; with the
filters on rows applied, and the base rows made distinct when a join fans out. -/
def joinedSource (ctx : QueryContext) (base : String) (path : JoinPath) :
    Except Error JoinedSource := do
  let restricted := ctx.restrictedModels
  let q0 : Query := { source := some (.named (cteRelation base), none) }
  let q := path.steps.foldl (fun (q : Query) step =>
    let on := (tableCol (cteRelation step.source) step.sourceKey).eq
      (tableCol (cteRelation step.target) step.targetKey)
    let kind := if restricted.contains step.target then JoinKind.inner else .left
    { q with joins := q.joins ++ [⟨kind, .named (cteRelation step.target), none, some on⟩] }) q0
  let models := path.steps.foldl (fun ms s => if ms.contains s.target then ms else ms ++ [s.target]) [base]
  let q ← ctx.dimensionFilters.foldlM (fun (q : Query) f => do
    let c ← (ctx.renderFilter f none fun d => pure (tableCol (cteRelation d.model.name) d.column)).runFresh
    pure (q.addFilter c)) q
  let fansOut := !ctx.ungrouped && path.fansOut && !(ctx.rowMetricsOf base).isEmpty
  if !fansOut then return ⟨q, models.map fun m => (m, cteRelation m)⟩
  let baseModel ← ctx.graph.getModel base
  let baseCte := cteRelation base
  let cols := addColumn [] baseModel.primaryKey (tableCol baseCte baseModel.primaryKey)
  let cols := models.foldl (fun cols m => (ctx.cteDimensions m).foldl (fun cols dim =>
    addColumn cols dim.column (tableCol (cteRelation m) dim.column)) cols) cols
  let cols := (ctx.rowMetricsOf base).foldl (fun cols r =>
    addColumn cols (rawColumn r.metric.name) (tableCol baseCte (rawColumn r.metric.name))) cols
  let inner := { q with distinct := true, select := cols }
  pure ⟨{ source := some (.subquery inner, some dedupedRelation) }, models.map fun m => (m, dedupedRelation)⟩

/-- A dimension a metric filter reads: it must be requested unless rows are not grouped. -/
def groupedDimension (ctx : QueryContext) (f : QueryFilter) (d : ResolvedDimension)
    (locate : ResolvedDimension → Sql.Expr) : Except Error Sql.Expr :=
  if ctx.ungrouped || ctx.isRequested d then .ok (locate d)
  else .error (.invalidReference
    s!"filter '{f.sql}' compares metrics with '{d.model.name}.{d.column}', which is not a requested dimension")

/-- The column of a requested metric; a window metric gives the input it runs over. -/
def metricColumn (c : MetricCompiler) (m : OutputMetric) : CompileM SelectItem := do
  if m.isWindow then
    let input ← c.windowInput m.resolved
    pure ⟨input, some (m.column ++ "_input")⟩
  else
    let e ← c.compileMetric m.resolved
    pure ⟨e, some m.column⟩

/-- The inline shape: everything selected from one joined source. -/
def inlineQuery (ctx : QueryContext) (base : String) (path : JoinPath) : Except Error Query := do
  let src ← ctx.joinedSource base path
  let scope := if ctx.ungrouped then Scope.rows src.relations else .grouped src.relations
  let c : MetricCompiler := ⟨ctx.graph, ctx.dialect, scope⟩
  let dims := ctx.dimensions.map fun d => (d.column, src.dimension d)
  CompileM.runFresh do
    let q := { src.query with select := src.query.select ++ dims.map fun (a, e) => ⟨e, some a⟩ }
    let q ← ctx.metrics.foldlM (fun (q : Query) m => do
      let item ← metricColumn c m
      pure { q with select := q.select ++ [item] }) q
    let q :=
      if !ctx.ungrouped && !dims.isEmpty && !ctx.metrics.isEmpty then { q with groupBy := dims.map (·.2) }
      else if !ctx.ungrouped && ctx.metrics.isEmpty then { q with distinct := true }
      else q
    ctx.metricFilters.foldlM (fun (q : Query) f => do
      let cond ← ctx.renderFilter f (some c) fun d => ctx.groupedDimension f d src.dimension
      pure (if ctx.ungrouped then q.addFilter cond else q.addHaving cond)) q

/-- The per-model shape: one aggregate relation per model, merged on the dimensions. -/
def perModelQuery (ctx : QueryContext) (parts : List (String × JoinPath)) : Except Error Query := do
  let d := ctx.dialect
  let (ctes, aggs) ← parts.foldlM (fun (acc : List (String × Query) × List String) (model, path) => do
    let (ctes, aggs) := acc
    let src ← ctx.joinedSource model path
    let scope := Scope.grouped src.relations
    let dims := ctx.dimensions.map fun dim => (dim.column, src.dimension dim)
    let agg := { src.query with select := src.query.select ++ dims.map fun (a, e) => ⟨e, some a⟩ }
    let agg ← (ctx.rowMetricsOf model).foldlM (fun (agg : Query) r => do
      let owner ← ctx.graph.getModel model
      let e ← aggregateIn scope d owner r.metric
      pure { agg with select := agg.select ++ [⟨e, some r.metric.name⟩] }) agg
    let agg := if dims.isEmpty then agg else { agg with groupBy := dims.map (·.2) }
    pure (ctes ++ [(aggRelation model, agg)], aggs ++ [aggRelation model])) ([], [])
  let merged (column : String) : Sql.Expr := coalesce (aggs.map fun a => tableCol a column)
  let kind := if d.supportsFullOuterJoin then JoinKind.full else .left
  let first := aggs.headD ""
  let q : Query := { ctes := ctes, source := aggs.head?.map fun a => (.named a, none) }
  let (q, _) := (aggs.drop 1).foldl (fun (acc : Query × List String) agg =>
    let (q, prior) := acc
    let cond := ctx.dimensions.foldl (fun (cond : Option Sql.Expr) dim =>
      let column := dim.column
      let before := if prior.length == 1 then tableCol first column
        else coalesce (prior.map fun a => tableCol a column)
      let eq := Sql.Expr.raw (d.nullSafeEq (before.render d) ((tableCol agg column).render d))
      some (match cond with | some c => c.and eq | none => eq)) none
    let join : Join := match cond with
      | some on => ⟨kind, .named agg, none, some on⟩
      | none => ⟨.cross, .named agg, none, none⟩
    ({ q with joins := q.joins ++ [join] }, prior ++ [agg])) (q, [first])
  let q := { q with select := q.select ++ ctx.dimensions.map fun dim => ⟨merged dim.column, some dim.column⟩ }
  let c : MetricCompiler := ⟨ctx.graph, d, .preAggregated⟩
  CompileM.runFresh do
    let q ← ctx.metrics.foldlM (fun (q : Query) m => do
      let item ← metricColumn c m
      pure { q with select := q.select ++ [item] }) q
    ctx.metricFilters.foldlM (fun (q : Query) f => do
      let cond ← ctx.renderFilter f (some c) fun dim => ctx.groupedDimension f dim (merged ·.column)
      pure (q.addFilter cond)) q

/-- The time dimension window metrics run along: the first requested one, with its grain. -/
def windowTimeDimension (ctx : QueryContext) : Except Error (String × Option Granularity) :=
  match ctx.dimensions.find? (·.dimension.isTime) with
  | some dim => .ok (dim.column, dim.granularity <|> dim.dimension.granularity)
  | none => .error (ctx.unsupported "window metrics need a time dimension in the query")

/-- A running aggregate over the grouped rows, per series, in time order. -/
def cumulativeExpression (ctx : QueryContext) (m : Metric) (input order : Sql.Expr)
    (series : List Sql.Expr) : Except Error Sql.Expr := do
  let d := ctx.dialect
  let running := match m.agg with
    | some .min => fn "MIN" [input]
    | some .max => fn "MAX" [input]
    | _ => fn "SUM" [input]
  let toCurrent : Frame := ⟨.rows, .unboundedPreceding, .currentRow⟩
  match m.grainToDate with
  | some g =>
    let period := Sql.Expr.raw (d.dateTrunc g.name (order.render d))
    pure (.window running (series ++ [period]) [order] (some toCurrent))
  | none =>
    match m.window with
    | some spec =>
      let (amount, unit) ← parseWindow spec
      let (amount, unitName) ← unit.intervalParts amount
      match ← d.intervalLiteral amount unitName with
      | some interval =>
        pure (.window running series [order] (some ⟨.range, .intervalPreceding interval, .currentRow⟩))
      | none => throw (.unsupportedMetric m.name s!"{d.name} has no interval frames for rolling windows")
    | none => pure (.window running series [order] (some toCurrent))

/-- The value of a window metric over the grouped rows. -/
def windowExpression (ctx : QueryContext) (om : OutputMetric) (input order : Sql.Expr)
    (series : List Sql.Expr) (grain : Option Granularity) : Except Error Sql.Expr := do
  let d := ctx.dialect
  let m := om.resolved.metric
  let e ← match m.kind with
    | .timeComparison =>
      let cmp ← match m.comparison with
        | some c => pure c
        | none => throw (.invalidTimeComparison s!"metric '{m.name}' has no comparison defined")
      let lag ← cmp.lagOffset grain
      pure (Sql.Expr.raw ((comparisonExpr cmp.calculation (input.render d) (order.render d)
        (series.map (·.render d)) lag).render d))
    | _ => ctx.cumulativeExpression m input order series
  pure (m.fillNulls e)

/-- Window metrics over the grouped query. -/
def windowQuery (ctx : QueryContext) (grouped : Query) : Except Error Query := do
  let (timeAlias, grain) ← ctx.windowTimeDimension
  let q : Query := { ctes := grouped.ctes ++ [(baseRelation, { grouped with ctes := [] })],
                     source := some (.named baseRelation, none) }
  let q := { q with select := ctx.dimensions.map fun d => ⟨tableCol baseRelation d.column, some d.column⟩ }
  let order := tableCol baseRelation timeAlias
  let series := ((ctx.dimensions.map (·.column)).filter (· != timeAlias)).map (tableCol baseRelation)
  ctx.metrics.foldlM (fun (q : Query) m => do
    let e ← if m.isWindow then
        ctx.windowExpression m (tableCol baseRelation (m.column ++ "_input")) order series grain
      else pure (tableCol baseRelation m.column)
    pure { q with select := q.select ++ [⟨e, some m.column⟩] }) q

/-- The query reading the raw rows. -/
def buildQuery (ctx : QueryContext) : Except Error Query := do
  let windowed := ctx.hasWindowMetrics
  if windowed && ctx.ungrouped then throw (ctx.unsupported "window metrics need a grouped query")
  let shape ← ctx.shape
  let ctes ← ctx.modelCtes shape
  let grouped ← match shape with
    | .inline base path => ctx.inlineQuery base path
    | .perModel parts => ctx.perModelQuery parts
  let q ← if windowed then ctx.windowQuery grouped else pure grouped
  pure { q with ctes := ctes ++ q.ctes }

end QueryContext

end MetricLayer
