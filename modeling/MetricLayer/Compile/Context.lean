import MetricLayer.Graph.Dependencies
import MetricLayer.Query.Request
import MetricLayer.Params.Set
import MetricLayer.Time.Relative
/-!
# What a query reads

Before any SQL is built, a request is resolved against the graph into a `QueryContext`: the
requested metrics and dimensions, the filters with the models they restrict, the segments,
and the *row metrics*: the aggregates, reached from the requested metrics through their
dependencies, whose per-row values the query must read. Every model something is resolved on
is *touched*, in order of first touch; those are the models the query joins.

A filter is prepared first: parameters are filled in and relative dates expanded. It
restricts rows when its `model.field` names are dimensions; it compares aggregates (and is
applied after grouping) when one of them is a metric. Dimensions that only filters name are
still computed in their model's rows, so that the filter can read them.
-/

namespace MetricLayer

open MetricLayer.Text

/-- The name under which user-written SQL reads a model's rows. -/
def sourceAlias : String := "t"

/-- A requested metric: how it was referenced, its output name, what it resolved to. -/
structure OutputMetric where
  reference : String
  column : String
  resolved : ResolvedMetric
  deriving Inhabited

/-- Whether a requested metric is computed with a window function. -/
def OutputMetric.isWindow (m : OutputMetric) : Bool := m.resolved.metric.kind.needsWindow

/-- A prepared filter: its SQL, the models whose dimensions it reads, and whether it
compares metrics. -/
structure QueryFilter where
  sql : String
  models : List String
  onMetrics : Bool
  deriving Inhabited

/-- A segment's condition on its model's rows. -/
structure SegmentFilter where
  model : String
  sql : String
  deriving Inhabited

/-- Two dimensions give the same column: same model and same output name. -/
def ResolvedDimension.sameColumn (a b : ResolvedDimension) : Bool :=
  a.model.name == b.model.name && a.column == b.column

/-- The output name of a metric reference: the part after its last `.`, trimmed. -/
def outputName (reference : String) : String :=
  trimBlank (((rsplitOnce reference ".").map (·.2)).getD reference)

/-- A request resolved against the graph. -/
structure QueryContext where
  graph : Graph
  dialect : Dialect
  ungrouped : Bool
  params : ParameterSet
  dimensions : List ResolvedDimension := []
  metrics : List OutputMetric := []
  filters : List QueryFilter := []
  segments : List SegmentFilter := []
  /-- Dimensions named by filters only. -/
  filterDimensions : List ResolvedDimension := []
  rowMetrics : List ResolvedMetric := []
  /-- Touched models, in order of first touch. -/
  models : List String := []
  /-- Canonical names of the metrics already searched for row metrics. -/
  visited : List String := []

namespace QueryContext

/-- Records a touched model. -/
def touch (ctx : QueryContext) (m : String) : QueryContext :=
  if ctx.models.contains m then ctx else { ctx with models := ctx.models ++ [m] }

/-- Adds the row metrics reached from a metric, depth first; a metric already searched is
skipped. Each level adds a new name, so `fuel` = the number of metrics plus one is enough. -/
def collectRowMetrics (ctx : QueryContext) : Nat → ResolvedMetric → Except Error QueryContext
  | 0, _ => pure ctx
  | fuel + 1, r => do
    let key := r.canonical
    if ctx.visited.contains key then return ctx
    let ctx := { ctx with visited := ctx.visited ++ [key] }
    let deps := ctx.graph.dependencies r.metric r.modelName
    let ctx := match r.metric.readsRows deps, r.model with
      | true, some m => { ctx.touch m.name with rowMetrics := ctx.rowMetrics ++ [r] }
      | _, _ => ctx
    deps.foldlM (fun ctx d => do
      let dr ← ctx.graph.resolveMetric d r.modelName
      ctx.collectRowMetrics fuel dr) ctx

/-- The fuel for `collectRowMetrics`. -/
def searchDepth (ctx : QueryContext) : Nat := ctx.graph.metricCount + 2

/-- Whether a dimension is requested. -/
def isRequested (ctx : QueryContext) (d : ResolvedDimension) : Bool :=
  ctx.dimensions.any (·.sameColumn d)

/-- Resolves one filter, recording the dimensions and metrics it names. -/
def addFilter (ctx : QueryContext) (filter : String) : Except Error QueryContext := do
  let sql ← expandRelativeDates (← ctx.params.interpolate filter) ctx.dialect
  let (ctx, models, onMetrics) ← (RefToken.scan sql).foldlM
    (fun (acc : QueryContext × List String × Bool) r => do
      let (ctx, models, onMetrics) := acc
      match splitOnce r.name "." with
      | none => pure acc
      | some (model, _) =>
        if !ctx.graph.hasModel model then pure acc
        else match ctx.graph.resolveDimension r.name with
          | .ok dim =>
            let models := if models.contains model then models else models ++ [model]
            let ctx := ctx.touch model
            let ctx := if ctx.isRequested dim || ctx.filterDimensions.any (·.sameColumn dim) then ctx
              else { ctx with filterDimensions := ctx.filterDimensions ++ [dim] }
            pure (ctx, models, onMetrics)
          | .error _ =>
            match ctx.graph.resolveMetric r.name none with
            | .ok metric =>
              let ctx ← (ctx.touch model).collectRowMetrics ctx.searchDepth metric
              pure (ctx, models, true)
            | .error _ => pure acc) (ctx, [], false)
  pure { ctx with filters := ctx.filters ++ [⟨sql, models, onMetrics⟩] }

/-- Resolves a request: metrics, dimensions, filters, then segments. -/
def resolve (g : Graph) (r : QueryRequest) (d : Dialect) (today : String) :
    Except Error QueryContext := do
  let ctx : QueryContext :=
    { graph := g, dialect := d, ungrouped := r.ungrouped,
      params := ParameterSet.make g.parameters r.parameters today }
  let ctx ← r.metrics.foldlM (fun ctx reference => do
    let resolved ← g.resolveMetric reference none
    let ctx := match resolved.modelName with
      | some m => ctx.touch m
      | none => ctx
    let ctx ← ctx.collectRowMetrics ctx.searchDepth resolved
    pure { ctx with metrics := ctx.metrics ++ [⟨reference, outputName reference, resolved⟩] }) ctx
  let ctx ← r.dimensions.foldlM (fun ctx reference => do
    let resolved ← g.resolveDimension reference
    pure { ctx.touch resolved.model.name with dimensions := ctx.dimensions ++ [resolved] }) ctx
  let ctx ← r.filters.foldlM addFilter ctx
  r.segments.foldlM (fun ctx reference => do
    let (model, segment) ← g.resolveSegment reference
    let sql ← ctx.params.interpolate (replaceAll segment.sql Metric.modelPlaceholder sourceAlias)
    pure { ctx.touch model.name with segments := ctx.segments ++ [⟨model.name, sql⟩] }) ctx

/-- The models of the row metrics, in order, each once. -/
def contributingModels (ctx : QueryContext) : List String :=
  ctx.rowMetrics.foldl (fun acc r =>
    match r.modelName with
    | some m => if acc.contains m then acc else acc ++ [m]
    | none => acc) []

/-- The row metrics of a model. -/
def rowMetricsOf (ctx : QueryContext) (model : String) : List ResolvedMetric :=
  ctx.rowMetrics.filter (·.modelName == some model)

/-- The dimensions computed in a model's rows: requested ones, then those of filters. -/
def cteDimensions (ctx : QueryContext) (model : String) : List ResolvedDimension :=
  (ctx.dimensions ++ ctx.filterDimensions).filter (·.model.name == model)

/-- Filters on rows. -/
def dimensionFilters (ctx : QueryContext) : List QueryFilter := ctx.filters.filter (!·.onMetrics)

/-- Filters on aggregates. -/
def metricFilters (ctx : QueryContext) : List QueryFilter := ctx.filters.filter (·.onMetrics)

/-- Models whose rows filters or segments restrict. -/
def restrictedModels (ctx : QueryContext) : List String :=
  ctx.dimensionFilters.flatMap (·.models) ++ ctx.segments.map (·.model)

/-- Models the result is sliced by: owners of dimensions, of row filters and of segments. -/
def slicingModels (ctx : QueryContext) : List String :=
  (ctx.dimensions.map (·.model.name) ++ ctx.dimensionFilters.flatMap (·.models) ++
    ctx.segments.map (·.model)).foldl (fun acc m => if acc.contains m then acc else acc ++ [m]) []

/-- Whether a requested metric needs a window function. -/
def hasWindowMetrics (ctx : QueryContext) : Bool := ctx.metrics.any (·.isWindow)

/-- The output columns: dimensions, then metrics. -/
def outputColumns (ctx : QueryContext) : List String :=
  ctx.dimensions.map (·.column) ++ ctx.metrics.map (·.column)

/-- The output column an ordering field names: a dimension by `model.column` or column, else a
metric by reference or column. -/
def orderColumn (ctx : QueryContext) (field : String) : Option String :=
  match ctx.dimensions.find? (fun d => d.model.name ++ "." ++ d.column == field || d.column == field) with
  | some d => some d.column
  | none => (ctx.metrics.find? (fun m => m.reference == field || m.column == field)).map (·.column)

/-- An unsupported-metric error, naming the first window metric requested. -/
def unsupported (ctx : QueryContext) (reason : String) : Error :=
  .unsupportedMetric (((ctx.metrics.find? (·.isWindow)).map (·.reference)).getD "") reason

end QueryContext

end MetricLayer
