import MetricLayer.Compile.Builder
import MetricLayer.Rollup.Query
import MetricLayer.Validation.Query
import MetricLayer.Settings.Config
import MetricLayer.Schema.Order
/-!
# Query plans

`Graph.explain` turns a request into SQL: the request is checked, resolved, routed to a rollup
when rollups are enabled and one covers it, built from the raw rows otherwise, and then ordered
and paginated. The `QueryPlan` records the SQL with how it was chosen; `QueryPlan.text` is its
readable form.

Only a grouped query on a single model can be routed. With routing disabled the rollups are
still checked, and reported, but none is selected.
-/

namespace MetricLayer

open MetricLayer.Sql MetricLayer.Text

/-- The reason given when routing is disabled. -/
def routingDisabled : String := "pre-aggregation routing disabled"

/-- A compiled query and how it was chosen. -/
structure QueryPlan where
  sql : String
  /-- The model, when the query touches exactly one. -/
  model : Option String
  metrics : List String
  dimensions : List String
  selectedPreaggregation : Option String
  reason : String
  candidates : List Rollup.Candidate
  deriving Inhabited

/-- A line that ended at a line feed, without the carriage return before the feed. -/
def dropReturn (l : String) : String :=
  if l.endsWith "\r" then String.ofList l.toList.dropLast else l

/-- The lines of a text: split at line feeds, a carriage return just before a feed dropped, and
no empty last line after a final feed. A carriage return ending the text stays. -/
def textLines (s : String) : List String :=
  let parts := s.splitOn "\n"
  let ended := parts.dropLast.map dropReturn
  match parts.getLast? with
  | some "" | none => ended
  | some last => ended ++ [last]

/-- The readable form of a plan. -/
def QueryPlan.text (p : QueryPlan) : String :=
  let header := ["Query Plan"] ++
    (p.model.map (fun m => ["  Model: " ++ m])).getD [] ++
    (if p.metrics.isEmpty then [] else ["  Metrics: " ++ ", ".intercalate p.metrics]) ++
    (if p.dimensions.isEmpty then [] else ["  Dimensions: " ++ ", ".intercalate p.dimensions]) ++
    [""]
  let routing := [match p.selectedPreaggregation with
      | some n => "  Routing: using pre-aggregation '" ++ n ++ "'"
      | none => "  Routing: scanning raw table",
    "  Reason: " ++ p.reason, ""]
  let candidates := if p.candidates.isEmpty then [] else
    ["  Candidates:"] ++ p.candidates.flatMap (fun c =>
      let prefix_ := if c.selected then "  > " else "    "
      (textLines c.text).zipIdx.map fun (line, i) =>
        if i == 0 then prefix_ ++ line else "      " ++ line) ++ [""]
  let sql := ["  SQL:"] ++ (textLines (trimBlank p.sql)).map ("    " ++ ·)
  "\n".intercalate (header ++ routing ++ candidates ++ sql)

namespace Graph

/-- Routes a resolved request: the decision, and the rollup query when one is selected. -/
def routeQuery (g : Graph) (s : Settings) (ctx : QueryContext) (r : QueryRequest) :
    Except Error (Rollup.Decision × Option Query) := do
  let enabled := r.usePreaggregations.getD s.usePreaggregations
  let raw (reason : String) : Rollup.Decision × Option Query :=
    (.raw (if enabled then reason else routingDisabled), none)
  if ctx.ungrouped then return raw "ungrouped queries read raw rows"
  match ctx.models with
  | [modelName] =>
    let model ← g.getModel modelName
    let routing : Rollup.RoutingRequest := {
      metrics := ctx.metrics.map fun m =>
        if m.resolved.modelName == some model.name then m.resolved.metric.name else m.reference
      dimensions := ctx.dimensions.map fun d => (d.dimension.name, d.granularity)
      filters := ctx.filters.map (·.sql)
      segments := r.segments }
    let decision := Rollup.route model routing
    if !enabled then return (decision.reportOnly routingDisabled, none)
    match decision.selected.bind fun i => model.preAggregations[i]? with
    | none => pure (decision, none)
    | some p =>
      let table := s.rollups.qualifiedTable (p.tableName model.name) ctx.dialect
      let q ← Rollup.rollupQuery model p routing table ctx.dialect
      pure (decision, some q)
  | _ => pure (raw "query spans multiple models")

end Graph

/-- The request's ordering on output columns (calculations excluded, unknown fields dropped),
then its limit and offset. -/
def QueryContext.applyOrdering (ctx : QueryContext) (r : QueryRequest) (q : Query) : Query :=
  let order := r.orderBy.filterMap fun entry =>
    let (field, descending) := OrderEntry.parse entry
    if r.tableCalculations.any (·.name == field) then none
    else (ctx.orderColumn field).map fun c =>
      ({ expr := col c, descending := if descending then some true else none } : OrderItem)
  let q := if order.isEmpty then q else { q with orderBy := order }
  let q := match r.limit with
    | some l => q.withLimit l
    | none => q
  match r.offset with
  | some o => q.withOffset o
  | none => q

namespace Graph

/-- The dialect of a request: its own, else the configured one. -/
def requestDialect (s : Settings) (r : QueryRequest) : Dialect := r.dialect.getD s.dialect

/-- Checks, resolves, routes and builds a request. -/
def explain (g : Graph) (s : Settings) (r : QueryRequest) (today : String) :
    Except Error QueryPlan := do
  g.validateQuery r
  let d := requestDialect s r
  let ctx ← QueryContext.resolve g r d today
  let (decision, rollup) ← g.routeQuery s ctx r
  let q ← match rollup with
    | some q => pure q
    | none => ctx.buildQuery
  pure {
    sql := (ctx.applyOrdering r q).render d
    model := match ctx.models with
      | [m] => some m
      | _ => none
    metrics := r.metrics
    dimensions := r.dimensions
    selectedPreaggregation := decision.selectedCandidate?.map (·.name)
    reason := decision.reason
    candidates := decision.candidates }

/-- The SQL of a request. -/
def generate (g : Graph) (s : Settings) (r : QueryRequest) (today : String) : Except Error String :=
  (·.sql) <$> g.explain s r today

/-- The columns a request returns: dimensions, metrics, then new calculation names. -/
def outputColumns (g : Graph) (s : Settings) (r : QueryRequest) (today : String) :
    Except Error (List String) := do
  let ctx ← QueryContext.resolve g r (requestDialect s r) today
  pure (r.tableCalculations.foldl (fun cols c => if cols.contains c.name then cols else cols ++ [c.name])
    ctx.outputColumns)

end Graph

end MetricLayer
