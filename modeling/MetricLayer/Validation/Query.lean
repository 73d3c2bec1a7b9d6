import MetricLayer.Graph.Registry
import MetricLayer.Graph.Join
import MetricLayer.Query.Request
import MetricLayer.Schema.Order
/-!
# Checking a query request

A request is checked before it is compiled, and every problem is reported at once: it must ask
for something; its metrics must resolve and be valid; its dimensions must be `model.dimension`
with a grain only on time dimensions; its segments must resolve; the `model.field` names in
its filters must be dimensions or metrics of their models; it may only order by what it
returns; its calculations must be valid; and all the models it touches must be joinable.
-/

namespace MetricLayer

open MetricLayer.Text

namespace Graph

/-- The message for a metric reference that does not resolve. -/
def missingMetricMessage (g : Graph) (reference : String) : String :=
  match splitOnce reference "." with
  | some (model, metric) =>
    if g.hasModel model then s!"Metric '{metric}' not found in model '{model}'"
    else s!"Model '{model}' not found (referenced in '{reference}')"
  | none => s!"Metric '{reference}' not found"

/-- The model of a dimension reference, or the problem with it. -/
def checkDimensionReference (g : Graph) (reference : String) : Except String String := do
  let (base, grain) := match rsplitOnce reference "__" with
    | some (b, gr) => (b, some gr)
    | none => (reference, none)
  if let some gr := grain then
    if (Granularity.ofName? gr).isNone then
      throw s!"Invalid time granularity '{gr}' in '{reference}'. Must be one of: hour, day, week, month, quarter, year"
  let (modelName, dimName) ← match splitOnce base "." with
    | some p => pure p
    | none => throw s!"Dimension reference '{reference}' must be in 'model.dimension' format"
  let model ← match g.model? modelName with
    | some m => pure m
    | none => throw s!"Model '{modelName}' not found (referenced in '{reference}')"
  let dimension ← match model.dimension? dimName with
    | some d => pure d
    | none => throw s!"Dimension '{dimName}' not found in model '{modelName}'"
  if grain.isSome && !dimension.isTime then
    throw s!"Granularity suffix in '{reference}' requires a time dimension"
  pure model.name

/-- Problems and touched models gathered while checking a request. -/
structure Review where
  problems : List String := []
  touched : List String := []

namespace Review

/-- Records a problem. -/
def report (r : Review) (p : String) : Review := { r with problems := r.problems ++ [p] }

/-- Records a touched model, once. -/
def touch (r : Review) (m : String) : Review :=
  if r.touched.contains m then r else { r with touched := r.touched ++ [m] }

end Review

/-- Checks one requested metric. -/
def reviewMetric (g : Graph) (rv : Review) (reference : String) : Review :=
  match g.resolveMetric reference none with
  | .error _ => rv.report (g.missingMetricMessage reference)
  | .ok resolved =>
    match g.metricProblems resolved.metric resolved.modelName with
    | [] =>
      let rv := match g.metricModels reference none with
        | .ok found => found.foldl Review.touch rv
        | .error e => rv.report e.message
      match resolved.modelName with
      | some m => rv.touch m
      | none => rv
    | ps => { rv with problems := rv.problems ++ ps }

/-- Checks the `model.field` names of one filter. -/
def reviewFilter (g : Graph) (rv : Review) (filter : String) : Review :=
  (RefToken.scan filter).foldl (fun rv token =>
    match splitOnce token.name "." with
    | none => rv
    | some (modelName, fieldName) =>
      match g.model? modelName with
      | none => rv
      | some model =>
        let base := ((splitOnce fieldName "__").map (·.1)).getD fieldName
        if (model.dimension? base).isNone && (model.metric? fieldName).isNone then
          rv.report s!"Filter '{filter}' references '{token.name}', which is not a dimension or metric of model '{modelName}'"
        else rv.touch modelName) rv

/-- The order-by problems: each ordered field must be a requested reference, the part of one
after its last `.`, or a calculation's name. -/
def orderProblems (r : QueryRequest) : List String :=
  let refs := r.metrics ++ r.dimensions
  let known := refs ++ refs.map (fun x => ((rsplitOnce x ".").map (·.2)).getD x) ++
    r.tableCalculations.map (·.name)
  r.orderBy.filterMap fun entry =>
    let (field, _) := OrderEntry.parse entry
    if known.contains field then none
    else some s!"Order by field '{field}' is not among the requested metrics or dimensions"

/-- The problems of a request, in the order of the checks. -/
def queryProblems (g : Graph) (r : QueryRequest) : List String :=
  let rv : Review :=
    if r.metrics.isEmpty && r.dimensions.isEmpty then
      ({} : Review).report "Query must request at least one metric or dimension"
    else {}
  let rv := r.metrics.foldl g.reviewMetric rv
  let rv := r.dimensions.foldl (fun rv d =>
    match g.checkDimensionReference d with
    | .ok m => rv.touch m
    | .error p => rv.report p) rv
  let rv := r.segments.foldl (fun rv s =>
    match g.resolveSegment s with
    | .ok (m, _) => rv.touch m.name
    | .error e => rv.report e.message) rv
  let rv := r.filters.foldl g.reviewFilter rv
  let rv := { rv with problems := rv.problems ++ orderProblems r }
  let rv := r.tableCalculations.foldl (fun rv c =>
    match c.validate with
    | .ok _ => rv
    | .error e => rv.report e.message) rv
  let rec pairs : List String → List (String × String)
    | [] => []
    | a :: rest => rest.map (fun b => (a, b)) ++ pairs rest
  rv.problems ++ (pairs rv.touched).filterMap fun (a, b) =>
    if g.hasPath a b then none else some s!"No join path found between models '{a}' and '{b}'"

/-- A request without problems, or the error listing them. -/
def validateQuery (g : Graph) (r : QueryRequest) : Except Error Unit :=
  match g.queryProblems r with
  | [] => .ok ()
  | ps => .error (.queryInvalid ps)

end Graph

end MetricLayer
