import MetricLayer.Schema.Model
import MetricLayer.Text.Blank
/-!
# Checking a model

A model is accepted when it has a primary key and exactly one source (a table or a query), its
time dimensions have grains, its simple metrics say what they aggregate, the names of its
dimensions, metrics, segments and rollups are unique within each kind, and its rollups refer to
its own metrics and dimensions. `Model.problems` lists every problem found, in that order.
-/

namespace MetricLayer

open MetricLayer.Text

namespace Model

/-- One message for every name that repeats an earlier one. -/
def duplicateNames (model kind : String) (names : List String) : List String :=
  (names.foldl (fun (acc : List String × List String) n =>
    let (seen, out) := acc
    if seen.contains n then (seen, s!"Model '{model}': duplicate {kind} name '{n}'" :: out)
    else (n :: seen, out)) ([], [])).2.reverse

/-- The problems of a model's source: primary key and table or query. -/
def sourceProblems (m : Model) : List String :=
  (if (trimBlank m.primaryKey).isEmpty then [s!"Model '{m.name}' must have a primary_key defined"]
   else []) ++
  (match m.table, m.sql with
   | none, none => [s!"Model '{m.name}' must have either 'table' or 'sql' defined"]
   | some _, some _ => [s!"Model '{m.name}' cannot define both 'table' and 'sql'"]
   | _, _ => [])

/-- The problems of one rollup of a model. -/
def rollupProblems (m : Model) (p : PreAggregation) : List String :=
  (p.measures.filter (fun x => (m.metric? x).isNone)).map (fun x =>
    s!"Model '{m.name}': pre-aggregation '{p.name}' references unknown metric '{x}'") ++
  (p.dimensions.filter (fun x => (m.dimension? x).isNone)).map (fun x =>
    s!"Model '{m.name}': pre-aggregation '{p.name}' references unknown dimension '{x}'") ++
  (match p.timeDimension, p.granularity with
   | some td, some _ =>
     if ((m.dimension? td).map (·.isTime)).getD false then []
     else [s!"Model '{m.name}': pre-aggregation '{p.name}' time dimension '{td}' is not a time dimension"]
   | none, none => []
   | _, _ => [s!"Model '{m.name}': pre-aggregation '{p.name}' needs both 'time_dimension' and 'granularity'"])

/-- Every problem of a model, in the order the checks run. -/
def problems (m : Model) : List String :=
  m.sourceProblems ++
  (m.dimensions.filter (fun d => d.isTime && d.granularity.isNone)).map (fun d =>
    s!"Model '{m.name}': time dimension '{d.name}' should have a granularity defined") ++
  (m.metrics.filter (fun x => x.kind == .simple && x.agg.isNone && x.sql.isNone)).map (fun x =>
    s!"Model '{m.name}': metric '{x.name}' must have 'agg' defined") ++
  duplicateNames m.name "dimension" (m.dimensions.map (·.name)) ++
  duplicateNames m.name "metric" (m.metrics.map (·.name)) ++
  duplicateNames m.name "segment" (m.segments.map (·.name)) ++
  duplicateNames m.name "pre-aggregation" (m.preAggregations.map (·.name)) ++
  m.preAggregations.flatMap m.rollupProblems

/-- A model without problems, or the error listing them. -/
def validate (m : Model) : Except Error Unit :=
  match m.problems with
  | [] => .ok ()
  | ps => .error (.modelInvalid m.name ps)

end Model

end MetricLayer
