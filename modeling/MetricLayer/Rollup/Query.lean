import MetricLayer.Rollup.Router
import MetricLayer.Compile.Metric
import MetricLayer.Sql.Query
/-!
# Reading a rollup

A query routed to a rollup reads its table instead of the model's rows. Each requested
dimension is a stored column; a truncated one is the stored time column, truncated again when
the requested grain is coarser than the stored one. Stored measures are aggregated again: sums
and counts are summed, minima and maxima taken again, and an average is the sum of its stored
values divided by the sum of a stored count. Filters have their `model.field` names replaced by
the stored columns.
-/

namespace MetricLayer.Rollup

open MetricLayer.Sql MetricLayer.Text

/-- The stored time column read at a requested grain. -/
def timeColumn (p : PreAggregation) (grain : Granularity) (d : Dialect) : Except Error Sql.Expr :=
  match p.timeColumn, p.granularity with
  | some column, some stored =>
    if grain == stored then .ok (col column)
    else .ok (.raw (d.dateTrunc grain.name (d.quoteIdent column)))
  | _, _ => .error (.invalidReference s!"pre-aggregation '{p.name}' has no time column")

/-- A stored measure aggregated again. -/
def reaggregate (model : Model) (m : Metric) (p : PreAggregation) : Except Error Sql.Expr :=
  let stored := col (rawColumn m.name)
  match m.agg with
  | some .sum | some .count => .ok (fn "SUM" [stored])
  | some .min => .ok (fn "MIN" [stored])
  | some .max => .ok (fn "MAX" [stored])
  | some .avg =>
    match countMeasure model m p with
    | some count => .ok ((fn "SUM" [stored]).div (nullif (fn "SUM" [col (rawColumn count)]) (litInt 0)))
    | none => .error (.unsupportedMetric m.name "the rollup stores no count to average over")
  | _ => .error (.unsupportedMetric m.name "cannot be re-aggregated from a rollup")

/-- The stored column a filter reference `model.field` reads instead, when the reference is to a
field of the model: the time column (truncated again to the grain of a `field__grain`
reference) for the rollup's time dimension, else the column of that name. -/
def filterColumn? (model : Model) (p : PreAggregation) (d : Dialect) (r : RefToken) :
    Option Sql.Expr := do
  let (owner, field) ← splitOnce r.name "."
  if owner != model.name then none
  let (name, grain) := match splitOnce field "__" with
    | some (n, g) => (n, Granularity.ofName? g)
    | none => (field, none)
  if p.timeDimension == some name then
    let g ← grain <|> p.granularity
    (timeColumn p g d).toOption
  else some (col name)

/-- A filter reading the rollup's columns instead of the model's fields. -/
def rollupFilter (model : Model) (p : PreAggregation) (filter : String) (d : Dialect) : String :=
  RefToken.replaceRefs filter fun r => (filterColumn? model p d r).map (·.render d)

/-- The query answering a routed request from the rollup stored in `table`. -/
def rollupQuery (model : Model) (p : PreAggregation) (r : RoutingRequest) (table : String)
    (d : Dialect) : Except Error Query := do
  let q : Query := { source := some (.rawTable table, none) }
  let (q, groupBy) ← r.dimensions.foldlM (fun (acc : Query × List Sql.Expr) (name, grain) => do
    let (q, groupBy) := acc
    let (column, e) ← match grain with
      | some g => do pure (name ++ "__" ++ g.name, ← timeColumn p g d)
      | none => pure (name, col name)
    pure ({ q with select := q.select ++ [⟨e, some column⟩] }, groupBy ++ [e])) (q, [])
  let q ← r.metrics.foldlM (fun (q : Query) name => do
    let m ← match model.metric? name with
      | some m => pure m
      | none => throw (.metricNotFound (model.name ++ "." ++ name))
    let e := m.fillNulls (← reaggregate model m p)
    pure { q with select := q.select ++ [⟨e, some name⟩] }) q
  let q := r.filters.foldl (fun q f => q.addFilter (.raw (rollupFilter model p f d))) q
  pure (if groupBy.isEmpty then q else { q with groupBy := groupBy })

end MetricLayer.Rollup
