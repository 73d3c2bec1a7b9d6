import MetricLayer.Graph.Cycle
/-!
# Checking a metric

Each kind of metric has the fields it needs: an aggregate or a formula for a simple metric
(and an aggregate needs a model), both operands of a ratio, a formula for a derived metric, an
expression and a well-formed window for a cumulative metric, a valid comparison of a known
metric, funnel steps for a conversion. Then its dependencies are checked: a metric may not
name itself, the names of formulas must resolve, and no dependency cycle may pass through it.
`Graph.metricProblems` lists the problems in that order.
-/

namespace MetricLayer

open MetricLayer.Text

/-- How messages name a metric of a kind. -/
def MetricKind.label : MetricKind → String
  | .simple => "Metric"
  | .ratio => "Ratio metric"
  | .derived => "Derived metric"
  | .cumulative => "Cumulative metric"
  | .timeComparison => "Time comparison metric"
  | .conversion => "Conversion metric"

namespace Graph

/-- The problems with the fields of a metric's kind. -/
def shapeProblems (g : Graph) (m : Metric) (context : Option String) : List String :=
  let label := m.kind.label
  let n := m.name
  match m.kind with
  | .simple =>
    (if m.agg.isNone && m.sql.isNone then [s!"{label} '{n}' must have 'agg' defined"] else []) ++
    (if m.isAggregate && context.isNone then
      [s!"{label} '{n}' aggregates rows but is not attached to a model"] else [])
  | .ratio =>
    (if m.numerator.isNone then [s!"{label} '{n}' must have 'numerator' defined"] else []) ++
    (if m.denominator.isNone then [s!"{label} '{n}' must have 'denominator' defined"] else []) ++
    ([("numerator", m.numerator), ("denominator", m.denominator)].filterMap fun (role, operand) =>
      operand.bind fun reference =>
        if trimBlank reference != n && !(g.resolveMetric reference context).toBool then
          some s!"{label} '{n}': {role} '{reference}' not found"
        else none)
  | .derived =>
    if ((m.sql.map fun s => (trimBlank s).isEmpty).getD true) then
      [s!"{label} '{n}' must have 'sql' defined"] else []
  | .cumulative =>
    (if m.sql.isNone && m.windowExpression.isNone then
      [s!"{label} '{n}' must have 'sql' or 'window_expression' defined"] else []) ++
    (match m.window with
     | some w =>
       (match parseWindow w with
        | .error e => [s!"{label} '{n}': " ++ e.message]
        | .ok _ => []) ++
       (if m.grainToDate.isSome then [s!"{label} '{n}' cannot combine 'window' and 'grain_to_date'"]
        else [])
     | none => [])
  | .timeComparison =>
    match m.comparison with
    | none => [s!"{label} '{n}' must have 'comparison' defined"]
    | some c =>
      (match c.validate with
       | .error e => [s!"{label} '{n}': " ++ e.message]
       | .ok _ => []) ++
      (if (g.resolveMetric c.metric context).toBool then []
       else [s!"{label} '{n}': base metric '{c.metric}' not found"])
  | .conversion =>
    if m.funnelSteps.isEmpty then [s!"{label} '{n}' must have at least one funnel step"] else []

/-- The problems with a metric's dependencies: naming itself (checked alone), unknown names in
formulas, and a cycle. -/
def dependencyProblems (g : Graph) (m : Metric) (context : Option String) : List String :=
  let label := m.kind.label
  let own := m.canonicalIn context
  let deps := g.dependencies m context
  if deps.any (fun d => g.dependencyName d context == own) then
    [s!"{label} '{m.name}' cannot reference itself"]
  else
    (if m.kind == .simple || m.kind == .derived || m.kind == .cumulative then
      (deps.filter fun d => !(g.resolveMetric d context).toBool).map fun d =>
        s!"{label} '{m.name}' references unknown metric '{d}'"
    else []) ++
    (match g.findCycle m context with
     | some cycle => [s!"{label} '{m.name}' has circular dependency: " ++ " -> ".intercalate cycle]
     | none => [])

/-- Every problem of a metric seen in a context. -/
def metricProblems (g : Graph) (m : Metric) (context : Option String) : List String :=
  g.shapeProblems m context ++ g.dependencyProblems m context

/-- A metric without problems, or the error listing them. -/
def validateMetric (g : Graph) (m : Metric) (context : Option String) : Except Error Unit :=
  match g.metricProblems m context with
  | [] => .ok ()
  | ps => .error (.metricInvalid m.name ps)

end Graph

end MetricLayer
