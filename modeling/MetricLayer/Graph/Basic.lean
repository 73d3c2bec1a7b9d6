import MetricLayer.Schema.Model
import MetricLayer.Schema.FieldRef
import MetricLayer.Params.Parameter
/-!
# The semantic graph and its lookups

A `Graph` holds the registered models, the graph-level metrics (defined outside any model) and
the parameters, each in the order of registration and each under a unique name. This module
looks definitions up and resolves the references a query is written with:

* a metric reference is `model.metric`, a metric of the context model, or a graph-level
  metric; a graph-level metric whose whole formula is `model.metric` stands for that metric;
* a dimension reference is `model.dimension`, optionally with `__grain` for time dimensions;
* a segment reference is `model.segment`.
-/

namespace MetricLayer

open MetricLayer.Text

/-- The registered definitions. -/
structure Graph where
  models : List Model := []
  metrics : List Metric := []
  parameters : List Parameter := []
  deriving Inhabited

/-- A metric with the model that owns it; graph-level metrics have none. -/
structure ResolvedMetric where
  model : Option Model
  metric : Metric
  deriving Inhabited

namespace ResolvedMetric

/-- `model.metric`, or the bare name of a graph-level metric. -/
def canonical (r : ResolvedMetric) : String :=
  match r.model with
  | some m => m.name ++ "." ++ r.metric.name
  | none => r.metric.name

/-- The name of the owning model. -/
def modelName (r : ResolvedMetric) : Option String := r.model.map (·.name)

end ResolvedMetric

/-- A dimension with its model and the grain it is truncated to. -/
structure ResolvedDimension where
  model : Model
  dimension : Dimension
  granularity : Option Granularity
  deriving Inhabited

/-- The output column of a dimension: its name, with `__grain` when truncated. -/
def ResolvedDimension.column (r : ResolvedDimension) : String :=
  match r.granularity with
  | some g => r.dimension.name ++ "__" ++ g.name
  | none => r.dimension.name

namespace Graph

/-- The model with a name. -/
def model? (g : Graph) (name : String) : Option Model := g.models.find? (·.name == name)

/-- The graph-level metric with a name. -/
def metric? (g : Graph) (name : String) : Option Metric := g.metrics.find? (·.name == name)

/-- The parameter with a name. -/
def parameter? (g : Graph) (name : String) : Option Parameter :=
  g.parameters.find? (·.name == name)

/-- Whether a model is registered under a name. -/
def hasModel (g : Graph) (name : String) : Bool := (g.model? name).isSome

/-- The model with a name, or `modelNotFound`. -/
def getModel (g : Graph) (name : String) : Except Error Model :=
  match g.model? name with
  | some m => .ok m
  | none => .error (.modelNotFound name)

/-- The graph-level metric with a name, or `metricNotFound`. -/
def getMetric (g : Graph) (name : String) : Except Error Metric :=
  match g.metric? name with
  | some m => .ok m
  | none => .error (.metricNotFound name)

/-- The parameter with a name, or `parameterNotFound`. -/
def getParameter (g : Graph) (name : String) : Except Error Parameter :=
  match g.parameter? name with
  | some p => .ok p
  | none => .error (.parameterNotFound name)

/-- How many metrics the graph holds, in models and at graph level. -/
def metricCount (g : Graph) : Nat :=
  g.models.foldl (fun n m => n + m.metrics.length) g.metrics.length

/-- A non-empty run of ASCII letters, digits and underscores. -/
def isPlainIdentifier (s : String) : Bool :=
  !s.isEmpty && s.toList.all fun c => c.isAlphanum || c == '_'

/-- The model metric a graph-level metric stands for: a formula without filters or fill value
whose trimmed text is exactly `model.metric` naming a registered metric. -/
def aliasTarget? (g : Graph) (m : Metric) : Option ResolvedMetric := do
  if !m.isFormula || !m.filters.isEmpty || m.fillNullsWith.isSome then none
  let body := trimBlank (← m.sql)
  let (modelName, metricName) ← splitOnce body "."
  if !isPlainIdentifier modelName || !isPlainIdentifier metricName then none
  let model ← g.model? modelName
  let target ← model.metric? metricName
  pure ⟨some model, target⟩

/-- Resolves a metric reference (trimmed): `model.metric`; else a metric of the context model;
else a graph-level metric, or the model metric it stands for. -/
def resolveMetric (g : Graph) (reference : String) (context : Option String) :
    Except Error ResolvedMetric :=
  let reference := trimBlank reference
  match splitOnce reference "." with
  | some (modelName, metricName) => do
    let model ← g.getModel modelName
    match model.metric? metricName with
    | some m => pure ⟨some model, m⟩
    | none => throw (.metricNotFound reference)
  | none =>
    let inContext := (context.bind g.model?).bind fun model =>
      (model.metric? reference).map fun m => (⟨some model, m⟩ : ResolvedMetric)
    match inContext with
    | some r => pure r
    | none => do
      let m ← g.getMetric reference
      pure ((g.aliasTarget? m).getD ⟨none, m⟩)

/-- The canonical name of a metric reference, when it resolves. -/
def canonicalName? (g : Graph) (reference : String) (context : Option String) : Option String :=
  match g.resolveMetric reference context with
  | .ok r => some r.canonical
  | .error _ => none

/-- Resolves `model.dimension[__grain]`; a grain needs a time dimension. -/
def resolveDimension (g : Graph) (reference : String) : Except Error ResolvedDimension := do
  let field ← FieldRef.parse reference
  let modelName ← match field.model with
    | some m => pure m
    | none => throw (.invalidReference s!"dimension '{reference}' must be of the form model.dimension")
  let model ← g.getModel modelName
  let dimension ← match model.dimension? field.field with
    | some d => pure d
    | none => throw (.dimensionNotFound modelName field.field)
  if field.granularity.isSome && !dimension.isTime then
    throw (.invalidReference s!"granularity suffix on non-time dimension '{reference}'")
  pure ⟨model, dimension, field.granularity⟩

/-- Resolves `model.segment`. -/
def resolveSegment (g : Graph) (reference : String) : Except Error (Model × Segment) := do
  let (modelName, segmentName) ← match splitOnce (trimBlank reference) "." with
    | some p => pure p
    | none => throw (.invalidReference s!"segment '{reference}' must be of the form model.segment")
  let model ← g.getModel modelName
  match model.segment? segmentName with
  | some s => pure (model, s)
  | none => throw (.segmentNotFound reference)

end Graph

end MetricLayer
