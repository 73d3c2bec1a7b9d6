import MetricLayer.Validation.Model
import MetricLayer.Validation.Metric
/-!
# Registering definitions

Models, graph-level metrics and parameters are added one at a time, each to the list of its
kind, by one rule (`Graph.addNamed`). Adding a definition equal to the one already registered
under its name changes nothing; a different definition under a taken name is refused as a
duplicate; otherwise the definition is checked first and appended only when it passes, so a
failed registration leaves the graph as it was.
-/

namespace MetricLayer

namespace Graph

/-- Adds `x` to the definitions `xs` of one kind. An equal definition under its name is already
there, and a different one makes `x` a duplicate; under a new name `x` is appended once `check`
passes. -/
def addNamed {α : Type} [BEq α] (kind : DefinitionKind) (name : α → String) (xs : List α) (x : α)
    (check : Except Error Unit) : Except Error (List α) :=
  match xs.find? (fun y => name y == name x) with
  | some existing => if existing == x then .ok xs else .error (.duplicate kind (name x))
  | none => do
    check
    pure (xs ++ [x])

/-- Registers a model. -/
def addModel (g : Graph) (m : Model) : Except Error Graph :=
  (fun models => { g with models := models }) <$> addNamed .model (·.name) g.models m m.validate

/-- Registers a graph-level metric, checked without a context model. -/
def addMetric (g : Graph) (m : Metric) : Except Error Graph :=
  (fun metrics => { g with metrics := metrics }) <$>
    addNamed .metric (·.name) g.metrics m (g.validateMetric m none)

/-- Registers a parameter. -/
def addParameter (g : Graph) (p : Parameter) : Except Error Graph :=
  (fun parameters => { g with parameters := parameters }) <$>
    addNamed .parameter (·.name) g.parameters p p.validate

end Graph

end MetricLayer
