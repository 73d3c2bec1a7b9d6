import MetricLayer.Graph.Dependencies
/-!
# Dependency cycles

Metrics depend on metrics, and a definition may close a loop (`a = b + 1`, `b = a * 2`). Nodes
are canonical metric names: `model.metric`, or the bare name at graph level. A dependency that
does not resolve is named after the context model when it has no `.` of its own.

`Graph.findCycle` is a depth-first search from a metric that marks names active while they are
on the current path and done after; meeting an active name closes a cycle, which is returned
as the path from that name on, with the name repeated at the end.
-/

namespace MetricLayer

open MetricLayer.Text

/-- The canonical name of a metric seen in a context. -/
def Metric.canonicalIn (m : Metric) (context : Option String) : String :=
  match context with
  | some model => model ++ "." ++ m.name
  | none => m.name

/-- The state of a name during the search. -/
inductive Mark where
  /-- On the current path. -/
  | active
  /-- Fully explored, no cycle through it. -/
  | done
  deriving Repr, DecidableEq, Inhabited

namespace Graph

/-- The node a dependency stands for: its canonical name when it resolves; otherwise the name
qualified by the context model, unless it is qualified already. -/
def dependencyName (g : Graph) (dep : String) (context : Option String) : String :=
  match g.canonicalName? dep context, context with
  | some n, _ => n
  | none, some model => if containsText dep "." then dep else model ++ "." ++ dep
  | none, none => dep

/-- Visits `name` (metric `m` seen in `context`): marks it active, visits each dependency not
yet marked, and marks it done. A cycle found ends the search and is the exception value. Each
nested visit marks a new name, so `fuel` = the number of metrics plus one is enough. -/
def visitCycle (g : Graph) : Nat → String → Metric → Option String → List (String × Mark) →
    List String → Except (List String) (List (String × Mark))
  | 0, _, _, _, marks, _ => pure marks
  | fuel + 1, name, m, context, marks, path => do
    let path := path ++ [name]
    let marks ← (g.dependencies m context).foldlM (fun marks d => do
        let dn := g.dependencyName d context
        match marks.lookup dn with
        | some .active => throw (path.dropWhile (· != dn) ++ [dn])
        | some .done => pure marks
        | none =>
          match g.resolveMetric d context with
          | .ok r => g.visitCycle fuel dn r.metric r.modelName marks path
          | .error _ => pure marks) ((name, .active) :: marks)
    pure ((name, .done) :: marks)

/-- A dependency cycle reachable from a metric, if there is one. -/
def findCycle (g : Graph) (m : Metric) (context : Option String) : Option (List String) :=
  match g.visitCycle (g.metricCount + 2) (m.canonicalIn context) m context [] [] with
  | .error cycle => some cycle
  | .ok _ => none

end Graph

end MetricLayer
