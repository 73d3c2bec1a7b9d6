import MetricLayer.Json.Schema
import MetricLayer.Compile.Plan
/-!
# Plans, routing and compile scopes as JSON

A compile scope is `"preaggregated"`, `{"grouped": {model: relation}}` or
`{"rows": {model: relation}}`. A routing request is a record of four required fields; its
dimensions are pairs `[name, grain]` with a null grain for a plain dimension.

A routing decision is written as `{"candidates", "reason", "selected"}`, a candidate as
`{name, matched, score, selected, checks}` with a null score for a candidate that did not
match, and a plan with its SQL, model, request fields and routing outcome.
-/

namespace MetricLayer

open MetricLayer.Json

/-- An object of strings. -/
def Json.asStringMap (j : Json) : Decode (List (String × String)) := do
  (← asObject j).mapM fun (k, v) => do pure (k, ← asString v)

/-- A compile scope. -/
def Scope.ofJson : Json → Decode Scope
  | .str "preaggregated" => pure .preAggregated
  | .obj [("grouped", sources)] => .grouped <$> Json.asStringMap sources
  | .obj [("rows", sources)] => .rows <$> Json.asStringMap sources
  | _ => mismatch "a compile scope"

/-- A requested dimension with its grain. -/
def Rollup.dimensionOfJson : Json → Decode (String × Option Granularity)
  | .arr [name, grain] => do
    let grain ← match grain with
      | .null => pure none
      | g => some <$> Granularity.ofJson g
    pure (← asString name, grain)
  | _ => mismatch "a dimension and its grain"

/-- A routing request: all four fields required. -/
def Rollup.RoutingRequest.ofJson : Json → Decode Rollup.RoutingRequest := asRecord .json do
  pure {
    metrics := ← field "metrics" asStrings
    dimensions := ← field "dimensions" (asList Rollup.dimensionOfJson)
    filters := ← field "filters" asStrings
    segments := ← field "segments" asStrings }

/-- A rollup check. -/
def Rollup.Check.toJson (c : Rollup.Check) : Json :=
  Json.object [("name", .str c.name), ("passed", .bool c.passed), ("detail", .str c.detail)]

/-- A rollup candidate. -/
def Rollup.Candidate.toJson (c : Rollup.Candidate) : Json :=
  Json.object [("name", .str c.name), ("matched", .bool c.matched),
    ("score", match c.score with
      | some s => Json.int s
      | none => .null),
    ("selected", .bool c.selected), ("checks", .arr (c.checks.map Rollup.Check.toJson))]

/-- An index, or null. -/
def Json.optIndex : Option Nat → Json
  | some i => Json.int i
  | none => .null

/-- A routing decision. -/
def Rollup.Decision.toJson (d : Rollup.Decision) : Json :=
  Json.object [("candidates", .arr (d.candidates.map Rollup.Candidate.toJson)),
    ("reason", .str d.reason), ("selected", Json.optIndex d.selected)]

/-- A query plan. -/
def QueryPlan.toJson (p : QueryPlan) : Json :=
  Json.object [("sql", .str p.sql), ("model", Json.optString p.model),
    ("metrics", Json.strings p.metrics), ("dimensions", Json.strings p.dimensions),
    ("selected_preaggregation", Json.optString p.selectedPreaggregation),
    ("reason", .str p.reason), ("candidates", .arr (p.candidates.map Rollup.Candidate.toJson))]

end MetricLayer
