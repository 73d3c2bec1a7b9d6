import MetricLayer.Json.Decode
import MetricLayer.Schema.Model
import MetricLayer.Params.Parameter
/-!
# Definitions as JSON

Models, metrics and parameters are records (`asRecord`): JSON objects whose member names are the
field names in snake case (`primary_key`, `window_expression`, …), or arrays of the fields in
the order listed here. Enumerations are lower-case names (`many_to_one`, `count_distinct`),
also as `{"name": null}`. Unknown members are ignored. A fill value
is an integer when its literal is one within 64 bits, a double for any other number, and text
for a string.

The `toJson` functions write a definition back: optional fields only when set, the lists of a
model always, funnel steps and filters of a metric only when not empty.
-/

namespace MetricLayer

open MetricLayer.Json

/-! ## Reading -/

/-- A grain name. -/
def Granularity.ofJson : Json → Decode Granularity := asEnum Granularity.ofName?

/-- A comparison: `type` and `metric` required; `calculation` (a name only) defaults to percent
change. -/
def TimeComparison.ofJson : Json → Decode TimeComparison := asRecord .json do
  pure {
    type := ← field "type" (asEnum fun s => ComparisonType.all.find? (·.name == s))
    metric := ← field "metric" asString
    offset := ← optField "offset" asI64
    offsetUnit := ← optField "offset_unit" (asEnum TimeUnit.ofName?)
    calculation := ← fieldOr "calculation" .percentChange
      (asNamed fun s => (Calculation.parse s).toOption) }

/-- A fill value: integer, double or text. -/
def FillValue.ofJson : Json → Decode FillValue
  | .num t =>
    if isIntegerText t then
      match Decimal.readI64? t with
      | some i => pure (.int i)
      | none => .float <$> asF64 (.num t)
    else .float <$> asF64 (.num t)
  | .str s => pure (.text s)
  | _ => mismatch "a number or a string"

/-- A metric. -/
def Metric.ofJson : Json → Decode Metric := asRecord .json do
  pure {
    name := ← field "name" asString
    kind := ← fieldOr "type" .simple (asEnum MetricKind.ofName?)
    agg := ← optField "agg" (asEnum Aggregation.ofName?)
    sql := ← optField "sql" asString
    numerator := ← optField "numerator" asString
    denominator := ← optField "denominator" asString
    windowExpression := ← optField "window_expression" asString
    window := ← optField "window" asString
    grainToDate := ← optField "grain_to_date" Granularity.ofJson
    comparison := ← optField "comparison" TimeComparison.ofJson
    funnelSteps := ← fieldOr "funnel_steps" [] asStrings
    filters := ← fieldOr "filters" [] asStrings
    fillNullsWith := ← optField "fill_nulls_with" FillValue.ofJson
    description := ← optField "description" asString
    label := ← optField "label" asString }

/-- A dimension. -/
def Dimension.ofJson : Json → Decode Dimension := asRecord .json do
  pure {
    name := ← field "name" asString
    kind := ← fieldOr "type" .categorical (asEnum DimensionKind.ofName?)
    sql := ← optField "sql" asString
    granularity := ← optField "granularity" Granularity.ofJson
    description := ← optField "description" asString
    label := ← optField "label" asString }

/-- A relationship. -/
def Relationship.ofJson : Json → Decode Relationship := asRecord .json do
  pure {
    name := ← field "name" asString
    kind := ← field "type" (asEnum RelationshipKind.ofName?)
    foreignKey := ← optField "foreign_key" asString
    primaryKey := ← optField "primary_key" asString }

/-- A segment. -/
def Segment.ofJson : Json → Decode Segment := asRecord .json do
  pure {
    name := ← field "name" asString
    sql := ← field "sql" asString
    description := ← optField "description" asString }

/-- A rollup. -/
def PreAggregation.ofJson : Json → Decode PreAggregation := asRecord .json do
  pure {
    name := ← field "name" asString
    measures := ← fieldOr "measures" [] asStrings
    dimensions := ← fieldOr "dimensions" [] asStrings
    timeDimension := ← optField "time_dimension" asString
    granularity := ← optField "granularity" Granularity.ofJson }

/-- A model. -/
def Model.ofJson : Json → Decode Model := asRecord .json do
  pure {
    name := ← field "name" asString
    table := ← optField "table" asString
    sql := ← optField "sql" asString
    primaryKey := ← fieldOr "primary_key" "" asString
    dimensions := ← fieldOr "dimensions" [] (asList Dimension.ofJson)
    metrics := ← fieldOr "metrics" [] (asList Metric.ofJson)
    relationships := ← fieldOr "relationships" [] (asList Relationship.ofJson)
    segments := ← fieldOr "segments" [] (asList Segment.ofJson)
    preAggregations := ← fieldOr "pre_aggregations" [] (asList PreAggregation.ofJson)
    description := ← optField "description" asString }

/-- A parameter: `name` and `type` required, any JSON as default and allowed values. -/
def Parameter.ofJson : Json → Decode Parameter := asRecord .json do
  pure {
    name := ← field "name" asString
    type := ← field "type" (asEnum ParameterType.ofName?)
    defaultValue := ← optField "default_value" pure
    allowedValues := ← optField "allowed_values" (asList pure)
    defaultToToday := ← fieldOr "default_to_today" false asBool
    description := ← optField "description" asString
    label := ← optField "label" asString }

/-! ## Writing -/

namespace Json

/-- An object from members; they are sorted by key. -/
def object (fields : List (String × Json)) : Json :=
  .obj (fields.foldl (fun acc (k, v) => insertSorted k v acc) [])
where
  insertSorted (k : String) (v : Json) : List (String × Json) → List (String × Json)
    | [] => [(k, v)]
    | (k', v') :: rest =>
      if k == k' then (k, v) :: rest
      else if k < k' then (k, v) :: (k', v') :: rest
      else (k', v') :: insertSorted k v rest

/-- A list of strings. -/
def strings (xs : List String) : Json := .arr (xs.map .str)

/-- An integer. -/
def int (i : Int) : Json := .num (toString i)

/-- A double as a number in its shortest form; `null` when not finite. -/
def double (x : Float) : Json :=
  if x.isFinite then .num (Decimal.FloatLayout.literal.render x) else .null

/-- A string or `null`. -/
def optString : Option String → Json
  | some s => .str s
  | none => .null

/-- A member present only when the value is. -/
def optMember (k : String) : Option Json → List (String × Json)
  | some v => [(k, v)]
  | none => []

end Json

/-- A comparison as JSON. -/
def TimeComparison.toJson (c : TimeComparison) : Json :=
  Json.object ([("type", .str c.type.name), ("metric", .str c.metric),
    ("calculation", .str c.calculation.name)] ++
    Json.optMember "offset" (c.offset.map Json.int) ++
    Json.optMember "offset_unit" (c.offsetUnit.map (.str ·.name)))

/-- A fill value as JSON. -/
def FillValue.toJson : FillValue → Json
  | .int i => Json.int i
  | .float x => Json.double x
  | .text s => .str s

/-- A metric as JSON. -/
def Metric.toJson (m : Metric) : Json :=
  Json.object ([("name", .str m.name), ("type", .str m.kind.name)] ++
    Json.optMember "agg" (m.agg.map (.str ·.name)) ++
    Json.optMember "sql" (m.sql.map .str) ++
    Json.optMember "numerator" (m.numerator.map .str) ++
    Json.optMember "denominator" (m.denominator.map .str) ++
    Json.optMember "window_expression" (m.windowExpression.map .str) ++
    Json.optMember "window" (m.window.map .str) ++
    Json.optMember "grain_to_date" (m.grainToDate.map (.str ·.name)) ++
    Json.optMember "comparison" (m.comparison.map TimeComparison.toJson) ++
    (if m.funnelSteps.isEmpty then [] else [("funnel_steps", Json.strings m.funnelSteps)]) ++
    (if m.filters.isEmpty then [] else [("filters", Json.strings m.filters)]) ++
    Json.optMember "fill_nulls_with" (m.fillNullsWith.map FillValue.toJson) ++
    Json.optMember "description" (m.description.map .str) ++
    Json.optMember "label" (m.label.map .str))

/-- A dimension as JSON. -/
def Dimension.toJson (d : Dimension) : Json :=
  Json.object ([("name", .str d.name), ("type", .str d.kind.name)] ++
    Json.optMember "sql" (d.sql.map .str) ++
    Json.optMember "granularity" (d.granularity.map (.str ·.name)) ++
    Json.optMember "description" (d.description.map .str) ++
    Json.optMember "label" (d.label.map .str))

/-- A relationship as JSON. -/
def Relationship.toJson (r : Relationship) : Json :=
  Json.object ([("name", .str r.name), ("type", .str r.kind.name)] ++
    Json.optMember "foreign_key" (r.foreignKey.map .str) ++
    Json.optMember "primary_key" (r.primaryKey.map .str))

/-- A segment as JSON. -/
def Segment.toJson (s : Segment) : Json :=
  Json.object ([("name", .str s.name), ("sql", .str s.sql)] ++
    Json.optMember "description" (s.description.map .str))

/-- A rollup as JSON. -/
def PreAggregation.toJson (p : PreAggregation) : Json :=
  Json.object ([("name", .str p.name), ("measures", Json.strings p.measures),
    ("dimensions", Json.strings p.dimensions)] ++
    Json.optMember "time_dimension" (p.timeDimension.map .str) ++
    Json.optMember "granularity" (p.granularity.map (.str ·.name)))

/-- A model as JSON. -/
def Model.toJson (m : Model) : Json :=
  Json.object ([("name", .str m.name), ("primary_key", .str m.primaryKey),
    ("dimensions", .arr (m.dimensions.map Dimension.toJson)),
    ("metrics", .arr (m.metrics.map Metric.toJson)),
    ("relationships", .arr (m.relationships.map Relationship.toJson)),
    ("segments", .arr (m.segments.map Segment.toJson)),
    ("pre_aggregations", .arr (m.preAggregations.map PreAggregation.toJson))] ++
    Json.optMember "table" (m.table.map .str) ++ Json.optMember "sql" (m.sql.map .str) ++
    Json.optMember "description" (m.description.map .str))

/-- A parameter as JSON. -/
def Parameter.toJson (p : Parameter) : Json :=
  Json.object ([("name", .str p.name), ("type", .str p.type.name),
    ("default_to_today", .bool p.defaultToToday)] ++
    Json.optMember "default_value" p.defaultValue ++
    Json.optMember "allowed_values" (p.allowedValues.map .arr) ++
    Json.optMember "description" (p.description.map .str) ++
    Json.optMember "label" (p.label.map .str))

end MetricLayer
