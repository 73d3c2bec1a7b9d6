import MetricLayer.Json.Decode
import MetricLayer.Query.Request
import MetricLayer.Settings.Config
import MetricLayer.TableCalc.Cell
import MetricLayer.Json.Schema
/-!
# Requests and settings as JSON

A query request is a record (an object, or an array of its fields in order) whose members all
have defaults: string lists for metrics, dimensions, filters, segments and ordering, unsigned
integers for limit and offset, an object of parameter values, a dialect name, and table
calculations. Settings are the records
`{"compiler": {"dialect", "use_preaggregations"}, "preaggregations": {"database", "schema"}}`,
every part optional; they are read from JSON and, converted to JSON, from TOML.

A result cell is `null`, a boolean, a string, or a number: an integer literal within 64 bits is
an integer, any other number a double. Doubles JSON cannot write are `{"float": "nan"}`; cells are
written back with integers as `{"int": n}` and doubles as `{"float": "<shortest form>"}`.
-/

namespace MetricLayer

open MetricLayer.Json

/-- A table calculation: `name` and `type` required. -/
def TableCalc.Calculation.ofJson : Json → Decode TableCalc.Calculation := asRecord .json do
  pure {
    name := ← Json.field "name" asString
    type := ← Json.field "type" (asEnum TableCalc.CalcType.ofName?)
    description := ← optField "description" asString
    expression := ← optField "expression" asString
    field := ← optField "field" asString
    partitionBy := ← fieldOr "partition_by" [] asStrings
    orderBy := ← fieldOr "order_by" [] asStrings
    windowSize := ← optField "window_size" asU64
    percentile := ← optField "percentile" asF64 }

/-- A query request. -/
def QueryRequest.ofJson : Json → Decode QueryRequest := asRecord .json do
  pure {
    metrics := ← fieldOr "metrics" [] asStrings
    dimensions := ← fieldOr "dimensions" [] asStrings
    filters := ← fieldOr "filters" [] asStrings
    segments := ← fieldOr "segments" [] asStrings
    orderBy := ← fieldOr "order_by" [] asStrings
    limit := ← optField "limit" asU64
    offset := ← optField "offset" asU64
    ungrouped := ← fieldOr "ungrouped" false asBool
    parameters := ← fieldOr "parameters" [] asObject
    dialect := ← optField "dialect" (asEnum Dialect.ofName?)
    usePreaggregations := ← optField "use_preaggregations" asBool
    tableCalculations := ← fieldOr "table_calculations" [] (asList TableCalc.Calculation.ofJson) }

/-- Where rollups live, in format `fmt`: database and schema, each optional. -/
def RollupLocation.ofData (fmt : Format) : Json → Decode RollupLocation := asRecord fmt do
  pure ⟨← optField "database" asString, ← optField "schema" asString⟩

/-- Where rollups live, in JSON. -/
def RollupLocation.ofJson : Json → Decode RollupLocation := RollupLocation.ofData .json

/-- Settings in format `fmt`: every part optional. -/
def Settings.ofData (fmt : Format) : Json → Decode Settings := asRecord fmt do
  let (dialect, use) ← fieldOr "compiler" (Dialect.duckdb, false) (asRecord fmt do
    pure (← fieldOr "dialect" .duckdb (asVariant fmt Dialect.ofName?),
      ← fieldOr "use_preaggregations" false asBool))
  let loc ← fieldOr "preaggregations" ⟨none, none⟩ (RollupLocation.ofData fmt)
  pure ⟨dialect, use, loc⟩

/-- Settings in JSON. -/
def Settings.ofJson : Json → Decode Settings := Settings.ofData .json

/-- A result cell. -/
def TableCalc.Cell.ofJson : Json → Decode TableCalc.Cell
  | .null => pure .null
  | .bool b => pure (.bool b)
  | .num t =>
    if isIntegerText t then
      match Decimal.readI64? t with
      | some i => pure (.int i)
      | none => .float <$> asF64 (.num t)
    else .float <$> asF64 (.num t)
  | .str s => pure (.text s)
  | .obj [("float", v)] =>
    match v with
    | .str s =>
      match Decimal.readF64? s with
      | some x => pure (.float x)
      | none => mismatch "a double"
    | .num t => .float <$> asF64 (.num t)
    | _ => mismatch "a double"
  | _ => mismatch "a cell"

/-- A double written as `{"float": text}`. -/
def Json.floatCell (x : Float) : Json :=
  Json.object [("float", .str (Decimal.FloatLayout.literal.render x))]

/-- A result cell as JSON. -/
def TableCalc.Cell.toJson : TableCalc.Cell → Json
  | .null => .null
  | .bool b => .bool b
  | .int i => Json.object [("int", Json.int i)]
  | .float x => Json.floatCell x
  | .text s => .str s

end MetricLayer
