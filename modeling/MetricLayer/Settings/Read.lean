import MetricLayer.Settings.Toml
import MetricLayer.Json.Request
/-!
# Reading settings from TOML

A TOML document is read into settings with the same record readers as JSON
(`Settings.ofData`), after converting its values: tables become objects, arrays arrays,
strings and booleans themselves, numbers numbers, and a date-time a one-member object that no
setting is named after. Two things differ from JSON (`Format.toml`): the payload of a variant
without data is an empty table or an empty array, since TOML has no `null`, and an array read
as a record may hold more items than the record has fields, the rest being ignored.

Environment variables in the rollup location are expanded after reading (`expandEnv`).
-/

namespace MetricLayer

open MetricLayer.Json MetricLayer.Toml

mutual
/-- A TOML value as JSON. -/
def TomlValue.toJson : TomlValue → Json
  | .str s => .str s
  | .int i => .num (toString i)
  | .float x => .num (toString x)
  | .bool b => .bool b
  | .datetime t => .obj [("date-time", .str t)]
  | .arr items => .arr (TomlValue.toJsonList items)
  | .table entries => .obj (TomlValue.toJsonFields entries)

/-- TOML values as JSON. -/
def TomlValue.toJsonList : List TomlValue → List Json
  | [] => []
  | v :: vs => TomlValue.toJson v :: TomlValue.toJsonList vs

/-- TOML table entries as JSON members. -/
def TomlValue.toJsonFields : List (String × TomlValue) → List (String × Json)
  | [] => []
  | (k, v) :: rest => (k, TomlValue.toJson v) :: TomlValue.toJsonFields rest
end

/-- TOML documents: an empty payload is an empty table or array, and a record's array may be
longer than its fields. -/
def Json.Format.toml : Format := ⟨fun v => v == .obj [] || v == .arr [], true⟩

/-- Settings from TOML text, with environment variables expanded in the rollup location. -/
def Settings.ofToml (env : List (String × String)) (text : String) :
    Except SettingsError Settings := do
  let root ← match Toml.parse text with
    | .ok r => pure r
    | .error _ => throw .parse
  let s ← match Settings.ofData .toml (.obj (TomlValue.toJsonFields root)) with
    | .ok s => pure s
    | .error _ => throw .parse
  let database ← s.rollups.database.mapM (expandEnv env)
  let schema ← s.rollups.schema.mapM (expandEnv env)
  return { s with rollups := ⟨database, schema⟩ }

end MetricLayer
