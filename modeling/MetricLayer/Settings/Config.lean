import MetricLayer.Sql.Dialect
import MetricLayer.Text.WordChar
/-!
# Settings

Compiler settings: the default dialect, whether to route queries to rollups, and where rollup
tables live. They are read from TOML (`Settings.ofToml`, in `Settings.Read`); every table and
key is optional and unknown ones are ignored, while a known key of the wrong type rejects the
document.

Rollup locations may name environment variables (`expandEnv`): `${NAME}` (the name runs to the
closing brace, or to the end of the text when there is none) or `$NAME` (a run of
alphanumeric characters and `_`). A `$` followed by neither stays as it is; a variable that is not
set is an error.
-/

namespace MetricLayer

open MetricLayer.Text

/-- Where rollup tables live. -/
structure RollupLocation where
  database : Option String
  schema : Option String
  deriving Inhabited, BEq

/-- Compiler settings. -/
structure Settings where
  dialect : Dialect
  usePreaggregations : Bool
  rollups : RollupLocation
  deriving Inhabited

/-- A settings failure. -/
inductive SettingsError where
  /-- The text is not TOML, or a known key has the wrong type. -/
  | parse
  /-- A referenced environment variable is not set. -/
  | missingEnvVar (name : String)
  deriving Inhabited, BEq

/-- The message of a settings failure. -/
def SettingsError.message : SettingsError → String
  | .parse => "Failed to parse config file"
  | .missingEnvVar n => "Missing environment variable: " ++ n

/-- The kind of a settings failure. -/
def SettingsError.kind : SettingsError → String
  | .parse => "ParseError"
  | .missingEnvVar _ => "MissingEnvVar"

/-- The default settings: duckdb, no rollups, no rollup location. -/
def Settings.default : Settings := ⟨.duckdb, false, ⟨none, none⟩⟩

/-- `table` qualified with the configured database and schema, each part quoted. -/
def RollupLocation.qualifiedTable (loc : RollupLocation) (table : String) (d : Dialect) : String :=
  let parts := loc.database.toList ++ loc.schema.toList ++ [table]
  String.intercalate "." (parts.map d.quoteIdent)

/-! ## Environment variables -/

/-- The value of an environment variable, found the way the C library finds it: the
environment is a list of entries `NAME=VALUE` in the order the variables were set, and the
value is what follows the first entry that starts with the name and an equals sign. A name
holding `=` can therefore reach into a value (`A=B` finds `x` when `A` is `B=x`). An empty
name is never found. -/
def envLookup (env : List (String × String)) (name : String) : Except SettingsError String :=
  let key := name.toList ++ ['=']
  let entry (k v : String) : List Char := k.toList ++ '=' :: v.toList
  match env.find? (fun (k, v) => key.isPrefixOf (entry k v)) with
  | some (k, v) => if name.isEmpty then .error (.missingEnvVar name)
    else .ok (String.ofList ((entry k v).drop key.length))
  | none => .error (.missingEnvVar name)

/-- Text with `${NAME}` and `$NAME` replaced by their values. -/
def expandEnvChars (env : List (String × String)) : List Char → Except SettingsError (List Char)
  | [] => .ok []
  | c :: cs =>
    if c != '$' then (expandEnvChars env cs).map (c :: ·)
    else if cs.head? == some '{' then
      let rest := cs.drop 1
      let name := rest.takeWhile (· != '}')
      let after := (rest.drop name.length).drop 1
      do
        let v ← envLookup env (String.ofList name)
        return v.toList ++ (← expandEnvChars env after)
    else
      let name := cs.takeWhile fun ch => isAlphanumeric ch || ch == '_'
      if name.isEmpty then (expandEnvChars env cs).map ('$' :: ·)
      else do
        let v ← envLookup env (String.ofList name)
        return v.toList ++ (← expandEnvChars env (cs.drop name.length))
termination_by cs => cs.length
decreasing_by all_goals (simp; try omega)

/-- Text with environment variables expanded. -/
def expandEnv (env : List (String × String)) (s : String) : Except SettingsError String :=
  (expandEnvChars env s.toList).map String.ofList

end MetricLayer
