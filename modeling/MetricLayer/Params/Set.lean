import MetricLayer.Params.Parameter
import MetricLayer.Template.Render
import MetricLayer.Text.WordChar
import MetricLayer.Text.Split
/-!
# Parameter sets and interpolation

A `ParameterSet` binds parameter definitions (one per name, the later definition winning) to
the values supplied with one query. A parameter's value is the supplied one, else the current
date for a `default_to_today` date, else its default, else `null`.

`interpolate` fills a SQL fragment. A fragment with block or comment tags (`{%`, `{#`) is a
template rendered with every parameter's raw value in scope. Any other fragment has each
`{{ name }}` placeholder naming a parameter replaced by that parameter's SQL literal; other
placeholders stay as written, and replaced text is not scanned again.
-/

namespace MetricLayer

open MetricLayer.Text

/-- Whether text uses template syntax at all. -/
def isTemplate (source : String) : Bool :=
  containsText source "\x7b\x7b" || containsText source "\x7b%" || containsText source "\x7b#"

/-- Renders a template fragment with JSON values in scope; text without template syntax is
returned as it is. -/
def renderTemplate (source : String) (context : List (String × Json)) : Except Error String :=
  if !isTemplate source then .ok source
  else match Template.render source (context.map fun (k, v) => (k, Template.Value.ofJson v)) with
    | .ok text => .ok text
    | .error .panic => .error .overflow
    | .error .error => .error .template

/-- Parameter definitions bound to the values supplied with one query. -/
structure ParameterSet where
  /-- Definitions sorted by name, one per name. -/
  parameters : List Parameter
  /-- Supplied values by name. -/
  values : List (String × Json)
  /-- The current date, `YYYY-MM-DD`, for `default_to_today` dates. -/
  today : String

namespace ParameterSet

/-- Inserts a definition into a name-sorted list, replacing one of the same name. -/
def insertSorted (p : Parameter) : List Parameter → List Parameter
  | [] => [p]
  | q :: qs =>
    if p.name == q.name then p :: qs
    else if p.name < q.name then p :: q :: qs
    else q :: insertSorted p qs

/-- The set of the given definitions (later ones win) with supplied values. -/
def make (ps : List Parameter) (values : List (String × Json)) (today : String) : ParameterSet :=
  ⟨ps.foldl (fun acc p => insertSorted p acc) [], values, today⟩

/-- The definition of `name`. -/
def find? (s : ParameterSet) (name : String) : Option Parameter :=
  s.parameters.find? (·.name == name)

/-- The definition of `name`, or `ParameterNotFound`. -/
def lookup (s : ParameterSet) (name : String) : Except Error Parameter :=
  match s.find? name with
  | some p => .ok p
  | none => .error (.parameterNotFound name)

/-- The value of `name`: supplied, today for `default_to_today` dates, default, or `null`. -/
def get (s : ParameterSet) (name : String) : Except Error Json := do
  let p ← s.lookup name
  match s.values.lookup name with
  | some v => return v
  | none =>
    if p.defaultToToday && p.type == .date then return .str s.today
    else return p.defaultValue.getD .null

/-- The SQL literal for `name`. -/
def format (s : ParameterSet) (name : String) : Except Error String := do
  let p ← s.lookup name
  p.formatValue (← s.get name)

/-- A `{{ name }}` placeholder at the start of `cs` (blanks allowed around a name of word
characters): the name and the number of characters the placeholder spans. -/
def placeholderAt (cs : List Char) : Option (String × Nat) :=
  match cs with
  | '{' :: '{' :: rest =>
    let lead := rest.takeWhile isBlank
    let r1 := rest.drop lead.length
    let name := r1.takeWhile isWordChar
    let r2 := r1.drop name.length
    let trail := r2.takeWhile isBlank
    match r2.drop trail.length with
    | '}' :: '}' :: _ =>
      if name.isEmpty then none
      else some (String.ofList name, 2 + lead.length + name.length + trail.length + 2)
    | _ => none
  | _ => none

/-- Placeholders replaced, scanning left to right. -/
def fillPlaceholders (s : ParameterSet) : List Char → Except Error (List Char)
  | [] => .ok []
  | c :: cs =>
    match placeholderAt (c :: cs) with
    | some (name, width) => do
      let here ← if (s.find? name).isSome then s.format name
        else pure (String.ofList ((c :: cs).take width))
      let rest ← s.fillPlaceholders (cs.drop (width - 1))
      return here.toList ++ rest
    | none => (s.fillPlaceholders cs).map (c :: ·)
termination_by cs => cs.length
decreasing_by all_goals (simp; try omega)

/-- The fragment with parameters filled in. -/
def interpolate (s : ParameterSet) (sql : String) : Except Error String := do
  if containsText sql "\x7b%" || containsText sql "\x7b#" then
    let context ← s.parameters.mapM fun p => do return (p.name, ← s.get p.name)
    renderTemplate sql context
  else
    return String.ofList (← s.fillPlaceholders sql.toList)

end ParameterSet

end MetricLayer
