import MetricLayer.Error
import MetricLayer.Json
import MetricLayer.Decimal.Layout
import MetricLayer.Text.Blank
import MetricLayer.Text.Case
/-!
# Parameters

A parameter is a named, typed input of a query. Its type decides how a value becomes a SQL
literal (`Parameter.formatValue`):

* `yesno` prints `TRUE` or `FALSE` by the truthiness of the value (`"yes"`, `"y"`, `"true"`,
  `"1"` in any case, non-zero numbers, non-empty arrays and objects);
* every other type prints `NULL` for `null`;
* `string` and `date` quote the value's text, doubling single quotes;
* `number` keeps a JSON number's text and reads a string as a finite double;
* `unquoted` splices text made only of ASCII letters, digits, `_` and `.`.

A value outside a parameter's allowed values is rejected before any of this.
-/

namespace MetricLayer

open MetricLayer.Decimal MetricLayer.Text

/-- The type of a parameter. -/
inductive ParameterType where
  | string
  | number
  | date
  | unquoted
  | yesno
  deriving Inhabited, BEq, DecidableEq, Repr

namespace ParameterType

/-- The lower-case name of a type, as definitions spell it. -/
def name : ParameterType → String
  | string => "string"
  | number => "number"
  | date => "date"
  | unquoted => "unquoted"
  | yesno => "yesno"

/-- The type a name spells. -/
def ofName? : String → Option ParameterType
  | "string" => some string
  | "number" => some number
  | "date" => some date
  | "unquoted" => some unquoted
  | "yesno" => some yesno
  | _ => none

end ParameterType

/-- A user-configurable query input. -/
structure Parameter where
  name : String
  type : ParameterType
  defaultValue : Option Json
  allowedValues : Option (List Json)
  /-- Date parameters without a value fall back to the current date. -/
  defaultToToday : Bool
  description : Option String
  label : Option String
  deriving Inhabited, BEq

namespace Parameter

/-- The error for a bad value of this parameter. -/
def invalid (p : Parameter) (detail : String) : Error := .invalidParameterValue p.name detail

/-- The text of a value: a string itself, anything else as compact JSON. -/
def valueText : Json → String
  | .str s => s
  | j => j.render

/-- Whether a value counts as "yes". -/
def truthy : Json → Bool
  | .null => false
  | .bool b => b
  | .num t =>
    match readF64? t with
    | some x => x.isFinite && x != 0.0
    | none => false
  | .str s => ["yes", "y", "true", "1"].contains (asciiLowerText (trimBlank s))
  | .arr items => !items.isEmpty
  | .obj fields => !fields.isEmpty
where
  /-- ASCII letters lower-cased, other characters kept. -/
  asciiLowerText (s : String) : String := String.ofList (s.toList.map Char.toLower)

/-- Text single-quoted for SQL, single quotes doubled. -/
def quoteText (s : String) : String :=
  String.ofList ('\'' :: s.toList.flatMap (fun c => if c == '\'' then ['\'', '\''] else [c]) ++
    ['\''])

/-- A number literal: a JSON number as its value prints, or a string read as a finite
double. -/
def formatNumber (p : Parameter) : Json → Except Error String
  | .num t => .ok (Json.numberValue t).text
  | .str s =>
    match readF64? (trimBlank s) with
    | some x => if (parts x).isFinite then .ok (FloatLayout.literal.render x)
      else .error (p.invalid ("'" ++ s ++ "' is not a number"))
    | none => .error (p.invalid ("'" ++ s ++ "' is not a number"))
  | other => .error (p.invalid ("expected a number, got " ++ other.render))

/-- Whether text may be spliced into SQL unquoted. -/
def isSafeUnquoted (s : String) : Bool :=
  !s.isEmpty && s.toList.all fun c => (c.toNat < 128 && c.isAlphanum) || c == '_' || c == '.'

/-- The SQL literal for a value of this parameter. -/
def formatValue (p : Parameter) (v : Json) : Except Error String := do
  if let some allowed := p.allowedValues then
    if !v.isNull && !allowed.any (· == v) then
      throw (p.invalid (v.render ++ " is not one of the allowed values"))
  match p.type with
  | .yesno => return if truthy v then "TRUE" else "FALSE"
  | ty =>
    if v.isNull then return "NULL"
    else match ty with
      | .number => p.formatNumber v
      | .unquoted =>
        let text := valueText v
        if isSafeUnquoted text then return text
        else throw (p.invalid
          ("unquoted values may only contain letters, digits, '_' and '.', got '" ++ text ++ "'"))
      | _ => return quoteText (valueText v)

/-- Checks the definition itself: `default_to_today` only on dates, and a usable default. -/
def validate (p : Parameter) : Except Error Unit := do
  if p.defaultToToday && p.type != .date then
    throw (p.invalid "default_to_today only applies to date parameters")
  if let some d := p.defaultValue then
    discard (p.formatValue d)

end Parameter

end MetricLayer
