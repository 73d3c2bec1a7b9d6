import MetricLayer.TableCalc.Cell
import MetricLayer.Formula.Parser
import MetricLayer.Decimal.Layout
/-!
# Table calculations

A table calculation is named like the output column it writes and has a type that decides
which of its fields it needs. `Calculation.plan` checks those fields and turns the calculation
into a `Step`: a formula must parse, a moving average needs a window of at least one row, a
percentile needs a fraction in `[0, 1]`, and every other type except `row_number` needs a field.
-/

namespace MetricLayer.TableCalc

open MetricLayer.Decimal

/-- The kinds of table calculation. -/
inductive CalcType where
  | formula
  | percentOfTotal
  | percentOfPrevious
  | percentOfColumnTotal
  | runningTotal
  | rank
  | rowNumber
  | percentile
  | movingAverage
  deriving Inhabited, BEq, DecidableEq, Repr

/-- Why a calculation cannot run. -/
inductive CalcError where
  | missingField (name : String) (type : CalcType) (field : String)
  | invalidFormula (name : String) (position : Nat)
  | invalidPercentile (name : String) (value : Float)
  | invalidWindowSize (name : String)
  | unknownType (text : String)
  | notNumeric (name column : String)
  deriving Inhabited

namespace CalcType

/-- Every type, in declaration order. -/
def all : List CalcType :=
  [formula, percentOfTotal, percentOfPrevious, percentOfColumnTotal, runningTotal, rank,
   rowNumber, percentile, movingAverage]

/-- The snake-case name of a type. -/
def name : CalcType → String
  | formula => "formula"
  | percentOfTotal => "percent_of_total"
  | percentOfPrevious => "percent_of_previous"
  | percentOfColumnTotal => "percent_of_column_total"
  | runningTotal => "running_total"
  | rank => "rank"
  | rowNumber => "row_number"
  | percentile => "percentile"
  | movingAverage => "moving_average"

/-- The type with exactly this name. -/
def ofName? (s : String) : Option CalcType := all.find? (·.name == s)

/-- The type a user wrote: trimmed and lower-cased (ASCII) before matching. -/
def parse (s : String) : Except CalcError CalcType :=
  match ofName? (String.ofList ((Text.trimBlank s).toList.map Char.toLower)) with
  | some t => .ok t
  | none => .error (.unknownType s)

end CalcType

namespace CalcError

/-- The name of the failure. -/
def kind : CalcError → String
  | missingField .. => "MissingField"
  | invalidFormula .. => "InvalidFormula"
  | invalidPercentile .. => "InvalidPercentile"
  | invalidWindowSize _ => "InvalidWindowSize"
  | unknownType _ => "UnknownType"
  | notNumeric .. => "NotNumeric"

/-- The text of the failure. -/
def message : CalcError → String
  | missingField n t f => t.name ++ " calculation '" ++ n ++ "' missing " ++ f
  | invalidFormula n p =>
    "Invalid formula expression in '" ++ n ++ "': invalid formula at position " ++ toString p
  | invalidPercentile n v =>
    "Percentile for '" ++ n ++ "' must be between 0 and 1, got " ++ FloatLayout.message.render v
  | invalidWindowSize n => "Window size for '" ++ n ++ "' must be at least 1"
  | unknownType s => "Unknown table calculation type: " ++ s
  | notNumeric n c => "Column '" ++ c ++ "' used by '" ++ n ++ "' is not numeric"

end CalcError

/-- A calculation over result rows. -/
structure Calculation where
  name : String
  type : CalcType
  description : Option String
  /-- Formula with `${column}` references. -/
  expression : Option String
  /-- The column the calculation reads. -/
  field : Option String
  partitionBy : List String
  orderBy : List String
  windowSize : Option Nat
  /-- A fraction in `[0, 1]`. -/
  percentile : Option Float
  deriving Inhabited

/-- A checked calculation, ready to run. -/
inductive Step where
  | formula (e : Formula.Expr)
  | percentOfTotal (field : String)
  | percentOfPrevious (field : String)
  | percentOfColumnTotal (field : String) (partitionBy : List String)
  | runningTotal (field : String)
  | rank (field : String)
  | rowNumber
  | movingAverage (field : String) (window : Nat)
  | percentile (field : String) (fraction : Float)
  deriving Inhabited

namespace Calculation

/-- The error for a missing field. -/
def missing (c : Calculation) (field : String) : CalcError := .missingField c.name c.type field

/-- The field the calculation reads, required. -/
def requireField (c : Calculation) : Except CalcError String :=
  match c.field with
  | some f => .ok f
  | none => .error (c.missing "field")

/-- Checks the fields the calculation's type needs and builds its step. -/
def plan (c : Calculation) : Except CalcError Step :=
  match c.type with
  | .formula =>
    match c.expression with
    | none => .error (c.missing "expression")
    | some text =>
      match Formula.parse text with
      | .ok e => .ok (.formula e)
      | .error p => .error (.invalidFormula c.name p)
  | .percentOfTotal => return .percentOfTotal (← c.requireField)
  | .percentOfPrevious => return .percentOfPrevious (← c.requireField)
  | .percentOfColumnTotal => return .percentOfColumnTotal (← c.requireField) c.partitionBy
  | .runningTotal => return .runningTotal (← c.requireField)
  | .rank => return .rank (← c.requireField)
  | .rowNumber => .ok .rowNumber
  | .movingAverage => do
    let f ← c.requireField
    match c.windowSize with
    | none => throw (c.missing "window_size")
    | some 0 => throw (.invalidWindowSize c.name)
    | some w => return .movingAverage f w
  | .percentile => do
    let f ← c.requireField
    match c.percentile with
    | none => throw (c.missing "percentile value")
    | some p =>
      if 0.0 ≤ p && p ≤ 1.0 then return .percentile f p
      else throw (.invalidPercentile c.name p)

/-- Checks the calculation without running it. -/
def validate (c : Calculation) : Except CalcError Unit := (c.plan).map fun _ => ()

end Calculation

end MetricLayer.TableCalc
