import MetricLayer.Amount
import MetricLayer.Schema.Granularity
import MetricLayer.Text.Blank
import MetricLayer.Text.Case
/-!
# Calendar units and rolling windows

The units of comparison offsets and rolling windows, from a day to a year. A unit name is read
without regard to case, surrounding blanks or trailing `s` letters. An amount of quarters is
written as three times as many months, since not every dialect knows quarters in an interval.
-/

namespace MetricLayer

/-- A calendar unit. -/
inductive TimeUnit where
  | day
  | week
  | month
  | quarter
  | year
  deriving Repr, DecidableEq, Inhabited

namespace TimeUnit

open MetricLayer.Text

/-- All units, shortest first. -/
def all : List TimeUnit := [day, week, month, quarter, year]

/-- The singular name of a unit. -/
def name : TimeUnit → String
  | day => "day"
  | week => "week"
  | month => "month"
  | quarter => "quarter"
  | year => "year"

/-- The unit with exactly this name. -/
def ofName? (s : String) : Option TimeUnit := all.find? (·.name == s)

/-- Reads a unit name: trimmed, lower-cased, trailing `s` letters dropped. -/
def parse (s : String) : Except Error TimeUnit :=
  let low := toLowerText (trimBlank s)
  let stem := String.ofList (low.toList.reverse.dropWhile (· == 's')).reverse
  match ofName? stem with
  | some u => .ok u
  | none => .error (.invalidTimeComparison s!"unknown time unit '{s}'")

/-- `(amount, unit name)` for an interval, quarters written as months. -/
def intervalParts (u : TimeUnit) (amount : Int) : Except Error (Int × String) :=
  match u with
  | quarter => do pure (← Amount.mul amount 3, "month")
  | u => pure (amount, u.name)

/-- Rows of a result grouped at `grain` that make up one unit; a grain as coarse as the unit
or coarser counts one row. -/
def rowsPerUnit : TimeUnit → Granularity → Int
  | day, .hour => 24
  | week, .hour => 168
  | week, .day => 7
  | month, .hour => 720
  | month, .day => 30
  | month, .week => 4
  | quarter, .hour => 2160
  | quarter, .day => 90
  | quarter, .week => 13
  | quarter, .month => 3
  | year, .hour => 8760
  | year, .day => 365
  | year, .week => 52
  | year, .month => 12
  | year, .quarter => 4
  | _, _ => 1

end TimeUnit

/-- Reads a rolling window such as `7 days`: exactly two words, an integer and a unit. -/
def parseWindow (window : String) : Except Error (Int × TimeUnit) :=
  match Text.blankWords window with
  | [amount, unit] =>
    match Decimal.readI64? amount with
    | some a => do pure (a, ← TimeUnit.parse unit)
    | none => .error (.invalidTimeComparison s!"window amount '{amount}' is not an integer")
  | _ => .error (.invalidTimeComparison s!"window '{window}' must look like '<amount> <unit>'")

end MetricLayer
