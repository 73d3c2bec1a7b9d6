import MetricLayer.Error
/-!
# Time grains

A grain is the unit a timestamp is truncated to. Grains are ordered from the coarsest (year,
level 1) to the finest (hour, level 6). A value truncated to a finer grain can be truncated
again to a coarser one, except that weeks do not nest in months, quarters or years.
-/

namespace MetricLayer

/-- A time grain. -/
inductive Granularity where
  | hour
  | day
  | week
  | month
  | quarter
  | year
  deriving Repr, DecidableEq, Inhabited

namespace Granularity

/-- All grains from the finest to the coarsest. -/
def all : List Granularity := [hour, day, week, month, quarter, year]

/-- The name of a grain. -/
def name : Granularity → String
  | hour => "hour"
  | day => "day"
  | week => "week"
  | month => "month"
  | quarter => "quarter"
  | year => "year"

/-- Depth of a grain: 1 for a year up to 6 for an hour. -/
def level : Granularity → Nat
  | year => 1
  | quarter => 2
  | month => 3
  | week => 4
  | day => 5
  | hour => 6

/-- Whether data stored at this grain can be truncated again to `target`. -/
def canRollUpTo (g target : Granularity) : Bool :=
  if g == week && (target == month || target == quarter || target == year) then false
  else target.level ≤ g.level

/-- The grain with exactly this name. -/
def ofName? (s : String) : Option Granularity := all.find? (·.name == s)

/-- The message for a text that names no grain. -/
def invalidMessage (s : String) : String :=
  s!"invalid granularity '{s}' (expected one of hour, day, week, month, quarter, year)"

/-- Reads a grain name; anything else is an invalid reference. -/
def parse (s : String) : Except Error Granularity :=
  match ofName? s with
  | some g => .ok g
  | none => .error (.invalidReference (invalidMessage s))

end Granularity

end MetricLayer
