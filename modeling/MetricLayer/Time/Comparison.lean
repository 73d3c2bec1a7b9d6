import MetricLayer.Time.Unit
import MetricLayer.Sql.Expr
/-!
# Period-over-period comparisons

A comparison relates a metric with its own value some periods earlier. The earlier value is
read with `LAG` over the grouped result ordered by the time dimension, partitioned by the other
grouped columns; how many rows to look back depends on the grain of the time dimension.
-/

namespace MetricLayer

/-- The standard comparison periods. -/
inductive ComparisonType where
  | yoy
  | mom
  | wow
  | dod
  | qoq
  | priorPeriod
  deriving Repr, DecidableEq, Inhabited

/-- The name of a comparison period. -/
def ComparisonType.name : ComparisonType → String
  | .yoy => "yoy"
  | .mom => "mom"
  | .wow => "wow"
  | .dod => "dod"
  | .qoq => "qoq"
  | .priorPeriod => "prior_period"

/-- All comparison periods. -/
def ComparisonType.all : List ComparisonType := [.yoy, .mom, .wow, .dod, .qoq, .priorPeriod]

/-- The default look-back of a comparison period. -/
def ComparisonType.defaultInterval : ComparisonType → Int × TimeUnit
  | .dod => (1, .day)
  | .wow => (1, .week)
  | .mom => (1, .month)
  | .qoq => (1, .quarter)
  | .yoy => (1, .year)
  | .priorPeriod => (1, .day)

/-- How the current and the earlier value are combined. -/
inductive Calculation where
  | difference
  | percentChange
  | ratio
  deriving Repr, DecidableEq, Inhabited

/-- The name of a calculation. -/
def Calculation.name : Calculation → String
  | .difference => "difference"
  | .percentChange => "percent_change"
  | .ratio => "ratio"

/-- Reads a calculation name, exactly. -/
def Calculation.parse (s : String) : Except Error Calculation :=
  if s == "difference" then .ok .difference
  else if s == "percent_change" then .ok .percentChange
  else if s == "ratio" then .ok .ratio
  else .error (.unknownCalculation s)

/-- A period-over-period comparison of a base metric. -/
structure TimeComparison where
  type : ComparisonType
  /-- The base metric, `model.metric` or a graph-level name. -/
  metric : String
  offset : Option Int := none
  offsetUnit : Option TimeUnit := none
  calculation : Calculation := .percentChange
  deriving Repr, DecidableEq, Inhabited

namespace TimeComparison

/-- A custom look-back; an offset of zero compares a period with itself and is refused. -/
def withOffset (c : TimeComparison) (offset : Int) (u : TimeUnit) : Except Error TimeComparison :=
  if offset == 0 then .error (.invalidTimeComparison "offset must be non-zero")
  else .ok { c with offset := some offset, offsetUnit := some u }

/-- Checks a comparison read from a definition: a non-zero offset, with its unit. -/
def validate (c : TimeComparison) : Except Error Unit :=
  match c.offset, c.offsetUnit with
  | some 0, _ => .error (.invalidTimeComparison "offset must be non-zero")
  | some _, none => .error (.invalidTimeComparison "offset requires offset_unit")
  | _, _ => .ok ()

/-- The look-back `(amount, unit)`: the custom offset when complete, else the default. -/
def offsetInterval (c : TimeComparison) : Int × TimeUnit :=
  match c.offset, c.offsetUnit with
  | some a, some u => (a, u)
  | _, _ => c.type.defaultInterval

/-- The look-back as an interval literal, `none` where the dialect has none. -/
def sqlOffset (c : TimeComparison) (d : Dialect) : Except Error (Option String) := do
  let (a, u) := c.offsetInterval
  let (a, unitName) ← u.intervalParts a
  d.intervalLiteral a unitName

/-- Rows to look back in a result grouped at `grain`; without a grain the data counts as
monthly for yearly comparisons and one row per period otherwise. -/
def lagOffset (c : TimeComparison) (grain : Option Granularity) : Except Error Int :=
  let (a, u) := c.offsetInterval
  match grain with
  | some g => Amount.mul a (u.rowsPerUnit g)
  | none => if u == .year then Amount.mul a 12 else .ok a

end TimeComparison

open Sql in
/-- The comparison over an aggregated metric column: the earlier value is
`LAG(current, lag) OVER (PARTITION BY … ORDER BY time)`, `LAG(current)` for a lag of one. -/
def comparisonExpr (how : Calculation) (current time : String) (partition : List String)
    (lag : Int) : Expr :=
  let cur := Expr.raw current
  let lagged := if lag == 1 then fn "LAG" [cur] else fn "LAG" [cur, litInt lag]
  let prior := Expr.window lagged (partition.map .raw) [.raw time] none
  match how with
  | .difference => .paren (cur.sub prior)
  | .percentChange => .paren (((Expr.paren (cur.sub prior)).div (nullif prior (litInt 0))).mul (litInt 100))
  | .ratio => .paren (cur.div (nullif prior (litInt 0)))

end MetricLayer
