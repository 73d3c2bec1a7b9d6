import MetricLayer.TableCalc.Calculation
import MetricLayer.Formula.Eval
/-!
# Running table calculations

Calculations run in declaration order over rows in result order, each writing one column
(appended, or overwritten when the name is already a column); later calculations read the
columns earlier ones wrote. Every calculation is checked before any row is touched.

Columns are found by name, the last column of a name winning. A column the rows do not have
reads as zero where a number is needed; a formula that fails on a row yields NULL there.
-/

namespace MetricLayer.TableCalc

open MetricLayer.Formula MetricLayer.Decimal

/-- Rows with named columns. -/
structure Frame where
  columns : List String
  rows : List (List Cell)
  deriving Inhabited

/-- The cell at position `i` of a row. -/
def cellAt (row : List Cell) (i : Nat) : Option Cell := row[i]?

/-- A row padded with NULL to at least `width` cells. -/
def padRow (width : Nat) (row : List Cell) : List Cell :=
  row ++ List.replicate (width - row.length) .null

/-- A row with position `i` set to `v`, padded with NULL when shorter. -/
def setCell (i : Nat) (v : Cell) (row : List Cell) : List Cell :=
  (padRow (i + 1) row).set i v

/-- Sum of doubles, in order, starting from negative zero. -/
def sumFloats (xs : List Float) : Float := xs.foldl (· + ·) (-0.0)

namespace Frame

/-- A frame whose rows are padded to the number of columns. -/
def make (columns : List String) (rows : List (List Cell)) : Frame :=
  ⟨columns, rows.map (padRow columns.length)⟩

/-- The position of the last column named `name`. -/
def indexOf? (f : Frame) (name : String) : Option Nat :=
  (f.columns.zipIdx.foldl (fun acc (c, i) => if c == name then some i else acc) none)

/-- The cell of `column` in row `row`, when the column exists. -/
def cell (f : Frame) (row : List Cell) (column : String) : Option Cell :=
  (f.indexOf? column).bind (cellAt row)

/-- The numbers of a column, a missing column reading as zeros. -/
def numbers (f : Frame) (name column : String) : Except CalcError (List Number) :=
  f.rows.mapM fun row =>
    match f.cell row column with
    | none => .ok (.int 0)
    | some v =>
      match v.number? with
      | some n => .ok n
      | none => .error (.notNumeric name column)

/-- Writes `values` into column `name`, adding the column when new. -/
def setColumn (f : Frame) (name : String) (values : List Cell) : Frame :=
  match f.indexOf? name with
  | some i => ⟨f.columns, (f.rows.zip values).map fun (row, v) => setCell i v row⟩
  | none =>
    let i := f.columns.length
    ⟨f.columns ++ [name], (f.rows.zip values).map fun (row, v) => setCell i v row⟩

end Frame

/-! ## The calculations -/

/-- Each value as a percentage of the sum; all zero when the sum is zero. -/
def percentOfTotal (values : List Number) : List Cell :=
  let total := sumFloats (values.map Number.toFloat)
  values.map fun v => .float (if total == 0.0 then 0.0 else v.toFloat / total * 100.0)

/-- `groups` with `row` added last to the rows of `key`, or opening a group of its own at the
end when no group has that key. -/
def addToGroup (key : List String) (row : Nat) :
    List (List String × List Nat) → List (List String × List Nat)
  | [] => [(key, [row])]
  | (k, rows) :: groups =>
    if k == key then (k, rows ++ [row]) :: groups else (k, rows) :: addToGroup key row groups

/-- The positions of the rows of each key, in row order. -/
def groupRows (keys : List (List String)) : List (List String × List Nat) :=
  (List.range keys.length).foldl (fun groups row => addToGroup (keys.getD row []) row groups) []

/-- `out` with the percentages of a group's values, against the group's own total, written at
the group's rows. -/
def writeGroupShares (values : List Number) (out : List Cell) (rows : List Nat) : List Cell :=
  let part := rows.map fun row => values.getD row (.int 0)
  (rows.zip (percentOfTotal part)).foldl (fun out (row, cell) => out.set row cell) out

/-- Percentages of the total within groups of rows with equal partition keys. The rows are
grouped by key first; the groups are disjoint, so the order they are written in is immaterial. -/
def percentWithinGroups (keys : List (List String)) (values : List Number) : List Cell :=
  (groupRows keys).foldl (fun out group => writeGroupShares values out group.2)
    (List.replicate keys.length .null)

/-- Change from the previous row in percent; NULL on the first row, after a NULL, or when the
previous value is zero. -/
def percentOfPrevious (f : Frame) (name field : String) : Except CalcError (List Cell) := do
  let readings ← f.rows.mapM fun row =>
    match f.cell row field with
    | none => .ok none
    | some .null => .ok none
    | some v =>
      match v.number? with
      | some n => .ok (some n.toFloat)
      | none => .error (.notNumeric name field)
  let previous := none :: readings.dropLast
  return (previous.zip readings).map fun
    | (some p, some c) => if p != 0.0 then .float ((c - p) / p * 100.0) else .null
    | _ => .null

/-- Sum of two numbers: integers while the sum fits in 64 bits, doubles otherwise. -/
def addNum : Number → Number → Number
  | .int a, .int b => if fitsI64 (a + b) then .int (a + b) else .float (ofInt a + ofInt b)
  | a, b => .float (a.toFloat + b.toFloat)

/-- Running totals. -/
def runningTotals (values : List Number) : List Cell :=
  (values.foldl (fun (acc : Number × List Cell) v =>
    let t := addNum acc.1 v
    (t, acc.2 ++ [Cell.ofNum t])) (.int 0, [])).2

/-- Row positions ordered by value, largest first, ties in row order. -/
def descendingOrder (values : List Float) : List Nat :=
  (List.range values.length).mergeSort fun a b => !(values.getD a 0 < values.getD b 0)

/-- Competition ranks (`1, 1, 3`) by value, largest first. -/
def ranks (values : List Float) : List Cell :=
  let order := descendingOrder values
  let step (acc : Int × Option Float × List (Nat × Int)) (entry : Nat × Nat) :=
    let (rank, previous, out) := acc
    let (row, position) := entry
    let v := values.getD row 0
    let rank := if previous == some v then rank else position + 1
    (rank, some v, (row, rank) :: out)
  let (_, _, assigned) := order.zipIdx.foldl step (1, none, [])
  (List.range values.length).map fun row =>
    match assigned.find? (·.1 == row) with
    | some (_, r) => .int r
    | none => .null

/-- Averages over the last `window` rows up to each row. -/
def movingAverages (values : List Float) (window : Nat) : List Cell :=
  (List.range values.length).map fun row =>
    let start := (row + 1) - window
    let slice := (values.drop start).take (row + 1 - start)
    .float (sumFloats slice / ofInt slice.length)

/-- The value at `fraction` of the way through the sorted values, interpolating linearly
between the closest ranks. -/
def percentileOf (values : List Float) (fraction : Float) : Option Float :=
  if values.isEmpty then none
  else
    let sorted := values.mergeSort fun a b => !(b < a)
    let position := fraction * ofInt (sorted.length - 1)
    let lower := (Float.floor position).toUInt64.toNat
    let upper := (Float.ceil position).toUInt64.toNat
    let weight := position - ofInt lower
    let lo := sorted.getD lower 0
    let hi := sorted.getD upper 0
    some (lo + (hi - lo) * weight)

/-- The column a step writes. -/
def applyStep (f : Frame) (name : String) : Step → Except CalcError (List Cell)
  | .formula e => .ok <| f.rows.map fun row =>
    let column (c : String) : Except EvalError Number :=
      match f.cell row c with
      | none => .error (.unknownColumn c)
      | some v =>
        match v.number? with
        | some n => .ok n
        | none => .error (.notNumeric c)
    match eval column e with
    | .ok n => Cell.ofNum n
    | .error _ => .null
  | .percentOfTotal field => do return percentOfTotal (← f.numbers name field)
  | .percentOfColumnTotal field partition => do
    let values ← f.numbers name field
    if partition.isEmpty then return percentOfTotal values
    else
      let keys := f.rows.map fun row =>
        partition.map fun p => ((f.cell row p).map Cell.display).getD ""
      return percentWithinGroups keys values
  | .percentOfPrevious field => percentOfPrevious f name field
  | .runningTotal field => do return runningTotals (← f.numbers name field)
  | .rank field => do return ranks ((← f.numbers name field).map Number.toFloat)
  | .rowNumber => .ok ((List.range f.rows.length).map fun (i : Nat) => Cell.int (Int.ofNat i + 1))
  | .movingAverage field window => do
    return movingAverages ((← f.numbers name field).map Number.toFloat) window
  | .percentile field fraction => do
    let present ← f.rows.filterMapM fun row =>
      match f.cell row field with
      | none => .ok none
      | some .null => .ok none
      | some v =>
        match v.number? with
        | some n => .ok (some n.toFloat)
        | none => .error (.notNumeric name field)
    let value := match percentileOf present fraction with
      | some x => Cell.float x
      | none => .null
    return f.rows.map fun _ => value

/-- Checks every calculation, then applies them in order; returns the rows and the columns. -/
def process (calcs : List Calculation) (rows : List (List Cell)) (columns : List String) :
    Except CalcError (List (List Cell) × List String) := do
  let steps ← calcs.mapM fun c => do return (c.name, ← c.plan)
  let frame ← steps.foldlM (fun (f : Frame) (name, step) => do
    return f.setColumn name (← applyStep f name step)) (Frame.make columns rows)
  return (frame.rows, frame.columns)

end MetricLayer.TableCalc
