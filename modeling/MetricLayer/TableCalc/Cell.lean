import MetricLayer.Formula.Syntax
import MetricLayer.Decimal.Read
import MetricLayer.Text.Blank
/-!
# Result cells

A cell of a result row: NULL, a boolean, a 64-bit integer, a double or text. Calculations read
cells as numbers (`Cell.number?`): NULL reads as zero, text is trimmed and read as an integer or
else as a double (so `" 7 "`, `"1e3"` and `"nan"` are numbers), and a boolean is not a number.
-/

namespace MetricLayer.TableCalc

open MetricLayer.Formula MetricLayer.Decimal MetricLayer.Text

/-- A result cell. -/
inductive Cell where
  | null
  | bool (b : Bool)
  | int (i : Int)
  | float (x : Float)
  | text (s : String)
  deriving Inhabited

namespace Cell

/-- The numeric reading of a cell: NULL is zero, numeric text is parsed, booleans and other text
are not numbers. -/
def number? : Cell → Option Number
  | null => some (.int 0)
  | int i => some (.int i)
  | float x => some (.float x)
  | text s =>
    let t := trimBlank s
    match readI64? t with
    | some i => some (.int i)
    | none => (readF64? t).map .float
  | bool _ => none

/-- The cell holding a number. -/
def ofNum : Number → Cell
  | .int i => int i
  | .float x => float x

/-- The text of a cell, used to group rows: `NULL`, `true`/`false`, digits, shortest double
text, or the text itself. -/
def display : Cell → String
  | null => "NULL"
  | bool b => if b then "true" else "false"
  | int i => toString i
  | float x => (Number.float x).render
  | text s => s

/-- Whether the cell is NULL. -/
def isNull : Cell → Bool
  | null => true
  | _ => false

end Cell

end MetricLayer.TableCalc
