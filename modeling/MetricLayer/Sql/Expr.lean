import MetricLayer.Sql.Dialect
import MetricLayer.Decimal.Layout
/-!
# SQL expressions

The expressions the compiler builds: column references, literals, binary operators, function
calls, `IS NULL`, parentheses and window functions. Metric and filter bodies written by users
stay `raw` fragments; structured nodes are built around them. `Expr.render` is the only place an
expression becomes text, and the dialect decides quoting, literals and function names there.
-/

namespace MetricLayer.Sql

open MetricLayer.Decimal

/-- A literal value. -/
inductive Literal where
  | int (i : Int)
  | float (x : Float)
  | str (s : String)
  deriving Inhabited

/-- The binary operators the compiler writes. -/
inductive BinOp where
  | eq
  | gte
  | and
  | or
  | plus
  | minus
  | mul
  | div
  deriving Repr, DecidableEq, Inhabited

/-- The text of an operator. -/
def BinOp.text : BinOp → String
  | .eq => "="
  | .gte => ">="
  | .and => "AND"
  | .or => "OR"
  | .plus => "+"
  | .minus => "-"
  | .mul => "*"
  | .div => "/"

/-- Whether a window frame counts rows or a value range. -/
inductive FrameKind where
  | rows
  | range
  deriving Repr, DecidableEq, Inhabited

/-- One end of a window frame. -/
inductive FrameBound where
  | unboundedPreceding
  | preceding (n : Nat)
  /-- An interval literal before the current row (range frames). -/
  | intervalPreceding (interval : String)
  | currentRow
  deriving Repr, DecidableEq, Inhabited

/-- A window frame `ROWS|RANGE BETWEEN start AND end`. -/
structure Frame where
  kind : FrameKind
  start : FrameBound
  stop : FrameBound
  deriving Repr, DecidableEq, Inhabited

/-- A SQL expression. -/
inductive Expr where
  | column (table : Option String) (name : String)
  | lit (l : Literal)
  | binary (l : Expr) (op : BinOp) (r : Expr)
  | call (fn : String) (args : List Expr) (distinct : Bool)
  | isNull (e : Expr)
  | paren (e : Expr)
  | window (fn : Expr) (partition : List Expr) (order : List Expr) (frame : Option Frame)
  /-- A fragment written verbatim. -/
  | raw (sql : String)
  deriving Inhabited

/-- The text of a literal: integers in decimal, doubles in their shortest form (NULL when not
finite), strings quoted for the dialect. -/
def Literal.render (d : Dialect) : Literal → String
  | .int i => toString i
  | .float x => if x.isFinite then FloatLayout.literal.render x else "NULL"
  | .str s => d.quoteString s

/-- The text of a frame bound. -/
def FrameBound.render : FrameBound → String
  | .unboundedPreceding => "UNBOUNDED PRECEDING"
  | .preceding n => toString (Dialect.signedBits n) ++ " PRECEDING"
  | .intervalPreceding i => i ++ " PRECEDING"
  | .currentRow => "CURRENT ROW"

/-- The text of a frame. -/
def Frame.render (f : Frame) : String :=
  (match f.kind with | .rows => "ROWS" | .range => "RANGE") ++ " BETWEEN " ++
    f.start.render ++ " AND " ++ f.stop.render

mutual
/-- The text of an expression in a dialect. -/
def Expr.render (d : Dialect) : Expr → String
  | .column t c => (match t with | some t => d.quoteIdent t ++ "." | none => "") ++ d.quoteIdent c
  | .lit l => l.render d
  | .binary l op r => l.render d ++ " " ++ op.text ++ " " ++ r.render d
  | .call fn args distinct =>
    d.functionName fn ++ "(" ++ (if distinct then "DISTINCT " else "") ++
      String.intercalate ", " (Expr.renderAll d args) ++ ")"
  | .isNull e => e.render d ++ " IS NULL"
  | .paren e => "(" ++ e.render d ++ ")"
  | .window fn part order frame =>
    let clauses : List String :=
      (if part.isEmpty then [] else ["PARTITION BY " ++ String.intercalate ", " (Expr.renderAll d part)]) ++
      (if order.isEmpty then [] else ["ORDER BY " ++ String.intercalate ", " (Expr.renderAll d order)]) ++
      (match frame with | some f => [f.render] | none => [])
    fn.render d ++ " OVER (" ++ String.intercalate " " clauses ++ ")"
  | .raw s => s

/-- The texts of a list of expressions, in order. -/
def Expr.renderAll (d : Dialect) : List Expr → List String
  | [] => []
  | e :: es => e.render d :: Expr.renderAll d es
end

/-- Rendering a list renders each expression. -/
theorem Expr.renderAll_eq_map (d : Dialect) (es : List Expr) :
    Expr.renderAll d es = es.map (Expr.render d) := by
  induction es with
  | nil => rfl
  | cons e es ih => simp only [Expr.renderAll, List.map_cons, ih]

/-! ## Builders -/

/-- An unqualified column. -/
def col (name : String) : Expr := .column none name

/-- A column of a relation. -/
def tableCol (table name : String) : Expr := .column (some table) name

/-- An integer literal. -/
def litInt (i : Int) : Expr := .lit (.int i)

/-- A function call. -/
def fn (name : String) (args : List Expr) : Expr := .call name args false

/-- `NULLIF(e, v)`. -/
def nullif (e v : Expr) : Expr := fn "NULLIF" [e, v]

/-- `COALESCE(args)`. -/
def coalesce (args : List Expr) : Expr := fn "COALESCE" args

/-- `l AND r`. -/
def Expr.and (l r : Expr) : Expr := .binary l .and r

/-- `l / r`. -/
def Expr.div (l r : Expr) : Expr := .binary l .div r

/-- `l - r`. -/
def Expr.sub (l r : Expr) : Expr := .binary l .minus r

/-- `l * r`. -/
def Expr.mul (l r : Expr) : Expr := .binary l .mul r

/-- `l = r`. -/
def Expr.eq (l r : Expr) : Expr := .binary l .eq r

end MetricLayer.Sql
