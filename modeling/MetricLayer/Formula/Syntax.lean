import MetricLayer.Decimal.Layout
/-!
# Formula syntax

Formulas are arithmetic over result columns:

```text
expr    := term (('+' | '-') term)*
term    := unary (('*' | '/' | '//' | '%') unary)*
unary   := ('+' | '-') unary | power
power   := primary ('**' unary)?
primary := number | '${' column '}' | '(' expr ')'
```

This module holds the numbers formulas compute with (`Number`), the tokens, and the trees.
-/

namespace MetricLayer.Formula

open MetricLayer.Decimal

/-- A number during evaluation: a 64-bit integer or a double. -/
inductive Number where
  | int (i : Int)
  | float (x : Float)
  deriving Inhabited

namespace Number

/-- The number as a double; integers round to the nearest double. -/
def toFloat : Number → Float
  | int i => ofInt i
  | float x => x

/-- Whether the number is zero (either zero of the doubles included). -/
def isZero : Number → Bool
  | int i => i == 0
  | float x => x == 0.0

/-- Decimal digits for integers, the shortest round-trip text for doubles. -/
def render : Number → String
  | int i => toString i
  | float x => FloatLayout.literal.render x

end Number

/-- A formula token. -/
inductive Token where
  | number (n : Number)
  /-- `${name}`, the name trimmed. -/
  | column (name : String)
  | plus
  | minus
  | star
  | slash
  /-- `//` -/
  | floorSlash
  | percent
  /-- `**` -/
  | power
  | lparen
  | rparen
  deriving Inhabited

/-- A token and the byte offset where it starts. -/
structure Lexeme where
  token : Token
  start : Nat
  deriving Inhabited

/-- Binary operators. -/
inductive BinOp where
  | add
  | sub
  | mul
  /-- `/`, always a double. -/
  | div
  /-- `//`, rounding toward negative infinity. -/
  | floorDiv
  /-- `%`, with the sign of the divisor. -/
  | mod
  | pow
  deriving Inhabited, BEq, DecidableEq, Repr

/-- A formula tree. -/
inductive Expr where
  | number (n : Number)
  | column (name : String)
  | neg (e : Expr)
  | binary (op : BinOp) (l r : Expr)
  deriving Inhabited

namespace Expr

/-- Columns the tree reads, appended to `acc` in order of first appearance. -/
def collectColumns : Expr → List String → List String
  | number _, acc => acc
  | column name, acc => if acc.contains name then acc else acc ++ [name]
  | neg e, acc => e.collectColumns acc
  | binary _ l r, acc => r.collectColumns (l.collectColumns acc)

/-- Columns the formula reads, each once, in order of first appearance. -/
def columns (e : Expr) : List String := e.collectColumns []

end Expr

end MetricLayer.Formula
