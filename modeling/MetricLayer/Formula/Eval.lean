import MetricLayer.Formula.Syntax
import MetricLayer.Decimal.Read
import MetricLayer.Decimal.Binary
/-!
# Formula evaluation

Integers stay integers under `+ - * // % **` as long as the result fits in 64 bits (else the
evaluation fails with an overflow); `/` always yields a double. `//` rounds toward negative
infinity and `%` takes the sign of the divisor. An integer raised to a negative power is a
double, except that zero raised to a negative power is a division by zero. Once either side is
a double the operation is on doubles, and a result that is not finite is an overflow.
-/

namespace MetricLayer.Formula

open MetricLayer.Decimal

/-- Why a formula could not be evaluated on a row. -/
inductive EvalError where
  | divisionByZero
  | overflow
  | unknownColumn (name : String)
  | notNumeric (name : String)
  deriving Inhabited, BEq

namespace EvalError

/-- The name of the failure. -/
def kind : EvalError → String
  | divisionByZero => "DivisionByZero"
  | overflow => "Overflow"
  | unknownColumn _ => "UnknownColumn"
  | notNumeric _ => "NotNumeric"

/-- The text of the failure. -/
def message : EvalError → String
  | divisionByZero => "division by zero"
  | overflow => "numeric overflow"
  | unknownColumn n => "column '" ++ n ++ "' is not in the result"
  | notNumeric n => "column '" ++ n ++ "' is not numeric"

end EvalError

/-- An integer result, or an overflow outside 64 bits. -/
def checked (i : Int) : Except EvalError Number :=
  if fitsI64 i then .ok (.int i) else .error .overflow

/-- Integer division rounding toward negative infinity. -/
def floorDivInt (a b : Int) : Int :=
  let q := a.tdiv b
  if a.tmod b != 0 && ((a < 0) != (b < 0)) then q - 1 else q

/-- Integer remainder with the sign of the divisor. -/
def floorModInt (a b : Int) : Int :=
  let r := a.tmod b
  if r != 0 && ((r < 0) != (b < 0)) then r + b else r

/-- Whole powers of 64-bit integers; an overflow when the result does not fit or the exponent
exceeds 32 bits. -/
def powInt (a : Int) (e : Nat) : Except EvalError Number :=
  if e ≥ Nat.pow 2 32 then .error .overflow
  else if a == 0 then .ok (.int (if e == 0 then 1 else 0))
  else if a == 1 then .ok (.int 1)
  else if a == -1 then .ok (.int (if e % 2 == 0 then 1 else -1))
  else if e ≥ 64 then .error .overflow
  else checked (Int.pow a e)

/-- Remainder of doubles with the sign of the divisor. -/
def floorModFloat (a b : Float) : Float :=
  let r := fmod a b
  if r != 0.0 && ((r < 0.0) != (b < 0.0)) then r + b else r

/-- An operator on two integers. -/
def applyInt (op : BinOp) (a b : Int) : Except EvalError Number :=
  match op with
  | .add => checked (a + b)
  | .sub => checked (a - b)
  | .mul => checked (a * b)
  | .div => .ok (.float (ofInt a / ofInt b))
  | .floorDiv => checked (floorDivInt a b)
  | .mod => if a == i64Min && b == -1 then .error .overflow else checked (floorModInt a b)
  | .pow =>
    if 0 ≤ b then powInt a b.toNat
    else if a == 0 then .error .divisionByZero
    else .ok (.float (Float.pow (ofInt a) (ofInt b)))

/-- An operator on two doubles. -/
def applyFloat (op : BinOp) (a b : Float) : Except EvalError Number :=
  match op with
  | .add => .ok (.float (a + b))
  | .sub => .ok (.float (a - b))
  | .mul => .ok (.float (a * b))
  | .div => .ok (.float (a / b))
  | .floorDiv => .ok (.float (Float.floor (a / b)))
  | .mod => .ok (.float (floorModFloat a b))
  | .pow =>
    if a == 0.0 && b < 0.0 then .error .divisionByZero else .ok (.float (Float.pow a b))

/-- An operator on two numbers: division by zero is checked first, and a double result must
be finite. -/
def applyOp (op : BinOp) (l r : Number) : Except EvalError Number := do
  if (op == .div || op == .floorDiv || op == .mod) && r.isZero then throw .divisionByZero
  let result ← match l, r with
    | .int a, .int b => applyInt op a b
    | a, b => applyFloat op a.toFloat b.toFloat
  match result with
  | .float x => if x.isFinite then return result else throw .overflow
  | .int _ => return result

/-- The value of a formula, reading columns through `column`; operands are evaluated left
to right and the first failure wins. -/
def eval (column : String → Except EvalError Number) : Expr → Except EvalError Number
  | .number n => .ok n
  | .column name => column name
  | .neg e => do
    match ← eval column e with
    | .int i => checked (-i)
    | .float x => return .float (-x)
  | .binary op l r => do
    let a ← eval column l
    let b ← eval column r
    applyOp op a b

end MetricLayer.Formula
