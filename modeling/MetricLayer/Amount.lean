import MetricLayer.Error
import MetricLayer.Decimal.Read
/-!
# Amounts

Counts of periods, rows and offsets are 64-bit signed integers. They are held as `Int`, and
every operation that could leave the 64-bit range checks it: past the range the result is
`Error.overflow`, never a wrapped value.
-/

namespace MetricLayer.Amount

open MetricLayer.Decimal

/-- An amount, or `overflow` when it does not fit in 64 bits. -/
def check (i : Int) : Except Error Int :=
  if fitsI64 i then .ok i else .error .overflow

/-- Product of two amounts. -/
def mul (a b : Int) : Except Error Int := check (a * b)

/-- Negation of an amount (only the least amount has none). -/
def neg (a : Int) : Except Error Int := check (-a)

/-- Absolute value of an amount (only the least amount has none). -/
def abs (a : Int) : Except Error Int := check a.natAbs

end MetricLayer.Amount
