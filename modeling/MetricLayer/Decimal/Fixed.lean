import MetricLayer.Decimal.Shortest
/-!
# Decimals with a set number of digits

A double written with a chosen number of digits, rounded from its exact binary value with a tie
going to the even last digit: with `places` digits after the point (`fixedDigits`), or as one
digit, a point, `places` more digits and a decimal exponent (`scientificDigits`).
-/

namespace MetricLayer.Decimal

/-- `n / d` rounded to the nearest natural, a tie to the even one. -/
def roundHalfEven (n d : Nat) : Nat :=
  let q := n / d
  let r := n % d
  if 2 * r > d || (2 * r == d && q % 2 == 1) then q + 1 else q

/-- `m · 2^e` in units of `10^-places`, rounded half to even. -/
def unitsOf (m : Nat) (e : Int) (places : Int) : Nat :=
  let n := m * Nat.pow 2 e.toNat * Nat.pow 10 places.toNat
  let d := Nat.pow 2 (-e).toNat * Nat.pow 10 (-places).toNat
  roundHalfEven n d

/-- `units · 10^-places` as digits with a point before the last `places` of them, and at least
one digit before the point. -/
def pointed (units : Nat) (places : Nat) : String :=
  let ds := Nat.toDigits 10 units
  let ds := List.replicate (places + 1 - ds.length) '0' ++ ds
  let whole := ds.length - places
  if places == 0 then String.ofList ds
  else String.ofList (ds.take whole) ++ "." ++ String.ofList (ds.drop whole)

/-- The magnitude `m · 2^e` with `places` digits after the point. -/
def fixedDigits (m : Nat) (e : Int) (places : Nat) : String :=
  pointed (unitsOf m e places) places

/-- The magnitude `m · 2^e` as one digit, a point and `places` more digits (no point when
`places` is zero), with its decimal exponent; zero has exponent zero. -/
def scientificDigits (m : Nat) (e : Int) (places : Nat) : String × Int :=
  if m == 0 then (pointed 0 places, 0) else
  let k := decimalExponent m e
  let u := unitsOf m e (Int.ofNat places - k)
  -- rounding up may carry into the next power of ten
  if u == Nat.pow 10 (places + 1) then (pointed (Nat.pow 10 places) places, k + 1)
  else (pointed u places, k)

end MetricLayer.Decimal
