import MetricLayer.Decimal.Shortest
/-!
# Writing a double as text

The digits of a double are always the shortest that read back (`shortestDigits`); what differs
between the places a number is written is the layout, a `FloatLayout` record:

* `FloatLayout.literal` is how numbers appear in SQL, JSON and result cells: positional when
  the value is at least `1e-5` and below `1e16`, always with a fractional part (`100.0`);
  scientific otherwise, with a lowercase `e`, a sign only when negative and no `.0` after a
  single digit (`1e16`, `1.5e-7`).
* `FloatLayout.jsonNumber` is how a JSON value prints a double: as `literal`, but a
  non-negative exponent carries a plus sign (`1e+20`).
* `FloatLayout.message` is how a number appears inside an error message: always positional,
  and a whole number without a point (`2`, `0.0000001`).
* `FloatLayout.template` is how a template prints a number: positional, and a whole number
  keeps `.0`.
-/

namespace MetricLayer.Decimal

/-- The decisions of one way of writing doubles. Write `0.d₁d₂… × 10^k` for the value. -/
structure FloatLayout where
  /-- Positional notation for `k` above this bound (`none`: no bound). -/
  positionalAbove : Option Int
  /-- Positional notation for `k` up to this bound (`none`: no bound). -/
  positionalUpTo : Option Int
  /-- Whether a positional whole number is written with `.0`. -/
  wholePoint : Bool
  /-- Text of a NaN. -/
  nanText : String
  /-- Text of positive infinity; negative infinity has a minus before it. -/
  infText : String
  /-- Whether a non-negative exponent is written with a plus sign. -/
  plusExponent : Bool

/-- SQL literals, JSON numbers and result cells. -/
def FloatLayout.literal : FloatLayout := ⟨some (-5), some 16, true, "NaN", "inf", false⟩

/-- Doubles inside JSON values. -/
def FloatLayout.jsonNumber : FloatLayout := ⟨some (-5), some 16, true, "NaN", "inf", true⟩

/-- Numbers inside error messages. -/
def FloatLayout.message : FloatLayout := ⟨none, none, false, "NaN", "inf", false⟩

/-- Numbers printed by a template. -/
def FloatLayout.template : FloatLayout := ⟨none, none, true, "NaN", "inf", false⟩

/-- `n` zeros. -/
def zeros (n : Nat) : String := String.ofList (List.replicate n '0')

/-- The decimal digits of a natural number. -/
def digitText (d : Nat) : String := String.ofList (Nat.toDigits 10 d)

/-- Text of `digits · 10^exp` (`digits > 0`, no trailing zero) under a layout. -/
def FloatLayout.body (l : FloatLayout) (digits : Nat) (exp : Int) : String :=
  let ds := digitText digits
  let len := Int.ofNat ds.length
  let k := len + exp
  let positional := l.positionalAbove.all (· < k) && l.positionalUpTo.all (k ≤ ·)
  if positional then
    if 0 ≤ exp then
      ds ++ zeros exp.toNat ++ (if l.wholePoint then ".0" else "")
    else if 0 < k then
      String.ofList (ds.toList.take k.toNat) ++ "." ++ String.ofList (ds.toList.drop k.toNat)
    else "0." ++ zeros (-k).toNat ++ ds
  else
    let mant := match ds.toList with
      | [c] => String.singleton c
      | c :: rest => String.singleton c ++ "." ++ String.ofList rest
      | [] => "0"
    let e := k - 1
    mant ++ "e" ++ (if e < 0 then "-" else if l.plusExponent then "+" else "") ++ digitText e.natAbs

/-- Text of a double under a layout. -/
def FloatLayout.render (l : FloatLayout) (x : Float) : String :=
  match parts x with
  | .nan => l.nanText
  | .infinite neg => (if neg then "-" else "") ++ l.infText
  | .finite neg m _ =>
    let sign := if neg then "-" else ""
    if m == 0 then sign ++ (if l.wholePoint then "0.0" else "0")
    else match shortestDigits x with
      | some (_, d, j) => sign ++ l.body d j
      | none => sign ++ "0"

end MetricLayer.Decimal
