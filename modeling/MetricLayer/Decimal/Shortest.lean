import MetricLayer.Decimal.Binary
/-!
# Shortest decimal digits

Among the decimals that read back as a given positive double, the ones with the fewest
significant digits, and of those the nearest to the double (an exact tie goes to the even
digit string). `shortestDigits` returns them as `digits · 10^exp` with no trailing zero in
`digits`.

The reals that read back as `v = m · 2^e` form an interval around `v` reaching half way to each
neighbouring double; its ends belong to it when `m` is even. For `n = 1, 2, …` digits the
decimal grid of spacing `10^(E - n + 1)`, with `E` the decimal exponent of `v`, is tried: if a
grid point lies in the interval, so does one of the two grid points next to `v`, so testing
those two settles each `n`.
-/

namespace MetricLayer.Decimal

/-- Compares `a · 10^j` with `b · 2^f` exactly. -/
def cmpScaled (a : Nat) (j : Int) (b : Nat) (f : Int) : Ordering :=
  compare (a * Nat.pow 10 j.toNat * Nat.pow 2 (-f).toNat) (b * Nat.pow 2 f.toNat * Nat.pow 10 (-j).toNat)

/-- `⌊log₁₀ v⌋` for `v = m · 2^e`, `m > 0`. -/
def decimalExponent (m : Nat) (e : Int) : Int :=
  let b : Int := Int.ofNat (Nat.log2 m) + e
  let est := Int.fdiv (b * 78913) 262144
  -- est is ⌊log₁₀ 2^b⌋; v lies in [2^b, 2^(b+1)), so the exponent is est or est + 1
  if cmpScaled 1 (est + 1) m e != .gt then est + 1
  else if cmpScaled 1 est m e == .gt then est - 1
  else est

/-- Removes trailing zeros: `(d, j)` with `d · 10^j` unchanged. -/
def stripZeros (d : Nat) (j : Int) : Nat × Int :=
  if h : d ≠ 0 ∧ d % 10 = 0 then stripZeros (d / 10) (j + 1) else (d, j)
termination_by d
decreasing_by exact Nat.div_lt_self (Nat.pos_of_ne_zero h.1) (by decide)

/-- The candidate of `n` significant digits for `v = m · 2^e`, if one reads back as `v`.
`lowUnits` is the distance to the lower end of the interval in units of `2^(e-2)` (2, or 1 just
above a power of two); the upper end is always 2 units away. -/
def candidate (m : Nat) (e : Int) (lowUnits : Nat) (bigE : Int) (n : Nat) : Option (Nat × Int) :=
  let j := bigE - Int.ofNat n + 1
  let f := e - 2
  let v := 4 * m
  let lo := v - lowUnits
  let hi := v + 2
  let closed := m % 2 == 0
  let inside (c : Nat) : Bool :=
    let aboveLo := match cmpScaled c j lo f with
      | .gt => true
      | .eq => closed
      | .lt => false
    let belowHi := match cmpScaled c j hi f with
      | .lt => true
      | .eq => closed
      | .gt => false
    aboveLo && belowHi
  -- c0 = ⌊v / 10^j⌋
  let num := v * Nat.pow 2 f.toNat * Nat.pow 10 (-j).toNat
  let den := Nat.pow 2 (-f).toNat * Nat.pow 10 j.toNat
  let c0 := num / den
  let c1 := c0 + 1
  match inside c0, inside c1 with
  | true, true =>
    -- distances: v - c0·10^j against c1·10^j - v, compared as 2·v against (c0 + c1)·10^j
    match cmpScaled (c0 + c1) j (2 * v) f with
    | .gt => some (c0, j)
    | .lt => some (c1, j)
    | .eq => some (if c0 % 2 == 0 then c0 else c1, j)
  | true, false => some (c0, j)
  | false, true => some (c1, j)
  | false, false => none

/-- The shortest, nearest decimal `digits · 10^exp` reading back as `m · 2^e` (`m > 0`);
`lowerCloser` marks a double whose lower neighbour is half as far as its upper one. -/
def shortestOf (m : Nat) (e : Int) (lowerCloser : Bool) : Nat × Int :=
  let bigE := decimalExponent m e
  let lowUnits := if lowerCloser then 1 else 2
  match (List.range 17).findSome? (fun i => candidate m e lowUnits bigE (i + 1)) with
  | some (d, j) => stripZeros d j
  | none => (m, 0)

/-- Shortest digits of a finite nonzero double, as `(negative, digits, exponent)`; `none` for
zero, infinities and NaN. -/
def shortestDigits (x : Float) : Option (Bool × Nat × Int) :=
  match parts x with
  | .finite neg m e =>
    if m == 0 then none
    else
      let (d, j) := shortestOf m e (m == Nat.pow 2 52 && e > -1074)
      some (neg, d, j)
  | _ => none

end MetricLayer.Decimal
