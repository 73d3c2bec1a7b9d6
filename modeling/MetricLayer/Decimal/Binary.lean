/-!
# Binary64 values as exact integers

A finite double is `±m · 2^e` with a 53-bit integer `m`. This module reads a `Float` into that
form (`Parts`), builds the double nearest to an exact ratio of naturals (`roundRatio`, ties to the
even significand), and derives from it the operations whose results must be exact: conversion
of an integer, and the truncated remainder `fmod`.
-/

namespace MetricLayer.Decimal

/-- What a binary64 bit pattern denotes. -/
inductive Parts where
  | nan
  | infinite (neg : Bool)
  /-- `(-1)^neg · mant · 2^exp`; zero has `mant = 0`. -/
  | finite (neg : Bool) (mant : Nat) (exp : Int)
  deriving Repr, BEq, DecidableEq

/-- Reads sign, significand and exponent off the bits of `x`. -/
def parts (x : Float) : Parts :=
  let bits := x.toBits.toNat
  let neg := bits / Nat.pow 2 63 % 2 == 1
  let biased := bits / Nat.pow 2 52 % Nat.pow 2 11
  let frac := bits % Nat.pow 2 52
  if biased == 2047 then
    if frac == 0 then .infinite neg else .nan
  else if biased == 0 then .finite neg frac (-1074)
  else .finite neg (frac + Nat.pow 2 52) (Int.ofNat biased - 1075)

/-- Whether a bit pattern denotes a finite double: a zero, subnormal or normal number. -/
def Parts.isFinite : Parts → Bool
  | .finite _ _ _ => true
  | _ => false

/-- The double with the given sign and raw exponent and fraction fields. -/
def ofFields (neg : Bool) (biased frac : Nat) : Float :=
  Float.ofBits (UInt64.ofNat ((if neg then Nat.pow 2 63 else 0) + biased * Nat.pow 2 52 + frac))

/-- Infinity with a sign. -/
def infinity (neg : Bool) : Float := ofFields neg 2047 0

/-- `⌊log₂ (n / d)⌋` for positive `n` and `d`. -/
def floorLog2Ratio (n d : Nat) : Int :=
  let t : Int := Int.ofNat (Nat.log2 n) - Int.ofNat (Nat.log2 d)
  let holds : Bool :=
    if 0 ≤ t then d * Nat.pow 2 t.toNat ≤ n else d ≤ n * Nat.pow 2 (-t).toNat
  if holds then t else t - 1

/-- The double nearest to `±n / d` (`d > 0`): round to nearest, a tie to the even
significand; past the largest finite double it is infinite, below half the least subnormal it
is zero. -/
def roundRatio (neg : Bool) (n d : Nat) : Float :=
  if n == 0 || d == 0 then ofFields neg 0 0 else
  -- choose the exponent q so that the significand lands in [2^52, 2^53), or q = -1074
  let q : Int := max (floorLog2Ratio n d - 52) (-1074)
  let num := if q < 0 then n * Nat.pow 2 (-q).toNat else n
  let den := if q < 0 then d else d * Nat.pow 2 q.toNat
  let s := num / den
  let r := num % den
  let up := 2 * r > den || (2 * r == den && s % 2 == 1)
  let s := if up then s + 1 else s
  let (s, q) := if s == Nat.pow 2 53 then (Nat.pow 2 52, q + 1) else (s, q)
  if q > 971 then infinity neg
  else if s < Nat.pow 2 52 then ofFields neg 0 s
  else ofFields neg (q + 1075).toNat (s - Nat.pow 2 52)

/-- The double nearest to `±m · 2^e`. -/
def ofBinary (neg : Bool) (m : Nat) (e : Int) : Float :=
  if 0 ≤ e then roundRatio neg (m * Nat.pow 2 e.toNat) 1 else roundRatio neg m (Nat.pow 2 (-e).toNat)

/-- The double nearest to an integer. -/
def ofInt (i : Int) : Float :=
  roundRatio (i < 0) i.natAbs 1

/-- The integer part of a finite double, rounded toward zero; none for NaN and infinities. -/
def truncate? (x : Float) : Option Int :=
  match parts x with
  | .finite neg m e =>
    let mag : Nat := if 0 ≤ e then m * Nat.pow 2 e.toNat else m / Nat.pow 2 (-e).toNat
    some (if neg then -(mag : Int) else mag)
  | _ => none

/-- The remainder of `a / b` truncated toward zero, with the sign of `a`; exact, as the
remainder of two doubles always is. NaN when `a` is infinite or `b` is zero; `a` itself when
`b` is infinite. -/
def fmod (a b : Float) : Float :=
  match parts a, parts b with
  | .finite na ma ea, .finite _ mb eb =>
    if mb == 0 then ofFields false 2047 1
    else
      let e0 := min ea eb
      let aa := ma * Nat.pow 2 (ea - e0).toNat
      let bb := mb * Nat.pow 2 (eb - e0).toNat
      ofBinary na (aa % bb) e0
  | .finite _ _ _, .infinite _ => a
  | _, _ => ofFields false 2047 1

end MetricLayer.Decimal
