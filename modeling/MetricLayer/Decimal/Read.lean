import MetricLayer.Decimal.Binary
/-!
# Reading numbers from text

The two number grammars the library accepts from text:

* a 64-bit integer: an optional `+` or `-`, then ASCII digits, and a value within
  `[-2^63, 2^63)`;
* a double: an optional sign, then `inf`, `infinity` or `nan` in any letter case, or a
  decimal `digits[.digits]`, `digits.` or `.digits` with an optional exponent
  `e[+|-]digits`. The decimal is rounded to the nearest double (`roundRatio`), so an exponent
  too large gives an infinity and one too small a zero.

Nothing else is accepted: no blanks, no `_`, no hexadecimal.

A JSON number literal is read differently, by `readDouble?`, which is fast and not always
correctly rounded.
-/

namespace MetricLayer.Decimal

/-- The least and the greatest 64-bit signed integers. -/
def i64Min : Int := -(Int.pow 2 63)
def i64Max : Int := Int.pow 2 63 - 1

/-- Whether an integer fits in 64 signed bits. -/
def fitsI64 (i : Int) : Bool := i64Min ≤ i && i ≤ i64Max

/-- The value of a list of ASCII digits. -/
def digitsValue (cs : List Char) : Nat :=
  cs.foldl (fun acc c => acc * 10 + (c.toNat - '0'.toNat)) 0

/-- A 64-bit integer written as an optional sign and ASCII digits. -/
def readI64? (s : String) : Option Int :=
  let (neg, body) := match s.toList with
    | '-' :: rest => (true, rest)
    | '+' :: rest => (false, rest)
    | cs => (false, cs)
  if body.isEmpty || !body.all Char.isDigit then none
  else
    let v : Int := if neg then -(Int.ofNat (digitsValue body)) else Int.ofNat (digitsValue body)
    if fitsI64 v then some v else none

/-- The double nearest to `±m · 10^e`. Exponents far outside the range of doubles go to an
infinity or a zero without building the power. -/
def ofDecimal (neg : Bool) (m : Nat) (e : Int) : Float :=
  if m == 0 then roundRatio neg 0 1
  else
    let size : Int := Int.ofNat (Nat.toDigits 10 m).length + e
    if size > 310 then infinity neg
    else if size < -330 then roundRatio neg 0 1
    else if 0 ≤ e then roundRatio neg (m * Nat.pow 10 e.toNat) 1
    else roundRatio neg m (Nat.pow 10 (-e).toNat)

/-- Splits off the longest prefix of ASCII digits. -/
def spanDigits (cs : List Char) : List Char × List Char :=
  (cs.takeWhile Char.isDigit, cs.dropWhile Char.isDigit)

/-- The exponent part `e[+|-]digits` that must end the text; `some 0` for an empty part. -/
def readExponent? : List Char → Option Int
  | [] => some 0
  | c :: rest =>
    if c == 'e' || c == 'E' then
      let (neg, body) := match rest with
        | '-' :: r => (true, r)
        | '+' :: r => (false, r)
        | r => (false, r)
      if body.isEmpty || !body.all Char.isDigit then none
      else
        let v := Int.ofNat (digitsValue body)
        some (if neg then -v else v)
    else none

/-- A decimal number without sign: `(mantissa digits, power of ten)`. -/
def readUnsignedDecimal? (cs : List Char) : Option (Nat × Int) :=
  let (intPart, rest) := spanDigits cs
  let (fracPart, rest) := match rest with
    | '.' :: r => spanDigits r
    | r => ([], r)
  let hasPoint := match cs.drop intPart.length with
    | '.' :: _ => true
    | _ => false
  if intPart.isEmpty && fracPart.isEmpty then none
  else if !hasPoint && !fracPart.isEmpty then none
  else
    match readExponent? rest with
    | some ex => some (digitsValue (intPart ++ fracPart), ex - Int.ofNat fracPart.length)
    | none => none

/-- Lowercase ASCII letters of a character list. -/
def asciiLower (cs : List Char) : List Char := cs.map Char.toLower

/-- A double written in decimal, or as `inf`, `infinity` or `nan` in any letter case, with an
optional sign. -/
def readF64? (s : String) : Option Float :=
  let (neg, body) := match s.toList with
    | '-' :: rest => (true, rest)
    | '+' :: rest => (false, rest)
    | cs => (false, cs)
  let low := asciiLower body
  if low == "inf".toList || low == "infinity".toList then some (infinity neg)
  else if low == "nan".toList then some (ofFields neg 2047 (Nat.pow 2 51))
  else (readUnsignedDecimal? body).map fun (m, e) => ofDecimal neg m e

/-- `f · 10^e`, the power rounded to a double first; powers beyond `10^308` are applied in
steps. None when the result overflows. -/
def scaleByTen (f : Float) (e : Int) : Nat → Option Float
  | 0 => none
  | fuel + 1 =>
    if e.natAbs ≤ 308 then
      let p := ofDecimal false 1 e.natAbs
      if 0 ≤ e then
        let r := f * p
        if r.isFinite then some r else none
      else some (f / p)
    else if f == 0.0 then some f
    else if 0 ≤ e then none
    else scaleByTen (f / ofDecimal false 1 308) (e + 308) fuel

/-- The double a JSON number literal is read as, the way a fast JSON reader reads it: the
first digits of the significand up to 64 bits, later integer digits only as a power of ten,
later fraction digits dropped; the significand is rounded to a double and scaled by a power of
ten that is itself rounded. This is not always the double nearest to the literal. -/
def readDouble? (t : String) : Option Float :=
  let (neg, cs) := match t.toList with
    | '-' :: r => (true, r)
    | r => (false, r)
  let whole := cs.takeWhile Char.isDigit
  let rest := cs.drop whole.length
  let (frac, rest) := match rest with
    | '.' :: r => (r.takeWhile Char.isDigit, r.dropWhile Char.isDigit)
    | r => ([], r)
  let ex : Int := match rest with
    | e :: r =>
      if e == 'e' || e == 'E' then
        match r with
        | '-' :: ds => -(digitsValue ds : Int)
        | '+' :: ds => digitsValue ds
        | ds => digitsValue ds
      else 0
    | [] => 0
  let step (acc : Nat × Int × Bool) (c : Char) (fractional : Bool) : Nat × Int × Bool :=
    let (sig, e, overflowed) := acc
    let d := c.toNat - '0'.toNat
    if overflowed || sig * 10 + d ≥ Nat.pow 2 64 then (sig, (if fractional then e else e + 1), true)
    else (sig * 10 + d, (if fractional then e - 1 else e), false)
  let (sig, e, _) := whole.foldl (fun a c => step a c false) (0, 0, false)
  let (sig, e, _) := frac.foldl (fun a c => step a c true) (sig, e, false)
  (scaleByTen (ofInt sig) (e + ex) 8).map fun f => if neg then -f else f

end MetricLayer.Decimal
