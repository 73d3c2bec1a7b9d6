import MetricLayer.Template.Ops
import MetricLayer.Decimal.Fixed
/-!
# Printf-style formatting

The `format` filter fills a format string's directives from its arguments. A directive is `%`,
an optional `(key)` naming an entry of the mapping argument, flags (`-` left-aligns, `+` and a
blank give non-negative numbers a sign, `#` puts a base prefix before octal and hexadecimal
digits, `0` pads numbers with zeros after their sign), a minimum width, a `.` and a precision
(a `.` without digits sets none), an ignored length letter (`h`, `l`, `L`), and one conversion:

* `s` a string as it is (a precision cuts it to that many characters), an integer as `d` does,
  a double as `g` does (with `.0` after a result of digits only), any other value printed;
* `d`, `i` an integer in decimal, `o`, `x`, `X` in octal and hexadecimal (a negative one has a
  minus before its magnitude); the precision is ignored;
* `f`, `F`, `e`, `E`, `g`, `G` a number positionally, in scientific form, or in whichever of
  the two suits its exponent, with six digits unless the precision says otherwise; integers
  are written from their exact digits and doubles from their exact binary value, rounded with
  ties to even;
* `c` one character, from its code point or from a string of one character;
* `%` a percent sign, taking no argument.

The width counts bytes, except for `c`, whose one character counts as one. Directives without a
key take the arguments in order; unused ones are ignored. A directive with a key reads it from
the first argument, which must be a map; keyword arguments arrive as one map after the others.
A format that is a safe string escapes every argument that is not, turning it into a string
first. A missing argument or key, a value of the wrong kind, a width or precision taken from an
argument (`*`) and any other conversion are errors.
-/

namespace MetricLayer.Template

open MetricLayer.Decimal

namespace Printf

/-- One parsed directive. -/
structure Directive where
  key : Option String := none
  leftAlign : Bool := false
  plus : Bool := false
  blank : Bool := false
  alternate : Bool := false
  zeroPad : Bool := false
  width : Nat := 0
  precision : Option Nat := none
  conversion : Char := 's'

/-- Leading decimal digits, their value and the rest. -/
def number (cs : List Char) : Option Nat × List Char :=
  let ds := cs.takeWhile Char.isDigit
  if ds.isEmpty then (none, cs)
  else (some (ds.foldl (fun n c => 10 * n + (c.toNat - 48)) 0), cs.drop ds.length)

/-- The flags of a directive, set on `d`. -/
def flags (d : Directive) : List Char → Directive × List Char
  | '-' :: r => flags { d with leftAlign := true } r
  | '+' :: r => flags { d with plus := true } r
  | ' ' :: r => flags { d with blank := true } r
  | '#' :: r => flags { d with alternate := true } r
  | '0' :: r => flags { d with zeroPad := true } r
  | cs => (d, cs)

/-- The conversions a directive may end in. -/
def conversions : List Char :=
  ['s', 'd', 'i', 'o', 'x', 'X', 'e', 'E', 'f', 'F', 'g', 'G', 'c']

/-- A directive after its `%`, and the text after it; none when it is cut short, its key is
not closed, a width or precision is `*`, or its conversion is unknown. -/
def directive (cs : List Char) : Option (Directive × List Char) := do
  let (key, cs) ← match cs with
    | '(' :: r =>
      if r.contains ')' then
        some (some (String.ofList (r.takeWhile (· != ')'))), (r.dropWhile (· != ')')).drop 1)
      else none
    | _ => some (none, cs)
  let (d, cs) := flags { key } cs
  let (width, cs) := number cs
  let (precision, cs) : Option Nat × List Char := match cs with
    | '.' :: r => number r
    | _ => (none, cs)
  let cs := match cs with
    | c :: r => if c == 'h' || c == 'l' || c == 'L' then r else c :: r
    | [] => []
  match cs with
  | c :: rest =>
    if conversions.contains c then
      some ({ d with width := width.getD 0, precision, conversion := c }, rest)
    else none
  | [] => none

/-- The sign written before a number's digits. -/
def Directive.sign (d : Directive) (negative : Bool) : String :=
  if negative then "-" else if d.plus then "+" else if d.blank then " " else ""

/-- `body` after its sign and prefix `lead`, padded to the width, whose units `size` counts:
blanks on the right when left-aligned, zeros between lead and body when `zeros` allows it, else
blanks on the left. -/
def Directive.pad (d : Directive) (size : String → Nat) (lead body : String) (zeros : Bool) :
    String :=
  let gap := d.width - (size lead + size body)
  if gap == 0 then lead ++ body
  else if d.leftAlign then lead ++ body ++ String.ofList (List.replicate gap ' ')
  else if d.zeroPad && zeros then lead ++ String.ofList (List.replicate gap '0') ++ body
  else String.ofList (List.replicate gap ' ') ++ lead ++ body

/-- Padding that counts bytes. -/
def Directive.padBytes (d : Directive) (lead body : String) (zeros : Bool) : String :=
  d.pad String.utf8ByteSize lead body zeros

/-- The digits of `n` in a base, upper-case when asked. -/
def digitsIn (base : Nat) (upper : Bool) (n : Nat) : String :=
  let ds := Nat.toDigits base n
  String.ofList (if upper then ds.map Char.toUpper else ds)

/-- An integer conversion (`d`, `i`, `o`, `x`, `X`, and `s` of an integer). -/
def Directive.integer (d : Directive) (i : Int) : String :=
  let (base, prefixText) : Nat × String := match d.conversion with
    | 'o' => (8, "0o")
    | 'x' => (16, "0x")
    | 'X' => (16, "0X")
    | _ => (10, "")
  let ds := digitsIn base (d.conversion == 'X') i.natAbs
  let lead := d.sign (i < 0) ++ (if d.alternate then prefixText else "")
  d.padBytes lead ds true

/-- Trailing zeros of a fraction removed, and then a trailing point. -/
def dropTrailingZeros (s : String) : String :=
  if s.toList.contains '.' then
    let cs := (s.toList.reverse.dropWhile (· == '0')).reverse
    String.ofList (if cs.getLast? == some '.' then cs.dropLast else cs)
  else s

/-- A decimal exponent as `e` with a sign and at least two digits. -/
def exponentText (upper : Bool) (k : Int) : String :=
  let ds := digitsIn 10 false k.natAbs
  (if upper then "E" else "e") ++ (if k < 0 then "-" else "+") ++
    (if ds.length < 2 then "0" ++ ds else ds)

/-- The digits of a magnitude `m · 2^e` under a floating conversion `conv` (`f`, `e` or `g`,
upper-case for an upper-case exponent mark) with precision `p`. -/
def magnitude (conv : Char) (p : Nat) (m : Nat) (e : Int) : String :=
  let upper := conv.isUpper
  match conv.toLower with
  | 'f' => fixedDigits m e p
  | 'e' =>
    let (ds, k) := scientificDigits m e p
    ds ++ exponentText upper k
  | _ =>
    -- the general form: scientific when the exponent is below -4 or not below the precision
    let p := if p == 0 then 1 else p
    let (ds, k) := scientificDigits m e (p - 1)
    if k < -4 || k ≥ Int.ofNat p then dropTrailingZeros ds ++ exponentText upper k
    else dropTrailingZeros (fixedDigits m e (Int.ofNat (p - 1) - k).toNat)

/-- The sign and digits of a number under a floating conversion `conv`; infinities and NaN are
written as words. -/
def floatingParts (conv : Char) (p : Nat) : Number → Bool × String
  | .int i => (i < 0, magnitude conv p i.natAbs 0)
  | .float x =>
    let upper := conv.isUpper
    match parts x with
    | .nan => (false, if upper then "NAN" else "nan")
    | .infinite neg => (neg, if upper then "INF" else "inf")
    | .finite neg m e => (neg, magnitude conv p m e)

/-- A floating conversion (`f`, `F`, `e`, `E`, `g`, `G`) of a number. -/
def Directive.floating (d : Directive) (n : Number) : String :=
  let (neg, body) := floatingParts d.conversion (d.precision.getD 6) n
  d.padBytes (d.sign neg) body true

/-- `s` of a double: the general form, with `.0` after a result that is only digits. -/
def Directive.general (d : Directive) (x : Float) : String :=
  let (neg, body) := floatingParts 'g' (d.precision.getD 6) (.float x)
  let lead := d.sign neg
  let body := if (lead ++ body).all Char.isDigit then body ++ ".0" else body
  d.padBytes lead body true

/-- The integer a value stands for in an integer conversion: integers, booleans, and doubles
truncated. -/
def integerOf? (v : Value) : Option Int :=
  match v with
  | .int i _ => some i
  | .bool b => some (if b then 1 else 0)
  | .float x => truncate? x
  | _ => none

/-- The text of one directive for its argument; `textOf` prints a value for `s`. -/
def Directive.apply (d : Directive) (textOf : Value → String) (v : Value) : Outcome String :=
  match d.conversion with
  | 's' =>
    match v with
    | .int i _ => .ok (d.integer i)
    | .float x => .ok (d.general x)
    | .str s _ =>
      let s := match d.precision with
        | some p => String.ofList (s.toList.take p)
        | none => s
      .ok (d.padBytes "" s false)
    | _ => .ok (d.padBytes "" (textOf v) false)
  | 'd' | 'i' | 'o' | 'x' | 'X' =>
    match integerOf? v with
    | some i => .ok (d.integer i)
    | none => .error .error
  | 'f' | 'F' | 'e' | 'E' | 'g' | 'G' =>
    match v.numeric? with
    | some n => .ok (d.floating n)
    | none => .error .error
  | 'c' =>
    let one (c : Char) : String := d.pad String.length "" c.toString false
    match v with
    | .str s _ => match s.toList with
      | [c] => .ok (one c)
      | _ => .error .error
    | .int i _ =>
      if 0 ≤ i && i < 0x110000 && !(0xD800 ≤ i && i < 0xE000) then .ok (one (Char.ofNat i.toNat))
      else .error .error
    | _ => .error .error
  | _ => .error .error

/-- The value a directive formats (the entry of its key in the first argument, or the next
argument) and the arguments left after it. -/
def Directive.bindArgs (d : Directive) (h : Heap) (all args : List Value) :
    Outcome (Value × List Value) :=
  match d.key, args with
  | some k, _ =>
    match all.head?.bind (·.entries? h) with
    | some es => match Value.lookup h (Value.ofString k) es with
      | some v => .ok (v, args)
      | none => .error .error
    | none => .error .error
  | none, a :: others => .ok (a, others)
  | none, [] => .error .error

/-- Fills the directives of a format from arguments `args`, consumed in order; `all` are all
the arguments, whose first one keyed directives read. -/
def fill (h : Heap) (textOf : Value → String) (all : List Value) :
    Nat → List Char → List Value → Outcome (List Char)
  | 0, _, _ => .error .error
  | _ + 1, [], _ => .ok []
  | fuel + 1, '%' :: rest, args =>
    match rest with
    | '%' :: more => ('%' :: ·) <$> fill h textOf all fuel more args
    | _ =>
      match directive rest with
      | none => .error .error
      | some (d, more) => do
        let (v, args) ← d.bindArgs h all args
        let piece ← d.apply textOf v
        (piece.toList ++ ·) <$> fill h textOf all fuel more args
  | fuel + 1, c :: rest, args => (c :: ·) <$> fill h textOf all fuel rest args

/-- A format string filled from its arguments; `textOf` prints a value for `s`. -/
def format (h : Heap) (textOf : Value → String) (fmt : String) (args : List Value) :
    Outcome String :=
  String.ofList <$> fill h textOf args (fmt.length + 1) fmt.toList args

end Printf

end MetricLayer.Template
