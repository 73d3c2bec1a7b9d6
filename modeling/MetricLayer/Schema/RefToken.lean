import MetricLayer.Text.Blank
import MetricLayer.Text.WordChar
import MetricLayer.Text.Utf8
/-!
# References inside metric formulas

A formula such as `${revenue} / orders.order_count` names other metrics. It is read left to
right as a sequence of lexemes; at each character the first lexeme that can start there is
taken, and a character where none starts is skipped:

* a quoted string, `'…'` or `"…"`, with the quote doubled inside;
* a braced reference `${name}` or `${model.name}`, blanks allowed inside the braces;
* a number: decimal digits, an optional fraction, an optional exponent;
* a bare reference: an identifier, optionally followed by `.` and a second identifier.

Identifiers start with an ASCII letter or `_` and go on with word characters. Only the two kinds
of reference are reported (`RefToken`); strings and numbers are skipped, so a name inside quotes
or a digit run such as `1e5` is never taken for a metric. `replaceRefs` replaces chosen references and
keeps every other byte of the formula.
-/

namespace MetricLayer

open MetricLayer.Text

/-- A reference found in a formula: the byte range it covers, the name it refers to, and
whether it was written in braces. -/
structure RefToken where
  start : Nat
  stop : Nat
  name : String
  braced : Bool
  deriving Repr, DecidableEq, Inhabited

namespace RefToken

/-- A character that may start an identifier. -/
def isIdentStart (c : Char) : Bool := c.isAlpha || c == '_'

/-- The characters of a quoted string after its opening quote `q`, closing quote included.
A doubled quote stands for one quote when some later quote can still close the string;
otherwise its first quote closes it. None when no quote closes the string. -/
def quotedLength (q : Char) : List Char → Option Nat
  | [] => none
  | c :: rest =>
    if c == q then
      match rest with
      | c2 :: rest2 =>
        if c2 == q then
          match quotedLength q rest2 with
          | some n => some (n + 2)
          | none => some 1
        else some 1
      | [] => some 1
    else (quotedLength q rest).map (· + 1)

/-- The length of a name after its first character (already known to start an identifier):
the rest of the identifier and, when a `.` and another identifier follow, those too. -/
def nameTail (rest : List Char) : Nat :=
  let first := (rest.takeWhile isWordChar).length
  match rest.drop first with
  | '.' :: d :: more =>
    if isIdentStart d then first + 2 + (more.takeWhile isWordChar).length else first
  | _ => first

/-- After a `$`: the characters of `{ name }`, with the name. -/
def bracedTail (rest : List Char) : Option (Nat × List Char) :=
  match rest with
  | '{' :: inner =>
    let lead := (inner.takeWhile isBlank).length
    match inner.drop lead with
    | c :: more =>
      if isIdentStart c then
        let n := nameTail more
        let after := more.drop n
        let trail := (after.takeWhile isBlank).length
        match after.drop trail with
        | '}' :: _ => some (1 + lead + 1 + n + trail + 1, c :: more.take n)
        | _ => none
      else none
    | [] => none
  | _ => none

/-- The length of a number after its first digit: more digits, then a fraction `.digits` and
an exponent `e[+|-]digits`, each taken only when complete. -/
def numberTail (rest : List Char) : Nat :=
  let whole := (rest.takeWhile isDecimalDigit).length
  let afterWhole := rest.drop whole
  let fraction :=
    match afterWhole with
    | '.' :: more =>
      let k := (more.takeWhile isDecimalDigit).length
      if k == 0 then 0 else k + 1
    | _ => 0
  let afterFraction := afterWhole.drop fraction
  let exponent :=
    match afterFraction with
    | e :: more =>
      if e == 'e' || e == 'E' then
        let sign := match more with
          | s :: _ => if s == '+' || s == '-' then 1 else 0
          | [] => 0
        let k := ((more.drop sign).takeWhile isDecimalDigit).length
        if k == 0 then 0 else 1 + sign + k
      else 0
    | [] => 0
  whole + fraction + exponent

/-- One lexeme starting at `c`: how many of the following characters it takes, and the
reference it is, if it is one. None when no lexeme starts at `c`. -/
def lexeme (start : Nat) (c : Char) (rest : List Char) : Option (Nat × Option RefToken) :=
  let span (n : Nat) : Nat := start + c.utf8Size + byteLength (rest.take n)
  if c == '\'' || c == '"' then
    (quotedLength c rest).map fun n => (n, Option.none)
  else if c == '$' then
    (bracedTail rest).map fun (n, name) =>
      (n, some ⟨start, span n, String.ofList name, true⟩)
  else if isDecimalDigit c then
    some (numberTail rest, Option.none)
  else if isIdentStart c then
    let n := nameTail rest
    some (n, some ⟨start, span n, String.ofList (c :: rest.take n), false⟩)
  else Option.none

/-- The references of a formula from byte offset `pos` on. -/
def scanFrom (pos : Nat) : List Char → List RefToken
  | [] => []
  | c :: rest =>
    match lexeme pos c rest with
    | some (n, found) =>
      let next := scanFrom (pos + c.utf8Size + byteLength (rest.take n)) (rest.drop n)
      match found with
      | some r => r :: next
      | Option.none => next
    | Option.none => scanFrom (pos + c.utf8Size) rest
termination_by cs => cs.length
decreasing_by
  all_goals simp only [List.length_drop, List.length_cons]
  all_goals omega

/-- The references of a formula, in order. -/
def scan (formula : String) : List RefToken := scanFrom 0 formula.toList

/-- The bytes of `s` from `lo` to `hi`. -/
def bytesBetween (s : String) (lo hi : Nat) : String :=
  String.ofList ((s.toList.foldl (fun (acc : List Char × Nat) c =>
    let (kept, offset) := acc
    (if lo ≤ offset && offset < hi then c :: kept else kept, offset + c.utf8Size)) ([], 0)).1.reverse)

/-- The formula with each reference for which `replace` gives a text replaced by that text. -/
def replaceRefs (formula : String) (replace : RefToken → Option String) : String :=
  let size := formula.utf8ByteSize
  let (out, last) := (scan formula).foldl (fun (acc : String × Nat) r =>
    let (out, last) := acc
    match replace r with
    | some text => (out ++ bytesBetween formula last r.start ++ text, r.stop)
    | Option.none => (out, last)) ("", 0)
  out ++ bytesBetween formula last size

/-- The formula with every reference to a compiled name replaced by its SQL in parentheses. -/
def substitute (formula : String) (compiled : List (String × String)) : String :=
  replaceRefs formula fun r => (compiled.lookup r.name).map fun sql => "(" ++ sql ++ ")"

/-- The name a formula consists of, when its trimmed text is exactly one reference. -/
def single? (sql : String) : Option String :=
  let trimmed := trimBlank sql
  match scan trimmed with
  | [only] => if only.start == 0 && only.stop == trimmed.utf8ByteSize then some only.name else Option.none
  | _ => Option.none

end RefToken

end MetricLayer
