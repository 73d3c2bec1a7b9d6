import MetricLayer.Decimal.Read
/-!
# A TOML reader

Reads TOML 1.1 documents into `TomlValue` trees: basic and literal strings (single and
multi-line, with the escapes `\e` and `\xHH`), integers (decimal, hexadecimal, octal, binary,
with `_` separators), floats (with `inf` and `nan`), booleans, dates and times (kept as text;
seconds may be left out), arrays, inline tables (which may span lines and end with a comma),
`[table]` headers, `[[array]]` headers, dotted and quoted keys and comments.

A document that breaks the format is rejected, including one that defines a key twice, defines
a table twice, extends an inline table or a plain value, or names a day its month does not
have. An integer is not checked against a range here: the range belongs to the field that
takes it, and a value no field takes is never checked.
-/

namespace MetricLayer.Toml

open MetricLayer.Decimal

/-- A TOML value. -/
inductive TomlValue where
  | str (s : String)
  | int (i : Int)
  | float (x : Float)
  | bool (b : Bool)
  /-- An offset or local date-time, date or time, as written. -/
  | datetime (text : String)
  | arr (items : List TomlValue)
  | table (entries : List (String × TomlValue))
  deriving Inhabited

/-- How a table came to exist, which decides how it may still be extended. -/
inductive TableKind where
  /-- Created as the parent of a header or dotted key, not yet defined itself. -/
  | implicit
  /-- Defined by a `[table]` header. -/
  | header
  /-- Created by a dotted key. -/
  | dotted
  deriving BEq, Inhabited

/-- A document under construction. -/
inductive Node where
  /-- A value written after `=`: sealed, inline tables included. -/
  | value (v : TomlValue)
  | table (kind : TableKind) (entries : List (String × Node))
  /-- An array of tables, from `[[name]]` headers. -/
  | tables (items : List (List (String × Node)))
  deriving Inhabited

/-- A reading failure. -/
abbrev Read := Except String

/-! ## Characters -/

/-- Characters of bare keys. -/
def isBareKeyChar (c : Char) : Bool := c.isAlphanum || c == '_' || c == '-'

/-- Space or tab. -/
def isSpace (c : Char) : Bool := c == ' ' || c == '\t'

/-- Control characters that may not appear in comments or strings. -/
def isControl (c : Char) : Bool := (c.toNat < 32 && c != '\t') || c.toNat == 127

/-- Leading spaces and tabs dropped. -/
def dropSpaces (cs : List Char) : List Char := cs.dropWhile isSpace

/-- The value of a hexadecimal digit. -/
def hexDigit? (c : Char) : Option Nat :=
  if c.isDigit then some (c.toNat - '0'.toNat)
  else if 'a' ≤ c && c ≤ 'f' then some (c.toNat - 'a'.toNat + 10)
  else if 'A' ≤ c && c ≤ 'F' then some (c.toNat - 'A'.toNat + 10)
  else none

/-- A code point from `n` hexadecimal digits at the start of `cs`, and the rest. -/
def readCodePoint (n : Nat) (cs : List Char) : Read (Char × List Char) :=
  match (cs.take n).mapM hexDigit? with
  | some ds =>
    if ds.length != n then .error "short escape"
    else
      let v := ds.foldl (fun acc d => acc * 16 + d) 0
      if v < 0xD800 || (0xE000 ≤ v && v < 0x110000) then .ok (Char.ofNat v, cs.drop n)
      else .error "invalid code point"
  | none => .error "invalid escape"

/-- Comment text to the end of the line, which must hold no control characters. -/
def skipComment (cs : List Char) : Read (List Char) :=
  match cs with
  | '#' :: rest =>
    let body := rest.takeWhile (fun c => c != '\n' && c != '\r')
    if body.any isControl then .error "control character in comment"
    else .ok (rest.drop body.length)
  | _ => .ok cs

/-- The end of a line: a newline, `\r\n`, or the end of input. -/
def endOfLine (cs : List Char) : Read (List Char) :=
  match cs with
  | [] => .ok []
  | '\n' :: rest => .ok rest
  | '\r' :: '\n' :: rest => .ok rest
  | _ => .error "expected newline"

/-- Spaces, an optional comment and the end of a line. -/
def finishLine (cs : List Char) : Read (List Char) := do
  endOfLine (← skipComment (dropSpaces cs))

/-- Blanks, newlines and comments, as allowed inside arrays. -/
def skipBlankLines : Nat → List Char → Read (List Char)
  | 0, cs => .ok cs
  | fuel + 1, cs =>
    let cs := dropSpaces cs
    match cs with
    | '#' :: _ => do skipBlankLines fuel (← skipComment cs)
    | '\n' :: rest => skipBlankLines fuel rest
    | '\r' :: '\n' :: rest => skipBlankLines fuel rest
    | _ => .ok cs

/-! ## Strings -/

/-- The escape after a backslash in a basic string. -/
def readEscape (cs : List Char) : Read (Char × List Char) :=
  match cs with
  | 'b' :: r => .ok (Char.ofNat 8, r)
  | 't' :: r => .ok ('\t', r)
  | 'n' :: r => .ok ('\n', r)
  | 'f' :: r => .ok (Char.ofNat 12, r)
  | 'r' :: r => .ok ('\r', r)
  | '"' :: r => .ok ('"', r)
  | '\\' :: r => .ok ('\\', r)
  | 'e' :: r => .ok (Char.ofNat 27, r)
  | 'x' :: r => readCodePoint 2 r
  | 'u' :: r => readCodePoint 4 r
  | 'U' :: r => readCodePoint 8 r
  | _ => .error "invalid escape"

/-- The rest of a single-line basic string after its opening quote. -/
def readBasic : Nat → List Char → Read (List Char × List Char)
  | 0, _ => .error "input too long"
  | _ + 1, [] => .error "unterminated string"
  | _ + 1, '"' :: rest => .ok ([], rest)
  | fuel + 1, '\\' :: rest => do
    let (c, rest) ← readEscape rest
    let (body, after) ← readBasic fuel rest
    return (c :: body, after)
  | fuel + 1, c :: rest =>
    if isControl c then .error "control character in string"
    else (readBasic fuel rest).map fun (body, after) => (c :: body, after)

/-- The rest of a single-line literal string after its opening quote. -/
def readLiteral : List Char → Read (List Char × List Char)
  | [] => .error "unterminated string"
  | '\'' :: rest => .ok ([], rest)
  | c :: rest =>
    if isControl c then .error "control character in string"
    else (readLiteral rest).map fun (body, after) => (c :: body, after)

/-- How many quotes `q` start `cs`. -/
def quoteRun (q : Char) (cs : List Char) : Nat := (cs.takeWhile (· == q)).length

/-- A newline right after the opening delimiter of a multi-line string is dropped. -/
def dropFirstNewline (cs : List Char) : List Char :=
  match cs with
  | '\n' :: r => r
  | '\r' :: '\n' :: r => r
  | _ => cs

/-- Blanks and newlines after a line-ending backslash. -/
def dropBlankRun (cs : List Char) : List Char :=
  cs.dropWhile fun c => c == ' ' || c == '\t' || c == '\n' || c == '\r'

/-- The body of a multi-line string after its opening delimiter of quote `q`, with escapes
when `escapes` holds. -/
def readMultiline (q : Char) (escapes : Bool) : Nat → List Char → Read (List Char × List Char)
  | 0, _ => .error "input too long"
  | fuel + 1, cs =>
    match cs with
    | [] => .error "unterminated string"
    | c :: rest =>
      if c == q && quoteRun q cs ≥ 3 then
        let n := quoteRun q cs
        if n > 5 then .error "too many quotes"
        else .ok (List.replicate (n - 3) q, cs.drop n)
      else if c == '\\' && escapes then
        let afterSpaces := rest.dropWhile isSpace
        match afterSpaces with
        | '\n' :: _ | '\r' :: '\n' :: _ => readMultiline q escapes fuel (dropBlankRun afterSpaces)
        | _ => do
          let (e, rest) ← readEscape rest
          let (body, after) ← readMultiline q escapes fuel rest
          return (e :: body, after)
      else if c == '\n' then
        (readMultiline q escapes fuel rest).map fun (body, after) => ('\n' :: body, after)
      else if c == '\r' then
        match rest with
        | '\n' :: r => (readMultiline q escapes fuel r).map fun (body, after) =>
            ('\r' :: '\n' :: body, after)
        | _ => .error "bare carriage return"
      else if isControl c then .error "control character in string"
      else (readMultiline q escapes fuel rest).map fun (body, after) => (c :: body, after)

/-! ## Numbers, dates and times -/

/-- Digits with single underscores only between digits, by the digit test `ok`. -/
def digitGroups (ok : Char → Bool) (cs : List Char) : Bool :=
  !cs.isEmpty && ok cs.head! && ok cs.getLast! &&
    (cs.zip cs.tail).all fun (a, b) => !(a == '_' && b == '_') &&
      (ok a || a == '_') && (ok b || b == '_')

/-- Decimal digits with underscores between them and no leading zero (unless just `0`). -/
def decimalDigits (cs : List Char) : Bool :=
  digitGroups Char.isDigit cs && (cs.head? != some '0' || cs.length == 1)

/-- A sign split off. -/
def splitSign (cs : List Char) : Bool × List Char :=
  match cs with
  | '-' :: r => (true, r)
  | '+' :: r => (false, r)
  | _ => (false, cs)

/-- The value of digits in base `b`, underscores skipped. -/
def baseValue (b : Nat) (cs : List Char) : Nat :=
  (cs.filter (· != '_')).foldl (fun acc c => acc * b + (hexDigit? c).getD 0) 0

/-- An integer literal, of any size. -/
def readInteger? (cs : List Char) : Option Int :=
  let prefixed (b : Nat) (ok : Char → Bool) (ds : List Char) : Option Int :=
    if digitGroups ok ds then some (baseValue b ds) else none
  match cs with
    | '0' :: 'x' :: ds => prefixed 16 (fun c => (hexDigit? c).isSome) ds
    | '0' :: 'o' :: ds => prefixed 8 (fun c => '0' ≤ c && c ≤ '7') ds
    | '0' :: 'b' :: ds => prefixed 2 (fun c => c == '0' || c == '1') ds
    | _ =>
      let (neg, ds) := splitSign cs
      if decimalDigits ds then
        let m : Int := baseValue 10 ds
        some (if neg then -m else m)
      else none

/-- A float literal: integer part, then a fraction, an exponent or both; or `inf`/`nan`. A
decimal literal that rounds to an infinity is not a float. -/
def readFloat? (cs : List Char) : Option Float :=
  let (neg, body) := splitSign cs
  if body == "inf".toList then some (if neg then -(1.0 / 0.0) else 1.0 / 0.0)
  else if body == "nan".toList then some (0.0 / 0.0)
  else
    let whole := body.takeWhile fun c => c.isDigit || c == '_'
    let rest := body.drop whole.length
    let (frac, rest) : Option (List Char) × List Char := match rest with
      | '.' :: r =>
        let f := r.takeWhile fun c => c.isDigit || c == '_'
        (some f, r.drop f.length)
      | _ => (none, rest)
    let (expo, expoDigits, rest) : Option (List Char) × List Char × List Char := match rest with
      | e :: r =>
        if e == 'e' || e == 'E' then
          let (eneg, r) := splitSign r
          (some ((if eneg then ['-'] else []) ++ r), r, [])
        else (none, [], rest)
      | [] => (none, [], [])
    let fracOk := match frac with
      | some f => digitGroups Char.isDigit f
      | none => true
    let expoOk := expo.isNone || digitGroups Char.isDigit expoDigits
    if rest.isEmpty && decimalDigits whole && (frac.isSome || expo.isSome) && fracOk && expoOk
    then
      let text := (if neg then ['-'] else []) ++ whole.filter (· != '_') ++
        (match frac with | some f => '.' :: f.filter (· != '_') | none => []) ++
        (match expo with | some e => 'e' :: e.filter (· != '_') | none => [])
      -- a literal beyond the largest double is refused, on either side
      match readF64? (String.ofList text) with
      | some x => if x == Decimal.infinity neg then none else some x
      | none => none
    else none

/-- Whether `cs` is exactly `n` ASCII digits. -/
def isDigits (n : Nat) (cs : List Char) : Bool := cs.length == n && cs.all Char.isDigit

/-- `HH:MM`, or `HH:MM:SS` with an optional fraction, in range (a leap second allowed). -/
def isTime (cs : List Char) : Bool :=
  match cs with
  | h1 :: h2 :: ':' :: m1 :: m2 :: rest =>
    isDigits 2 [h1, h2] && isDigits 2 [m1, m2] &&
    digitsValue [h1, h2] < 24 && digitsValue [m1, m2] < 60 &&
    (match rest with
      | [] => true
      | ':' :: s1 :: s2 :: frac =>
        isDigits 2 [s1, s2] && digitsValue [s1, s2] ≤ 60 &&
        (match frac with
          | [] => true
          | '.' :: ds => !ds.isEmpty && ds.all Char.isDigit
          | _ => false)
      | _ => false)
  | _ => false

/-- A time with an optional offset (`Z` or `±HH:MM`). -/
def isTimeWithOffset (cs : List Char) : Bool :=
  match cs.getLast? with
  | some 'Z' | some 'z' => isTime cs.dropLast
  | _ =>
    let n := cs.length
    if n ≥ 6 && (cs[n - 6]? == some '+' || cs[n - 6]? == some '-') then
      let off := cs.drop (n - 5)
      (isTime (cs.take (n - 6)) && match off with
        | a :: b :: ':' :: c :: d :: [] =>
          isDigits 2 [a, b] && isDigits 2 [c, d] && digitsValue [a, b] < 24 &&
          digitsValue [c, d] < 60
        | _ => false)
    else isTime cs

/-- Whether a year of the Gregorian calendar has a 29th of February. -/
def isLeapYear (y : Nat) : Bool := y % 4 == 0 && (y % 100 != 0 || y % 400 == 0)

/-- The number of days of a month (`1` to `12`) in a year. -/
def daysInMonth (y m : Nat) : Nat :=
  if m == 2 then (if isLeapYear y then 29 else 28)
  else if m == 4 || m == 6 || m == 9 || m == 11 then 30
  else 31

/-- `YYYY-MM-DD` naming a day of the calendar. -/
def isDate (cs : List Char) : Bool :=
  match cs with
  | y1 :: y2 :: y3 :: y4 :: '-' :: m1 :: m2 :: '-' :: d1 :: d2 :: [] =>
    let m := digitsValue [m1, m2]
    let d := digitsValue [d1, d2]
    isDigits 4 [y1, y2, y3, y4] && isDigits 2 [m1, m2] && isDigits 2 [d1, d2] &&
    1 ≤ m && m ≤ 12 && 1 ≤ d && d ≤ daysInMonth (digitsValue [y1, y2, y3, y4]) m
  | _ => false

/-- A date, a date with a time (after `T`, `t` or a space), or a time. -/
def isDateTime (cs : List Char) : Bool :=
  isDate cs || isTime cs ||
    (isDate (cs.take 10) && match cs.drop 10 with
      | sep :: t => (sep == 'T' || sep == 't' || sep == ' ') && isTimeWithOffset t
      | [] => false)

/-- Characters a number, date or keyword is made of. -/
def isScalarChar (c : Char) : Bool :=
  c.isAlphanum || c == '_' || c == '+' || c == '-' || c == '.' || c == ':'

/-- A bare scalar: boolean, number, date or time. -/
def readScalar (cs : List Char) : Read (TomlValue × List Char) :=
  let tok := cs.takeWhile isScalarChar
  let rest := cs.drop tok.length
  -- a date followed by a space and a time is one value
  let (tok, rest) := match rest with
    | ' ' :: a :: b :: ':' :: _ =>
      if isDate tok && a.isDigit && b.isDigit then
        let t := (rest.drop 1).takeWhile isScalarChar
        (tok ++ ' ' :: t, (rest.drop 1).drop t.length)
      else (tok, rest)
    | _ => (tok, rest)
  if tok == "true".toList then .ok (.bool true, rest)
  else if tok == "false".toList then .ok (.bool false, rest)
  else if isDateTime tok then .ok (.datetime (String.ofList tok), rest)
  else match readInteger? tok with
    | some i => .ok (.int i, rest)
    | none => match readFloat? tok with
      | some x => .ok (.float x, rest)
      | none => .error "invalid value"

/-! ## The document tree -/

/-- Replaces or adds the entry under `k` by what `f` makes of the present one. -/
def updateEntry (k : String) (f : Option Node → Read Node) :
    List (String × Node) → Read (List (String × Node))
  | [] => do return [(k, ← f none)]
  | (k', n) :: rest =>
    if k == k' then do return (k, ← f (some n)) :: rest
    else do return (k', n) :: (← updateEntry k f rest)

/-- Applies `f` to the last table of an array of tables. -/
def updateLast (f : List (String × Node) → Read (List (String × Node))) :
    List (List (String × Node)) → Read (List (List (String × Node)))
  | [] => .error "empty array of tables"
  | [t] => do return [← f t]
  | t :: ts => do return t :: (← updateLast f ts)

/-- Descends through `path` (creating parents as implicit tables) and applies `f` to the
entries found there. -/
def descend (f : List (String × Node) → Read (List (String × Node))) :
    List String → List (String × Node) → Read (List (String × Node))
  | [], es => f es
  | k :: ks, es => updateEntry k (fun
      | none => do return .table .implicit (← descend f ks [])
      | some (.table kind e) => do return .table kind (← descend f ks e)
      | some (.tables items) => do return .tables (← updateLast (descend f ks) items)
      | some (.value _) => .error "key is not a table") es

/-- Defines the table of a `[path]` header. -/
def openTable (path : List String) (root : List (String × Node)) :
    Read (List (String × Node)) :=
  match path.getLast?, path.dropLast with
  | some k, parents => descend (updateEntry k fun
      | none => .ok (.table .header [])
      | some (.table .implicit e) => .ok (.table .header e)
      | _ => .error "table defined twice") parents root
  | none, _ => .error "empty header"

/-- Adds a table to the array of a `[[path]]` header. -/
def openArrayTable (path : List String) (root : List (String × Node)) :
    Read (List (String × Node)) :=
  match path.getLast?, path.dropLast with
  | some k, parents => descend (updateEntry k fun
      | none => .ok (.tables [[]])
      | some (.tables items) => .ok (.tables (items ++ [[]]))
      | _ => .error "not an array of tables") parents root
  | none, _ => .error "empty header"

/-- Sets a dotted key to a value in a table's entries; only tables made by dotted keys may
be extended this way. -/
def setKey (v : TomlValue) : List String → List (String × Node) → Read (List (String × Node))
  | [], _ => .error "empty key"
  | [k], es => updateEntry k (fun
      | none => .ok (.value v)
      | some _ => .error "duplicate key") es
  | k :: ks, es => updateEntry k (fun
      | none => do return .table .dotted (← setKey v ks [])
      | some (.table .dotted e) => do return .table .dotted (← setKey v ks e)
      | some _ => .error "duplicate key") es

mutual
/-- A document node as a value. -/
def Node.toValue : Node → TomlValue
  | .value v => v
  | .table _ es => .table (entriesToValue es)
  | .tables items => .arr (tablesToValue items)

/-- Entries as table entries. -/
def entriesToValue : List (String × Node) → List (String × TomlValue)
  | [] => []
  | (k, n) :: rest => (k, n.toValue) :: entriesToValue rest

/-- An array of tables as values. -/
def tablesToValue : List (List (String × Node)) → List TomlValue
  | [] => []
  | t :: ts => .table (entriesToValue t) :: tablesToValue ts
end

/-! ## Keys and values -/

/-- One part of a key: bare, basic-quoted or literal-quoted. -/
def readKeyPart (fuel : Nat) (cs : List Char) : Read (String × List Char) :=
  match cs with
  | '"' :: rest => do
    let (body, after) ← readBasic fuel rest
    return (String.ofList body, after)
  | '\'' :: rest => do
    let (body, after) ← readLiteral rest
    return (String.ofList body, after)
  | _ =>
    let bare := cs.takeWhile isBareKeyChar
    if bare.isEmpty then .error "expected key" else .ok (String.ofList bare, cs.drop bare.length)

/-- A dotted key. -/
def readKey : Nat → List Char → Read (List String × List Char)
  | 0, _ => .error "input too long"
  | fuel + 1, cs => do
    let (part, rest) ← readKeyPart fuel cs
    match dropSpaces rest with
    | '.' :: more => do
      let (parts, after) ← readKey fuel (dropSpaces more)
      return (part :: parts, after)
    | after => return ([part], after)

mutual
/-- A value after `=`. -/
def readValue : Nat → List Char → Read (TomlValue × List Char)
  | 0, _ => .error "input too long"
  | fuel + 1, cs =>
    match cs with
    | '"' :: '"' :: '"' :: rest => do
      let (body, after) ← readMultiline '"' true fuel (dropFirstNewline rest)
      return (.str (String.ofList body), after)
    | '"' :: rest => do
      let (body, after) ← readBasic fuel rest
      return (.str (String.ofList body), after)
    | '\'' :: '\'' :: '\'' :: rest => do
      let (body, after) ← readMultiline '\'' false fuel (dropFirstNewline rest)
      return (.str (String.ofList body), after)
    | '\'' :: rest => do
      let (body, after) ← readLiteral rest
      return (.str (String.ofList body), after)
    | '[' :: rest => do
      let (items, after) ← readItems fuel rest
      return (.arr items, after)
    | '\x7b' :: rest => do
      let body ← skipBlankLines (rest.length + 1) rest
      match body with
      | '\x7d' :: after => return (.table [], after)
      | _ => do
        let (es, after) ← readInline fuel [] body
        return (.table (entriesToValue es), after)
    | _ => readScalar cs

/-- Array items up to the closing bracket, which is consumed. -/
def readItems : Nat → List Char → Read (List TomlValue × List Char)
  | 0, _ => .error "input too long"
  | fuel + 1, cs => do
    let cs ← skipBlankLines (cs.length + 1) cs
    match cs with
    | ']' :: rest => return ([], rest)
    | _ => do
      let (v, rest) ← readValue fuel cs
      let rest ← skipBlankLines (rest.length + 1) rest
      match rest with
      | ',' :: more => do
        let (vs, after) ← readItems fuel more
        return (v :: vs, after)
      | ']' :: after => return ([v], after)
      | _ => .error "expected , or ]"

/-- Inline table entries up to the closing brace, which is consumed. Blank lines and comments
may come around the entries, and a comma may follow the last one. -/
def readInline : Nat → List (String × Node) → List Char → Read (List (String × Node) × List Char)
  | 0, _, _ => .error "input too long"
  | fuel + 1, es, cs => do
    let cs ← skipBlankLines (cs.length + 1) cs
    let (path, rest) ← readKey fuel cs
    match dropSpaces rest with
    | '=' :: rest => do
      let (v, rest) ← readValue fuel (dropSpaces rest)
      let es ← setKey v path es
      match ← skipBlankLines (rest.length + 1) rest with
      | ',' :: more =>
        match ← skipBlankLines (more.length + 1) more with
        | '\x7d' :: after => return (es, after)
        | _ => readInline fuel es more
      | '\x7d' :: after => return (es, after)
      | _ => .error "expected , or closing brace"
    | _ => .error "expected ="
end

/-! ## Documents -/

/-- Expects `]` (or `]]`) after a header key. -/
def closeHeader (double : Bool) (cs : List Char) : Read (List Char) :=
  match dropSpaces cs, double with
  | ']' :: ']' :: rest, true => .ok rest
  | ']' :: rest, false => .ok rest
  | _, _ => .error "expected ]"

/-- Reads lines into the root table; `current` is the path of the last header. -/
def readLines : Nat → List String → List (String × Node) → List Char →
    Read (List (String × Node))
  | 0, _, _, _ => .error "input too long"
  | fuel + 1, current, root, cs =>
    let cs := dropSpaces cs
    match cs with
    | [] => .ok root
    | '#' :: _ => do readLines fuel current root (← finishLine cs)
    | '\n' :: rest => readLines fuel current root rest
    | '\r' :: '\n' :: rest => readLines fuel current root rest
    | '[' :: '[' :: rest => do
      let (path, rest) ← readKey fuel (dropSpaces rest)
      let rest ← finishLine (← closeHeader true rest)
      readLines fuel path (← openArrayTable path root) rest
    | '[' :: rest => do
      let (path, rest) ← readKey fuel (dropSpaces rest)
      let rest ← finishLine (← closeHeader false rest)
      readLines fuel path (← openTable path root) rest
    | _ => do
      let (path, rest) ← readKey fuel cs
      match dropSpaces rest with
      | '=' :: rest => do
        let (v, rest) ← readValue fuel (dropSpaces rest)
        let root ← descend (setKey v path) current root
        readLines fuel current root (← finishLine rest)
      | _ => .error "expected ="

/-- The top-level table of a TOML document. -/
def parse (text : String) : Read (List (String × TomlValue)) := do
  let cs := text.toList
  let cs := match cs with
    | '\uFEFF' :: r => r
    | _ => cs
  let root ← readLines (2 * cs.length + 2) [] [] cs
  return entriesToValue root

end MetricLayer.Toml
