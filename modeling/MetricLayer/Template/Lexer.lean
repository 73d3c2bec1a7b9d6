import MetricLayer.Text.Blank
import MetricLayer.Decimal.Read
/-!
# Template tokens

A template is text with three kinds of tags: `{{ … }}` prints an expression, `{% … %}` holds
a statement and `{# … #}` is a comment. `lex` turns the source into a flat token list: text
runs, tag openers and closers, and the tokens inside tags.

Tag markers control the whitespace beside them: a `-` just inside a marker (`{{-`, `-%}`)
removes the whitespace of the neighbouring text, a `+` keeps it. Inside a tag only ASCII blanks
separate tokens (space, tab, line feed, carriage return and form feed); any other character
that is not part of a token is an error. A closing marker counts only outside brackets, so
`{{ {'a': 1}}}` closes after the map.

A `{% raw %}` tag makes everything up to the next `{% endraw %}` plain text.

Numbers are decimal integers, `0b`, `0o` and `0x` integers (below `2^128`), or decimals with a
fraction, an exponent or both (`1.`, `2.e3`, `1.5e-3`); `_` may appear among digits. Strings
are in single or double quotes with backslash escapes; an unknown escape keeps its backslash.
-/

namespace MetricLayer.Template

open MetricLayer.Text MetricLayer.Decimal

/-- A token of a template. -/
inductive Token where
  /-- Text outside tags. -/
  | text (s : String)
  | varStart
  | varEnd
  | blockStart
  | blockEnd
  | ident (s : String)
  | str (s : String)
  /-- An integer literal. -/
  | int (n : Nat)
  | float (x : Float)
  /-- An operator or bracket. -/
  | op (s : String)
  deriving Inhabited

namespace Token

/-- Whether the token is the operator `s`. -/
def isOp (t : Token) (s : String) : Bool :=
  match t with
  | .op x => x == s
  | _ => false

/-- Whether the token is the name `s`. -/
def isIdent (t : Token) (s : String) : Bool :=
  match t with
  | .ident x => x == s
  | _ => false

end Token

/-- What a marker asks of the whitespace beside it. -/
inductive Trim where
  /-- No marker character. -/
  | keep
  /-- `-`: remove the whitespace. -/
  | strip
  /-- `+`: keep the whitespace. -/
  | preserve
  deriving BEq, Inhabited

/-- Blanks between tokens inside a tag. -/
def isTagBlank (c : Char) : Bool :=
  c == ' ' || c == '\t' || c == '\n' || c == '\r' || c.toNat == 12

/-- Text without its trailing whitespace. -/
def trimEndBlank (cs : List Char) : List Char := (cs.reverse.dropWhile isBlank).reverse

/-- The whitespace-control character after a marker, and the text after it. -/
def markerTrim (cs : List Char) : Trim × List Char :=
  match cs with
  | '-' :: r => (.strip, r)
  | '+' :: r => (.preserve, r)
  | _ => (.keep, cs)

/-- The text before the first tag opener, and the opener's kind (`{`, `%` or `#`) with the text
after it. -/
def breakAtMarker : List Char → List Char × Option (Char × List Char)
  | [] => ([], none)
  | [c] => ([c], none)
  | c :: d :: cs =>
    if c == '{' && (d == '{' || d == '%' || d == '#') then ([], some (d, cs))
    else
      let (a, b) := breakAtMarker (d :: cs)
      (c :: a, b)

/-- The text before the first occurrence of `pat` and the text after it. -/
def breakAt (pat : List Char) : List Char → Option (List Char × List Char)
  | [] => none
  | c :: cs =>
    if pat.isPrefixOf (c :: cs) then some ([], (c :: cs).drop pat.length)
    else (breakAt pat cs).map fun (a, b) => (c :: a, b)

/-- A whole tag `name %}` after its opener: optional whitespace control (when `control`),
blanks, the name, blanks, an optional `-` or `+`, and `%}`. The closing control and the text
after the tag. -/
def basicTag (name : List Char) (control : Bool) (cs : List Char) : Option (Trim × List Char) :=
  let cs := if control then (markerTrim cs).2 else cs
  let cs := cs.dropWhile isTagBlank
  if name.isPrefixOf cs then
    let (trim, cs) := markerTrim ((cs.drop name.length).dropWhile isTagBlank)
    match cs with
    | '%' :: '}' :: rest => some (trim, rest)
    | _ => none
  else none

/-- The body of a raw block up to its `{% endraw %}` tag: the body, whether the end tag strips
the whitespace before it, the end tag's closing control, and the text after it. -/
def rawBody : List Char → Option (List Char × Bool × Trim × List Char)
  | [] => none
  | c :: cs =>
    let found : Option (Bool × Trim × List Char) :=
      match c, cs with
      | '{', '%' :: r => (basicTag "endraw".toList true r).map fun (t, rest) =>
          (r.head? == some '-', t, rest)
      | _, _ => none
    match found with
    | some (before, t, rest) => some ([], before, t, rest)
    | none => (rawBody cs).map fun (body, before, t, rest) => (c :: body, before, t, rest)

/-! ## Literals -/

/-- The value of a hexadecimal digit. -/
def hexDigit? (c : Char) : Option Nat :=
  if c.isDigit then some (c.toNat - '0'.toNat)
  else if 'a' ≤ c && c ≤ 'f' then some (c.toNat - 'a'.toNat + 10)
  else if 'A' ≤ c && c ≤ 'F' then some (c.toNat - 'A'.toNat + 10)
  else none

/-- The value of hexadecimal text with an optional leading `+`, if every character is a digit
and there is at least one. -/
def hexValue? (cs : List Char) : Option Nat :=
  let ds := match cs with
    | '+' :: r => r
    | r => r
  if ds.isEmpty then none
  else (ds.mapM hexDigit?).map fun vs => vs.foldl (fun acc d => acc * 16 + d) 0

/-- A code point of `n` hexadecimal characters at the start of `cs`, and the rest. -/
def hexEscape (n : Nat) (cs : List Char) : Except String (Nat × List Char) :=
  if cs.length < n then .error "bad escape"
  else match hexValue? (cs.take n) with
    | some v => .ok (v, cs.drop n)
    | none => .error "bad escape"

/-- Whether a code point is a UTF-16 surrogate. -/
def isSurrogate (v : Nat) : Bool := 0xD800 ≤ v && v < 0xE000

def isOctal (c : Char) : Bool := '0' ≤ c && c ≤ '7'

/-- The body of a string literal with its escapes decoded: `\"`, `\'`, `\\`, `\/`, `\b`, `\f`,
`\n`, `\r`, `\t`, `\xHH`, `\uHHHH` (a surrogate pair written as two `\u` escapes) and one to three
octal digits (a byte value, so at most `\377`). Any other
escape stays as written. Each step reads at least one character, so fuel of the length of the
text suffices. -/
def unescapeFrom : Nat → List Char → Except String (List Char)
  | 0, _ => .error "bad escape"
  | _ + 1, [] => .ok []
  | _ + 1, ['\\'] => .error "bad escape"
  | fuel + 1, '\\' :: d :: rest =>
    let simple : Option Char :=
      if d == '"' || d == '\\' || d == '/' || d == '\'' then some d
      else if d == 'b' then some (Char.ofNat 8) else if d == 'f' then some (Char.ofNat 12)
      else if d == 'n' then some '\n' else if d == 'r' then some '\r'
      else if d == 't' then some '\t' else none
    match simple with
    | some c => (c :: ·) <$> unescapeFrom fuel rest
    | none =>
      if d == 'x' then do
        let (v, more) ← hexEscape 2 rest
        return Char.ofNat v :: (← unescapeFrom fuel more)
      else if d == 'u' then do
        let (v, more) ← hexEscape 4 rest
        if isSurrogate v then
          match more with
          | '\\' :: 'u' :: more2 => do
            let (w, more3) ← hexEscape 4 more2
            if v < 0xDC00 && 0xDC00 ≤ w && w < 0xE000 then
              return Char.ofNat (0x10000 + (v - 0xD800) * 0x400 + (w - 0xDC00)) ::
                (← unescapeFrom fuel more3)
            else throw "bad escape"
          | _ => throw "bad escape"
        else if v < 0x110000 then return Char.ofNat v :: (← unescapeFrom fuel more)
        else throw "bad escape"
      else if isOctal d then do
        let ds := d :: (rest.take 2).takeWhile isOctal
        let v := ds.foldl (fun acc c => acc * 8 + (c.toNat - 48)) 0
        if v < 256 then return Char.ofNat v :: (← unescapeFrom fuel (rest.drop (ds.length - 1)))
        else throw "bad escape"
      else ('\\' :: d :: ·) <$> unescapeFrom fuel rest
  | fuel + 1, c :: rest => (c :: ·) <$> unescapeFrom fuel rest

/-- The body of a string literal with its escapes decoded (see `unescapeFrom`). -/
def unescape (cs : List Char) : Except String (List Char) := unescapeFrom (cs.length + 1) cs

/-- The raw body of a string literal after its opening quote `q`, up to the closing quote (a
backslash protects the character after it), and the text after the closing quote. -/
def quotedBody (q : Char) : List Char → Option (List Char × List Char)
  | [] => none
  | '\\' :: d :: rest => (quotedBody q rest).map fun (body, after) => ('\\' :: d :: body, after)
  | ['\\'] => none
  | c :: rest =>
    if c == q then some ([], rest)
    else (quotedBody q rest).map fun (body, after) => (c :: body, after)

/-- A string literal after its opening quote `q`. -/
def lexString (q : Char) (cs : List Char) : Except String (Token × List Char) :=
  match quotedBody q cs with
  | none => .error "unexpected end of string"
  | some (body, after) => do
    let text ← if body.contains '\\' then unescape body else pure body
    return (.str (String.ofList text), after)

/-- The stages of a decimal literal. -/
inductive NumStage where
  | whole
  | fraction
  /-- After `e`, and any `_` after it. -/
  | expStart
  /-- After the sign or first digit of an exponent. -/
  | exponent
  deriving BEq

/-- The stage after one more character of a decimal literal, if the literal goes on. A `_` may
stand anywhere and keeps the stage. -/
def NumStage.next : NumStage → Char → Option NumStage
  | .whole, c =>
    if c.isDigit || c == '_' then some .whole else if c == '.' then some .fraction
    else if c == 'e' || c == 'E' then some .expStart else none
  | .fraction, c =>
    if c.isDigit || c == '_' then some .fraction
    else if c == 'e' || c == 'E' then some .expStart else none
  | .expStart, c =>
    if c == '+' || c == '-' || c.isDigit then some .exponent
    else if c == '_' then some .expStart else none
  | .exponent, c => if c.isDigit || c == '_' then some .exponent else none

/-- Whether an exponent starts here, right after its `e`: a digit or a sign (an underscore
there leaves the `e` to a name). -/
def exponentFollows : List Char → Bool
  | c :: _ => c.isDigit || c == '+' || c == '-'
  | [] => false

/-- Whether a `.` after the digits of an integer starts its fraction: it does before a digit,
before an `e` that starts an exponent, and before a character that cannot start a name; before
a name it is an attribute access on the integer. -/
def dotStartsFraction : List Char → Bool
  | [] => true
  | c :: rest =>
    if c.isDigit then true
    else if c == 'e' || c == 'E' then exponentFollows rest
    else not ((c.toNat < 128 && c.isAlpha) || c == '_')

/-- The longest decimal literal at the start of `cs`: its text, its final stage and the rest. -/
def decimalSpan (stage : NumStage) : List Char → List Char × NumStage × List Char
  | [] => ([], stage, [])
  | c :: cs =>
    let go := if stage == .whole && c == '.' then dotStartsFraction cs else true
    match stage.next c, go with
    | some s, true =>
      let (t, final, rest) := decimalSpan s cs
      (c :: t, final, rest)
    | _, _ => ([], stage, c :: cs)

/-- The value of digits in a base, if each is a digit of that base and there is one. -/
def radixValue? (base : Nat) (ds : List Char) : Option Nat :=
  if ds.isEmpty then none
  else (ds.mapM fun c => (hexDigit? c).bind fun d => if d < base then some d else none).map
    fun vs => vs.foldl (fun acc d => acc * base + d) 0

/-- An integer literal token, if it is below `2^128`. -/
def intToken (n : Option Nat) : Except String Token :=
  match n with
  | some v => if v < Nat.pow 2 128 then .ok (.int v) else .error "invalid integer"
  | none => .error "invalid integer"

/-- A number literal at the start of `cs` (which starts with a digit). Underscores between
digits are dropped; one at the end of the literal is an error. -/
def lexNumber (cs : List Char) : Except String (Token × List Char) :=
  let radix : Option (Nat × List Char) := match cs with
    | '0' :: c :: r =>
      if c == 'b' || c == 'B' then some (2, r) else if c == 'o' || c == 'O' then some (8, r)
      else if c == 'x' || c == 'X' then some (16, r) else none
    | _ => none
  match radix with
  | some (base, body) =>
    let ds := body.takeWhile fun c => c.isDigit || c == '_' || (base == 16 && (hexDigit? c).isSome)
    if ds.getLast? == some '_' then .error "'_' may not occur at end of number"
    else (fun t => (t, body.drop ds.length)) <$> intToken (radixValue? base (ds.filter (· != '_')))
  | none =>
    let (text, stage, rest) := decimalSpan .whole cs
    let digits := text.filter (· != '_')
    if text.getLast? == some '_' then .error "'_' may not occur at end of number"
    else if stage == .whole then (fun t => (t, rest)) <$> intToken (radixValue? 10 digits)
    else match readF64? (String.ofList digits) with
      | some x => .ok (.float x, rest)
      | none => .error "invalid float"

/-! ## Lexing -/

/-- ASCII letters, digits and `_` make up names; a name does not start with a digit. -/
def isNameStart (c : Char) : Bool := (c.toNat < 128 && c.isAlpha) || c == '_'

/-- A character that may continue a name. -/
def isNameChar (c : Char) : Bool := (c.toNat < 128 && c.isAlphanum) || c == '_'

/-- Operators of two characters. -/
def twoCharOps : List String := ["//", "**", "==", "!=", ">=", "<="]

/-- Operators and brackets of one character. -/
def oneCharOps : List Char :=
  ['+', '-', '*', '/', '%', '.', ',', ':', '~', '|', '=', '>', '<', '(', ')', '[', ']', '\x7b',
    '\x7d']

/-- How a bracket changes the bracket depth. -/
def bracketDelta (c : Char) : Int :=
  if c == '(' || c == '[' || c == '\x7b' then 1
  else if c == ')' || c == ']' || c == '\x7d' then -1 else 0

/-- Where the lexer is. -/
inductive Mode where
  /-- In text; `trim` drops the whitespace at its start first. -/
  | text (trim : Bool)
  /-- Inside a tag (`block` for `{% %}`) at a bracket depth. -/
  | tag (block : Bool) (depth : Int)

/-- The tokens of `cs` in mode `m`, pushed onto `acc` in reverse. -/
def lexFrom : Nat → Mode → List Char → List Token → Except String (List Token)
  | 0, _, _, _ => .error "template too long"
  | fuel + 1, .text trim, cs, acc =>
    let cs := if trim then cs.dropWhile isBlank else cs
    let (lead, marker) := breakAtMarker cs
    let emitText (t : List Char) (acc : List Token) : List Token :=
      if t.isEmpty then acc else .text (String.ofList t) :: acc
    match marker with
    | none => .ok (emitText lead acc)
    | some (kind, after) =>
      let (ws, after) := markerTrim after
      let acc := emitText (if ws == .strip then trimEndBlank lead else lead) acc
      if kind == '#' then
        match breakAt "#\x7d".toList after with
        | none => .error "unexpected end of comment"
        | some (body, rest) =>
          -- the closer is sought after the opener's own marker, which never counts twice
          let strip := body.getLast? == some '-'
          lexFrom fuel (.text strip) rest acc
      else if kind == '{' then lexFrom fuel (.tag false 0) after (.varStart :: acc)
      else match basicTag "raw".toList false after with
        | some (startTrim, body) =>
          let body := if startTrim == .strip then body.dropWhile isBlank else body
          match rawBody body with
          | none => .error "unexpected end of raw block"
          | some (content, before, endTrim, rest) =>
            let content := if before then trimEndBlank content else content
            lexFrom fuel (.text (endTrim == .strip)) rest (.text (String.ofList content) :: acc)
        | none => lexFrom fuel (.tag true 0) after (.blockStart :: acc)
  | fuel + 1, .tag block depth, cs, acc =>
    let cs := cs.dropWhile isTagBlank
    let close := if block then ['%', '\x7d'] else ['\x7d', '\x7d']
    let closer := if block then Token.blockEnd else Token.varEnd
    if depth == 0 && ('-' :: close).isPrefixOf cs then
      lexFrom fuel (.text true) (cs.drop 3) (closer :: acc)
    else if depth == 0 && ('+' :: close).isPrefixOf cs then
      lexFrom fuel (.text false) (cs.drop 3) (closer :: acc)
    else if depth == 0 && close.isPrefixOf cs then
      lexFrom fuel (.text false) (cs.drop 2) (closer :: acc)
    else match cs with
      | [] => .error "unexpected end of input"
      | c :: rest =>
        match twoCharOps.find? (fun o => o.toList.isPrefixOf cs) with
        | some o => lexFrom fuel (.tag block depth) (cs.drop 2) (.op o :: acc)
        | none =>
          if oneCharOps.contains c then
            lexFrom fuel (.tag block (depth + bracketDelta c)) rest (.op c.toString :: acc)
          else if c == '"' || c == '\'' then do
            let (t, after) ← lexString c rest
            lexFrom fuel (.tag block depth) after (t :: acc)
          else if c.isDigit then do
            let (t, after) ← lexNumber cs
            lexFrom fuel (.tag block depth) after (t :: acc)
          else if isNameStart c then
            let n := cs.takeWhile isNameChar
            lexFrom fuel (.tag block depth) (cs.drop n.length) (.ident (String.ofList n) :: acc)
          else .error "unexpected character"

/-- The tokens of a template source. -/
def lex (source : String) : Except String (List Token) :=
  let cs := source.toList
  (lexFrom (2 * cs.length + 2) (.text false) cs []).map List.reverse

end MetricLayer.Template
