import MetricLayer.Json
/-!
# Reading JSON text

A recursive-descent reader for RFC 8259 JSON. Numbers keep the text of their literal; strings
decode every escape, a surrogate pair included (a lone surrogate is refused); the members of an
object are kept sorted by key, a repeated key keeping its last value.

At most `nestingLimit` arrays and objects may be open at once; a text nested deeper is refused.
Repetition is bounded by a fuel argument; every value takes at least one character, so fuel
twice the length of the text is never exhausted.
-/

namespace MetricLayer.Json

/-- The blanks JSON allows between tokens. -/
def isJsonBlank (c : Char) : Bool := c == ' ' || c == '\t' || c == '\n' || c == '\r'

/-- The text after leading blanks. -/
def skipBlank (cs : List Char) : List Char := cs.dropWhile isJsonBlank

/-- The value of a hexadecimal digit. -/
def hexValue (c : Char) : Option Nat :=
  if c.isDigit then some (c.toNat - 48)
  else if 'a' ≤ c && c ≤ 'f' then some (c.toNat - 87)
  else if 'A' ≤ c && c ≤ 'F' then some (c.toNat - 55)
  else none

/-- The value of four hexadecimal digits. -/
def hex4 (a b c d : Char) : Option Nat := do
  pure ((((← hexValue a) * 16 + (← hexValue b)) * 16 + (← hexValue c)) * 16 + (← hexValue d))

/-- The character of a single escape letter. -/
def simpleEscape (c : Char) : Option Char :=
  if c == 'n' then some '\n' else if c == 't' then some '\t' else if c == 'r' then some '\r'
  else if c == 'b' then some (Char.ofNat 8) else if c == 'f' then some (Char.ofNat 12)
  else if c == '/' || c == '\\' || c == '"' then some c else none

/-- The rest of a string literal after its opening quote: its text (reversed onto `acc`) and
what follows the closing quote. -/
def readStringBody : List Char → List Char → Except String (String × List Char)
  | [], _ => .error "unterminated string"
  | '"' :: rest, acc => .ok (String.ofList acc.reverse, rest)
  | '\\' :: 'u' :: a :: b :: c :: d :: rest, acc =>
    match hex4 a b c d with
    | none => .error "bad hex escape"
    | some h =>
      if 0xD800 ≤ h && h < 0xDC00 then
        match rest with
        | '\\' :: 'u' :: e :: f :: g :: k :: rest2 =>
          match hex4 e f g k with
          | some l =>
            if 0xDC00 ≤ l && l < 0xE000 then
              readStringBody rest2 (Char.ofNat (0x10000 + (h - 0xD800) * 0x400 + (l - 0xDC00)) :: acc)
            else .error "bad surrogate pair"
          | none => .error "bad hex escape"
        | _ => .error "lone surrogate"
      else if 0xDC00 ≤ h && h < 0xE000 then .error "lone surrogate"
      else readStringBody rest (Char.ofNat h :: acc)
  | '\\' :: e :: rest, acc =>
    match simpleEscape e with
    | some c => readStringBody rest (c :: acc)
    | none => .error "bad escape"
  | c :: rest, acc => readStringBody rest (c :: acc)

/-- A number literal: `-`? digits (`.` digits)? ((`e`|`E`) (`+`|`-`)? digits)?. -/
def readNumberText (cs : List Char) : Except String (Json × List Char) := do
  let (sign, cs) := match cs with
    | '-' :: r => (['-'], r)
    | r => ([], r)
  let whole := cs.takeWhile Char.isDigit
  if whole.isEmpty then throw "bad number"
  let cs := cs.drop whole.length
  let (frac, cs) ← match cs with
    | '.' :: r =>
      let f := r.takeWhile Char.isDigit
      if f.isEmpty then throw "bad number" else pure ('.' :: f, r.drop f.length)
    | r => pure ([], r)
  let (ex, cs) ← match cs with
    | e :: r =>
      if e == 'e' || e == 'E' then
        let (sg, r) := match r with
          | '-' :: r' => (['-'], r')
          | '+' :: r' => (['+'], r')
          | r' => ([], r')
        let ds := r.takeWhile Char.isDigit
        if ds.isEmpty then throw "bad number" else pure (e :: sg ++ ds, r.drop ds.length)
      else pure ([], e :: r)
    | [] => pure ([], [])
  pure (.num (String.ofList (sign ++ whole ++ frac ++ ex)), cs)

/-- Adds a member to members sorted by key; a key already present gets the new value. -/
def insertMember (k : String) (v : Json) : List (String × Json) → List (String × Json)
  | [] => [(k, v)]
  | (k', v') :: rest =>
    if k == k' then (k, v) :: rest
    else if k < k' then (k, v) :: (k', v') :: rest
    else (k', v') :: insertMember k v rest

/-- How many arrays and objects may be open at once. -/
def nestingLimit : Nat := 127

mutual
/-- One value after optional blanks, and the rest of the text; `depth` more arrays or objects
may still be opened. -/
def readValue : Nat → Nat → List Char → Except String (Json × List Char)
  | 0, _, _ => .error "text too long"
  | fuel + 1, depth, cs =>
    match skipBlank cs with
    | '{' :: rest =>
      if depth == 0 then .error "nesting too deep" else
      match skipBlank rest with
      | '}' :: rest' => .ok (.obj [], rest')
      | _ => readMembers fuel (depth - 1) rest []
    | '[' :: rest =>
      if depth == 0 then .error "nesting too deep" else
      match skipBlank rest with
      | ']' :: rest' => .ok (.arr [], rest')
      | _ => readItems fuel (depth - 1) rest []
    | '"' :: rest => (readStringBody rest []).map fun (s, r) => (.str s, r)
    | 't' :: 'r' :: 'u' :: 'e' :: rest => .ok (.bool true, rest)
    | 'f' :: 'a' :: 'l' :: 's' :: 'e' :: rest => .ok (.bool false, rest)
    | 'n' :: 'u' :: 'l' :: 'l' :: rest => .ok (.null, rest)
    | [] => .error "unexpected end"
    | other => readNumberText other

/-- The items of an array after `[`, up to and including `]`. -/
def readItems : Nat → Nat → List Char → List Json → Except String (Json × List Char)
  | 0, _, _, _ => .error "text too long"
  | fuel + 1, depth, cs, acc => do
    let (v, rest) ← readValue fuel depth cs
    match skipBlank rest with
    | ',' :: rest' => readItems fuel depth rest' (acc ++ [v])
    | ']' :: rest' => pure (.arr (acc ++ [v]), rest')
    | _ => throw "bad array"

/-- The members of an object after `{`, up to and including `}`. -/
def readMembers : Nat → Nat → List Char → List (String × Json) →
    Except String (Json × List Char)
  | 0, _, _, _ => .error "text too long"
  | fuel + 1, depth, cs, acc => do
    let (k, rest) ← match skipBlank cs with
      | '"' :: r => readStringBody r []
      | _ => throw "bad object key"
    let rest ← match skipBlank rest with
      | ':' :: r => pure r
      | _ => throw "bad object"
    let (v, rest) ← readValue fuel depth rest
    let acc := insertMember k v acc
    match skipBlank rest with
    | ',' :: rest' => readMembers fuel depth rest' acc
    | '}' :: rest' => pure (.obj acc, rest')
    | _ => throw "bad object"
end

/-- Reads a JSON text: one value with only blanks around it, at most `nestingLimit` arrays and
objects deep. -/
def parse (s : String) : Except String Json := do
  let cs := s.toList
  let (v, rest) ← readValue (2 * cs.length + 2) nestingLimit cs
  if (skipBlank rest).isEmpty then pure v else throw "trailing characters"

end MetricLayer.Json
