import MetricLayer.Decimal.Layout
import MetricLayer.Decimal.Read
/-!
# JSON values

Parameter values and template contexts are JSON values. A number keeps the text it was written
with, so that each reader can take from it the integer or double it needs; as a value it is what
a JSON reader makes of the literal (`Json.numberValue`): an integer without fraction or exponent
that fits 64 bits stays an integer, and anything else becomes a double (`99999999999999999999`
is `1e+20`, `-0` is `-0.0`). Objects hold their members sorted by key, each key once.

`Json.render` writes the compact form (no blanks, strings escaped, numbers as their values) and
`Json.beq` is equality of values: integers equal integers of the same sign, doubles equal
doubles (`0.0` equals `-0.0`), and an integer never equals a double.
-/

namespace MetricLayer

/-- A JSON value. -/
inductive Json where
  | null
  | bool (b : Bool)
  /-- A number, as the text of its literal. -/
  | num (text : String)
  | str (s : String)
  | arr (items : List Json)
  /-- Members sorted by key, keys unique. -/
  | obj (fields : List (String × Json))
  deriving Inhabited

namespace Json

open MetricLayer.Decimal

/-- A number as a JSON reader holds it. -/
inductive NumberValue where
  /-- A non-negative integer below `2^64`. -/
  | unsigned (n : Nat)
  /-- A negative integer not below `-2^63`. -/
  | negative (i : Int)
  | double (x : Float)

/-- Whether a number literal is an integer: an optional `-` and digits only. -/
def isIntegerText (t : String) : Bool :=
  match t.toList with
  | '-' :: ds => !ds.isEmpty && ds.all Char.isDigit
  | ds => !ds.isEmpty && ds.all Char.isDigit

/-- The value of a number literal: an integer literal in the range of its kind stays an
integer, everything else (`-0` included) is the double `readDouble?` reads. -/
def numberValue (t : String) : NumberValue :=
  let asDouble := NumberValue.double ((readDouble? t).getD 0.0)
  if isIntegerText t then
    match t.toList with
    | '-' :: ds =>
      let m := digitsValue ds
      if 0 < m && m ≤ Nat.pow 2 63 then .negative (-(Int.ofNat m)) else asDouble
    | ds =>
      let m := digitsValue ds
      if m < Nat.pow 2 64 then .unsigned m else asDouble
  else asDouble

/-- The text of a number value. -/
def NumberValue.text : NumberValue → String
  | .unsigned n => toString n
  | .negative i => toString i
  | .double x => FloatLayout.jsonNumber.render x

/-- Equality of number values: the same kind and the same value. -/
def NumberValue.beq : NumberValue → NumberValue → Bool
  | .unsigned a, .unsigned b => a == b
  | .negative a, .negative b => a == b
  | .double a, .double b => a == b
  | _, _ => false

/-- Hexadecimal digit of a number below 16. -/
def hexDigit (n : Nat) : Char :=
  if n < 10 then Char.ofNat (48 + n) else Char.ofNat (87 + n)

/-- A character escaped inside a JSON string: quote, backslash and control characters. -/
def escapeChar (c : Char) : List Char :=
  if c == '"' then ['\\', '"']
  else if c == '\\' then ['\\', '\\']
  else if c == '\n' then ['\\', 'n']
  else if c == '\r' then ['\\', 'r']
  else if c == '\t' then ['\\', 't']
  else if c.toNat == 8 then ['\\', 'b']
  else if c.toNat == 12 then ['\\', 'f']
  else if c.toNat < 32 then ['\\', 'u', '0', '0', hexDigit (c.toNat / 16), hexDigit (c.toNat % 16)]
  else [c]

/-- A string as a JSON string literal. -/
def quote (s : String) : String := String.ofList ('"' :: s.toList.flatMap escapeChar ++ ['"'])

mutual
/-- The compact text of a value. -/
def render : Json → String
  | null => "null"
  | bool b => if b then "true" else "false"
  | num t => (numberValue t).text
  | str s => quote s
  | arr items => "[" ++ String.intercalate "," (renderItems items) ++ "]"
  | obj fields => "\x7b" ++ String.intercalate "," (renderFields fields) ++ "\x7d"

/-- The texts of array items. -/
def renderItems : List Json → List String
  | [] => []
  | j :: js => render j :: renderItems js

/-- The texts of object members. -/
def renderFields : List (String × Json) → List String
  | [] => []
  | (k, v) :: rest => (quote k ++ ":" ++ render v) :: renderFields rest
end

mutual
/-- Equality of values; numbers are compared as values (`NumberValue.beq`). -/
def beq : Json → Json → Bool
  | null, null => true
  | bool a, bool b => a == b
  | num a, num b => (numberValue a).beq (numberValue b)
  | str a, str b => a == b
  | arr as, arr bs => beqItems as bs
  | obj as, obj bs => beqFields as bs
  | _, _ => false

/-- Equality of item lists. -/
def beqItems : List Json → List Json → Bool
  | [], [] => true
  | a :: as, b :: bs => beq a b && beqItems as bs
  | _, _ => false

/-- Equality of member lists. -/
def beqFields : List (String × Json) → List (String × Json) → Bool
  | [], [] => true
  | (ka, a) :: as, (kb, b) :: bs => ka == kb && beq a b && beqFields as bs
  | _, _ => false
end

instance : BEq Json := ⟨beq⟩

/-- The member of an object under a key. -/
def get? (j : Json) (key : String) : Option Json :=
  match j with
  | obj fields => fields.lookup key
  | _ => none

/-- The number as a double, when it is one. -/
def toFloat? : Json → Option Float
  | num t => readF64? t
  | _ => none

/-- Whether the value is `null`. -/
def isNull : Json → Bool
  | null => true
  | _ => false

end Json

end MetricLayer
