import MetricLayer.Json
import MetricLayer.Decimal.Binary
import MetricLayer.Decimal.Read
/-!
# Decoding JSON values

Typed readers for JSON values, with the rules of the definitions' file format:

* an optional member may be missing or `null`; a member with a default may be missing, but a
  `null` there must still have the member's type;
* a record may also be an array of its fields in order, and a variant an object naming it;
* integers are literals without fraction or exponent, in the range of their type;
* a double is read the way a fast JSON reader reads it (`Decimal.readDouble?`): the first digits
  of the significand up to 64 bits, the later integer digits only as a power of ten, the later
  fraction digits dropped; the significand is rounded to a double and scaled by a power of ten
  that is itself rounded. This is not always the double nearest to the literal, and the answers
  depend on that.
-/

namespace MetricLayer.Json

open MetricLayer.Decimal

/-- Why a JSON value does not decode. -/
structure DecodeError where
  message : String
  deriving Repr, Inhabited

/-- A decoding that may fail. -/
abbrev Decode := Except DecodeError

/-- A value of the wrong shape. -/
def mismatch {α : Type} (what : String) : Decode α := .error ⟨"expected " ++ what⟩

/-- The member under a key, when present and not `null`. -/
def present? (j : Json) (k : String) : Option Json :=
  match j.get? k with
  | some .null => none
  | other => other

/-- A string. -/
def asString : Json → Decode String
  | .str s => pure s
  | _ => mismatch "a string"

/-- A boolean. -/
def asBool : Json → Decode Bool
  | .bool b => pure b
  | _ => mismatch "a boolean"

/-- A 64-bit signed integer. -/
def asI64 : Json → Decode Int
  | .num t =>
    if isIntegerText t then
      match readI64? t with
      | some i => pure i
      | none => mismatch "a 64-bit integer"
    else mismatch "an integer"
  | _ => mismatch "an integer"

/-- A 64-bit unsigned integer; `-0` is zero. -/
def asU64 : Json → Decode Nat
  | .num t =>
    if isIntegerText t then
      match t.toList with
      | '-' :: ds => if digitsValue ds == 0 then pure 0 else mismatch "an unsigned integer"
      | ds =>
        let v := digitsValue ds
        if v < Nat.pow 2 64 then pure v else mismatch "a 64-bit unsigned integer"
    else mismatch "an unsigned integer"
  | _ => mismatch "an unsigned integer"

/-- A double. -/
def asF64 : Json → Decode Float
  | .num t =>
    match readDouble? t with
    | some x => pure x
    | none => mismatch "a finite number"
  | _ => mismatch "a number"

/-- A list of values of one type. -/
def asList {α : Type} (f : Json → Decode α) : Json → Decode (List α)
  | .arr items => items.mapM f
  | _ => mismatch "an array"

/-- A list of strings. -/
def asStrings : Json → Decode (List String) := asList asString

/-- The members of an object. -/
def asObject : Json → Decode (List (String × Json))
  | .obj fields => pure fields
  | _ => mismatch "an object"

/-- A member that must be present. -/
def required {α : Type} (j : Json) (k : String) (f : Json → Decode α) : Decode α :=
  match j.get? k with
  | some v => f v
  | none => .error ⟨"missing field '" ++ k ++ "'"⟩

/-- A member that may be missing or `null`. -/
def optional {α : Type} (j : Json) (k : String) (f : Json → Decode α) : Decode (Option α) :=
  match present? j k with
  | some v => some <$> f v
  | none => pure none

/-- A member with a default when missing. -/
def withDefault {α : Type} (j : Json) (k : String) (d : α) (f : Json → Decode α) : Decode α :=
  match j.get? k with
  | some v => f v
  | none => pure d

/-- A string naming a value, read by `read`. -/
def asNamed {α : Type} (read : String → Option α) : Json → Decode α
  | .str s =>
    match read s with
    | some a => pure a
    | none => .error ⟨"unknown variant '" ++ s ++ "'"⟩
  | _ => mismatch "a string"

/-! ## Records and variants

A record (a structure of named fields) is written either as an object of its fields by name or
as an array of its fields in their order. A variant without data is written as its name, or as
an object whose one member is named after it and holds an empty payload. What counts as empty,
and whether an array may hold more items than the record has fields, depends on the format the
data was written in.
-/

/-- Where two formats read into records and variants differ. -/
structure Format where
  /-- Whether a value may be the payload of a variant without data. -/
  emptyPayload : Json → Bool
  /-- Whether items of an array past a record's last field are ignored rather than refused. -/
  extraItems : Bool

/-- JSON documents: an empty payload is `null`, and a record's array must not be longer than its
fields. -/
def Format.json : Format := ⟨(· == .null), false⟩

/-- The value of an enumeration named by a string, or by the one member of an object whose
payload is empty in format `fmt`. -/
def asVariant {α : Type} (fmt : Format) (read : String → Option α) : Json → Decode α
  | .obj [(name, payload)] =>
    if fmt.emptyPayload payload then asNamed read (.str name) else mismatch "an empty payload"
  | j => asNamed read j

/-- A variant of an enumeration in JSON. -/
def asEnum {α : Type} (read : String → Option α) : Json → Decode α := asVariant .json read

/-- A record being read: its object, or the items of its array. -/
inductive Record where
  | members (j : Json)
  | items (values : List Json)

/-- Reads the fields of a record in their order; the state counts the fields read so far. -/
abbrev Fields := ReaderT Record (StateT Nat Decode)

/-- The next field, named `k`: its member in an object, the item at its position in an
array. -/
def Fields.next (k : String) : Fields (Option Json) := do
  let i ← get
  set (i + 1)
  match ← read with
  | .members j => pure (j.get? k)
  | .items vs => pure vs[i]?

/-- A field that must be present. -/
def field {α : Type} (k : String) (f : Json → Decode α) : Fields α := do
  match ← Fields.next k with
  | some v => f v
  | none => throw ⟨"missing field '" ++ k ++ "'"⟩

/-- An optional field: missing or `null` is none. -/
def optField {α : Type} (k : String) (f : Json → Decode α) : Fields (Option α) := do
  match ← Fields.next k with
  | some .null | none => pure none
  | some v => some <$> f v

/-- A field with a default when missing. -/
def fieldOr {α : Type} (k : String) (d : α) (f : Json → Decode α) : Fields α := do
  match ← Fields.next k with
  | some v => f v
  | none => pure d

/-- A record read by `fields` from an object or an array. -/
def asRecord {α : Type} (fmt : Format) (fields : Fields α) (j : Json) : Decode α := do
  let r ← match j with
    | .obj _ => pure (Record.members j)
    | .arr vs => pure (.items vs)
    | _ => mismatch "an object or an array"
  let (a, n) ← (fields.run r).run 0
  match r with
  | .items vs => if vs.length > n && !fmt.extraItems then mismatch "fewer items" else pure a
  | .members _ => pure a

end MetricLayer.Json
