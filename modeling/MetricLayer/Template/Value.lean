import MetricLayer.Json
import MetricLayer.Decimal.Layout
import MetricLayer.Decimal.Binary
import MetricLayer.Text.Printable
/-!
# Template values

The values a template computes with: undefined, none, booleans, integers, doubles, strings,
sequences, lazily produced iterables, maps, keyword arguments, objects that live in the
render's heap (namespaces, loop states, macros, global functions) and errors held as values.

An integer remembers the machine type it is held in (`IntWidth`): that decides how it converts
to other types, since converting an integer to a double succeeds only when the double converts
back to the integer (`Value.asDouble?`).

Arithmetic combines two values after coercion to a common form (`coerce`): two strings stay
strings, a double makes both doubles, anything else becomes a 128-bit integer. Comparison does
not coerce: numbers compare by their exact values (`Number.cmp`). Values print in two forms
(`Value.text`): plain (strings as they are, `None`, `True`, doubles positionally with at least
one decimal) and, inside containers, the debugging form (strings quoted, doubles scientific
below `1e-4` and from `1e16` on). Values are totally ordered (`Value.cmp`): first by kind
(undefined, none, booleans, numbers, strings, sequences, maps, iterables, other objects,
errors), then within a kind; maps are kept sorted by that order (`mapInsert`).
-/

namespace MetricLayer.Template

open MetricLayer.Decimal MetricLayer.Text

/-- The machine type an integer is held in. -/
inductive IntWidth where
  | u64
  | i64
  | i128
  | u128
  deriving BEq, Inhabited, Repr

/-- A value shared by reference: it lives in the render's heap. -/
inductive ObjectRef where
  /-- A namespace: a map whose attributes can be assigned. -/
  | namespace (id : Nat)
  /-- The state of a running loop. -/
  | loop (id : Nat)
  | userMacro (id : Nat)
  /-- A global function used as a value. -/
  | function (name : String)
  deriving BEq, Inhabited

/-- A template value. -/
inductive Value where
  | undefined
  | none
  | bool (b : Bool)
  | int (i : Int) (w : IntWidth)
  | float (x : Float)
  /-- A string; a safe one is never escaped again. -/
  | str (s : String) (safe : Bool)
  | seq (items : List Value)
  /-- Items produced on demand; `sized` when their count is known without producing them.
  An iterable of unknown size is an opaque iterator: it prints as `<iterator>` and is always
  true. -/
  | iterable (items : List Value) (sized : Bool)
  /-- A group of `groupby`: a pair that also has the attributes `grouper` and `list`. -/
  | group (grouper : Value) (items : List Value)
  /-- A map with entries sorted by key. -/
  | map (entries : List (Value × Value))
  /-- The keyword arguments of a call, in the order they were given. -/
  | kwargs (entries : List (Value × Value))
  | object (r : ObjectRef)
  /-- An error held as a value: an iterator yields it for an item it could not produce. -/
  | invalid (message : String)
  deriving Inhabited

/-- The kinds of values, in the order values of different kinds compare. -/
inductive Kind where
  | undefined
  | none
  | bool
  | number
  | string
  | seq
  | map
  | iterable
  | plain
  | invalid
  deriving BEq, Inhabited, Repr

/-- Position of a kind in the order of kinds. -/
def Kind.rank : Kind → Nat
  | .undefined => 0
  | .none => 1
  | .bool => 2
  | .number => 3
  | .string => 4
  | .seq => 6
  | .map => 7
  | .iterable => 8
  | .plain => 9
  | .invalid => 10

/-- The name of a kind, as messages give it. -/
def Kind.name : Kind → String
  | .undefined => "undefined"
  | .none => "none"
  | .bool => "bool"
  | .number => "number"
  | .string => "string"
  | .seq => "sequence"
  | .map => "map"
  | .iterable => "iterator"
  | .plain => "plain object"
  | .invalid => "invalid value"

/-- What a running loop shows of itself. -/
structure LoopState where
  /-- Zero-based position of the current item. -/
  index : Nat
  /-- The number of items, when it is known before the loop ends. -/
  length : Option Nat
  /-- One-based nesting depth of recursive loops. -/
  depth : Nat
  prev : Value
  next : Value
  /-- The arguments of the last `loop.changed` call. -/
  lastChanged : Option (List Value)
  deriving Inhabited

/-- What a macro shows of itself: its name, its parameters, and whether it takes a
`caller`. -/
structure MacroShape where
  name : String
  arguments : List String
  caller : Bool
  deriving Inhabited

/-- The objects of a render. -/
structure Heap where
  namespaces : Array (List (String × Value))
  loops : Array LoopState
  macros : Array MacroShape
  deriving Inhabited

/-- A heap with no objects. -/
def Heap.empty : Heap := ⟨#[], #[], #[]⟩

/-- The attributes of a namespace, in order of their names. -/
def Heap.namespaceFields (h : Heap) (id : Nat) : List (String × Value) :=
  h.namespaces.getD id []

/-- The state of a loop. -/
def Heap.loop (h : Heap) (id : Nat) : LoopState :=
  h.loops.getD id default

/-- The shape of a macro. -/
def Heap.macroShape (h : Heap) (id : Nat) : MacroShape :=
  h.macros.getD id default

/-- Replaces the state of a loop. -/
def Heap.setLoop (h : Heap) (id : Nat) (s : LoopState) : Heap :=
  { h with loops := h.loops.set! id s }

/-- Inserts or replaces a field, keeping fields sorted by name. -/
def insertField (k : String) (v : Value) : List (String × Value) → List (String × Value)
  | [] => [(k, v)]
  | (k', v') :: rest =>
    if k < k' then (k, v) :: (k', v') :: rest
    else if k == k' then (k', v) :: rest
    else (k', v') :: insertField k v rest

/-- Sets an attribute of a namespace. -/
def Heap.setField (h : Heap) (id : Nat) (k : String) (v : Value) : Heap :=
  { h with namespaces := h.namespaces.set! id (insertField k v (h.namespaceFields id)) }

/-- Doubles inside sequences and maps: positional for magnitudes in `[1e-4, 1e16)`, always
with a decimal, scientific otherwise. -/
def FloatLayout.debug : FloatLayout := ⟨some (-4), some 16, true, "NaN", "inf", false⟩

/-! ## Numbers -/

/-- The least 128-bit signed integer. -/
def i128Min : Int := -(Int.pow 2 127)

/-- The greatest 128-bit signed integer. -/
def i128Max : Int := Int.pow 2 127 - 1

/-- Whether an integer fits 128 signed bits. -/
def fitsI128 (i : Int) : Bool := i128Min ≤ i && i ≤ i128Max

/-- Whether an integer fits 64 signed bits. -/
def fitsI64 (i : Int) : Bool := -(Int.pow 2 63) ≤ i && i < Int.pow 2 63

/-- An integer result: held in 64 bits when it fits, else in 128. -/
def Value.ofI128 (i : Int) : Value :=
  .int i (if fitsI64 i then .i64 else .i128)

/-- A count or index. -/
def Value.ofNat (n : Nat) : Value := .int n .u64

/-- An integer literal: 64 unsigned bits when it fits, else 128. -/
def Value.ofLiteral (n : Nat) : Value :=
  .int n (if n < Nat.pow 2 64 then .u64 else .u128)

/-- A plain string. -/
def Value.ofString (s : String) : Value := .str s false

/-- The range of a machine integer type. -/
def IntWidth.bounds : IntWidth → Int × Int
  | .u64 => (0, Int.pow 2 64 - 1)
  | .i64 => (-(Int.pow 2 63), Int.pow 2 63 - 1)
  | .i128 => (i128Min, i128Max)
  | .u128 => (0, Int.pow 2 128 - 1)

/-- Converts a double to an integer type, saturating at its bounds; `NaN` gives zero. -/
def saturate (bounds : Int × Int) (x : Float) : Int :=
  match parts x with
  | .nan => 0
  | .infinite neg => if neg then bounds.1 else bounds.2
  | .finite _ _ _ =>
    match truncate? x with
    | some i => max bounds.1 (min bounds.2 i)
    | Option.none => 0

/-- Converts a double to a 128-bit integer, saturating. -/
def Float.toI128 (x : Float) : Int := saturate (i128Min, i128Max) x

/-- Whether an integer is exactly a whole double in the range of 64 signed bits. -/
def wholeI64? (x : Float) : Option Int :=
  let i := saturate (IntWidth.i64.bounds) x
  if ofInt i == x then some i else Option.none

/-- Integer value of booleans, integers and whole doubles within 64 signed bits. -/
def Value.integral? : Value → Option Int
  | .bool b => some (if b then 1 else 0)
  | .int i _ => some i
  | .float x => wholeI64? x
  | _ => Option.none

/-- The value as an integer of the given range, if it converts exactly. -/
def Value.toIntIn? (bounds : Int × Int) (v : Value) : Option Int :=
  v.integral?.bind fun i => if bounds.1 ≤ i ∧ i ≤ bounds.2 then some i else Option.none

/-- The value as a 128-bit signed integer. -/
def Value.asI128? (v : Value) : Option Int := v.toIntIn? (i128Min, i128Max)

/-- The value as a 64-bit signed integer. -/
def Value.asI64? (v : Value) : Option Int := v.toIntIn? IntWidth.i64.bounds

/-- The value as a count or index. -/
def Value.asUsize? (v : Value) : Option Nat :=
  (v.toIntIn? IntWidth.u64.bounds).map Int.toNat

/-- The value as a double; unless `lossy`, an integer converts only when the double converts
back to the same integer (saturating at the bounds of its width). -/
def Value.asDouble? (lossy : Bool) : Value → Option Float
  | .bool b => some (if b then 1.0 else 0.0)
  | .int i w =>
    let x := ofInt i
    if lossy || saturate w.bounds x == i then some x else Option.none
  | .float x => some x
  | _ => Option.none

/-- Two values brought to a common form for arithmetic and comparison. -/
inductive Coerced where
  | ints (a b : Int)
  | floats (a b : Float)
  | strs (a b : String)

/-- Two unsigned 128-bit integers read as signed ones. -/
def wrapI128 (n : Int) : Int := if n > i128Max then n - Int.pow 2 128 else n

/-- Brings two values to a common form: strings stay strings, a double makes both doubles,
and otherwise both become 128-bit integers. -/
def coerce (lossy : Bool) (a b : Value) : Option Coerced :=
  match a, b with
  | .int x .u128, .int y .u128 => some (.ints (wrapI128 x) (wrapI128 y))
  | .str x _, .str y _ => some (.strs x y)
  | .float x, .float y => some (.floats x y)
  | .float x, _ => (b.asDouble? lossy).map fun y => .floats x y
  | _, .float y => (a.asDouble? lossy).map fun x => .floats x y
  | _, _ =>
    match a.asI128?, b.asI128? with
    | some x, some y => some (.ints x y)
    | _, _ => Option.none

/-- A number as it is compared: exactly, whatever type holds it. -/
inductive Number where
  | int (i : Int)
  | float (x : Float)

/-- Where a double lies on the extended line: below every finite number (negative infinity),
among them, above them (positive infinity), or above everything (NaN). -/
def floatBand (x : Float) : Nat :=
  match parts x with
  | .infinite true => 0
  | .finite _ _ _ => 1
  | .infinite false => 2
  | .nan => 3

/-- Compares an integer with a double by their exact values. -/
def cmpIntFloat (a : Int) (y : Float) : Ordering :=
  match parts y with
  | .finite neg m e =>
    let b : Int := if neg then -Int.ofNat m else Int.ofNat m
    if 0 ≤ e then compare a (b * Int.pow 2 e.toNat)
    else compare (a * Int.pow 2 (-e).toNat) b
  | _ => compare 1 (floatBand y)

/-- Compares two numbers by their exact values: an integer and a double are not rounded to a
common type, the two zeros of doubles are equal, and NaN lies above everything (and equals
itself, so that it can be sorted and used as a key). -/
def Number.cmp : Number → Number → Ordering
  | .int a, .int b => compare a b
  | .int a, .float y => cmpIntFloat a y
  | .float x, .int b => (cmpIntFloat b x).swap
  | .float x, .float y =>
    if floatBand x == 1 && floatBand y == 1 then
      (if x < y then .lt else if x == y then .eq else .gt)
    else compare (floatBand x) (floatBand y)

/-- Whether two numbers are equal: exactly, and never when one is NaN. -/
def Number.eq (a b : Number) : Bool :=
  match a, b with
  | .float x, .float y => x == y
  | _, _ => a.cmp b == .eq

/-- Compares two strings by their characters. -/
def strCmp (a b : String) : Ordering := compare a b

/-! ## Kinds and views -/

namespace Value

/-- The kind of a value. -/
def kind : Value → Kind
  | undefined => .undefined
  | none => .none
  | bool _ => .bool
  | int _ _ | float _ => .number
  | str _ _ => .string
  | seq _ | group _ _ => .seq
  | iterable _ _ => .iterable
  | map _ | kwargs _ | object (.namespace _) | object (.loop _) | object (.userMacro _) => .map
  | object (.function _) => .plain
  | invalid _ => .invalid

/-- The number a boolean, integer or double stands for. -/
def numeric? : Value → Option Number
  | bool b => some (.int (if b then 1 else 0))
  | int i _ => some (.int i)
  | float x => some (.float x)
  | _ => Option.none

/-- Whether a value is undefined. -/
def isUndefined : Value → Bool
  | undefined => true
  | _ => false

/-- Whether a value is none. -/
def isNone : Value → Bool
  | none => true
  | _ => false

/-- The string of a string value. -/
def asStr? : Value → Option String
  | str s _ => some s
  | _ => Option.none

/-- Whether a value is a string marked safe. -/
def isSafe : Value → Bool
  | str _ safe => safe
  | _ => false

/-- The items of a sequence or iterable. -/
def seqItems? : Value → Option (List Value)
  | seq xs | iterable xs _ => some xs
  | group g xs => some [g, seq xs]
  | _ => Option.none

/-- The attributes of a running loop, in the order it lists them. Without a known length the
length and the positions from the end are undefined, and no item is the last. -/
def loopFields (s : LoopState) : List (String × Value) :=
  let known (f : Nat → Value) : Value := match s.length with
    | some n => f n
    | Option.none => undefined
  [("index0", ofNat s.index), ("index", ofNat (s.index + 1)), ("length", known ofNat),
   ("revindex", known fun n => ofNat (n - s.index)),
   ("revindex0", known fun n => ofNat (n - s.index - 1)),
   ("first", bool (s.index == 0)), ("last", bool (s.length == some (s.index + 1))),
   ("depth", ofNat s.depth), ("depth0", ofNat (s.depth - 1)), ("previtem", s.prev),
   ("nextitem", s.next)]

/-- The attributes of a macro. -/
def macroFields (m : MacroShape) : List (String × Value) :=
  [("name", ofString m.name), ("arguments", seq (m.arguments.map ofString)),
   ("caller", bool m.caller)]

/-- The entries of a map-like value, keys as values. -/
def entries? (h : Heap) : Value → Option (List (Value × Value))
  | map es => some es
  | kwargs es => some es
  | object (.namespace id) => some ((h.namespaceFields id).map fun (k, v) => (ofString k, v))
  | object (.loop id) => some ((loopFields (h.loop id)).map fun (k, v) => (ofString k, v))
  | object (.userMacro id) =>
    some ((macroFields (h.macroShape id)).map fun (k, v) => (ofString k, v))
  | _ => Option.none

/-- Whether a value counts as true in a condition. -/
def truthy (h : Heap) : Value → Bool
  | undefined | none => false
  | bool b => b
  | int i _ => i != 0
  | float x => x != 0.0
  | str s _ => !s.isEmpty
  | seq xs | iterable xs true => !xs.isEmpty
  | iterable _ false => true
  | group _ _ => true
  | map es => !es.isEmpty
  | kwargs es => !es.isEmpty
  | object (.namespace id) => !(h.namespaceFields id).isEmpty
  | object _ => true
  | invalid _ => false

/-- What a global function prints as, before its name. -/
def functionPath : String := "minijinja::functions::builtins::"

/-- The text of a value; `quoted` selects the debugging form used for items of containers.
`fuel` bounds the nesting depth. -/
def text (h : Heap) : Nat → Bool → Value → String
  | 0, _, _ => "..."
  | fuel + 1, quoted, v =>
    let items (xs : List Value) : String := ", ".intercalate (xs.map (text h fuel true))
    let entries (es : List (Value × Value)) : String :=
      ", ".intercalate (es.map fun (k, v) => text h fuel true k ++ ": " ++ text h fuel true v)
    match v with
    | undefined => if quoted then "undefined" else ""
    | none => "None"
    | bool b => if b then "True" else "False"
    | int i _ => toString i
    | float x => if quoted then FloatLayout.debug.render x else FloatLayout.template.render x
    | str s _ => if quoted then debugQuote s else s
    | seq xs | iterable xs true => "[" ++ items xs ++ "]"
    | iterable _ false => "<iterator>"
    | group g xs => "[" ++ items [g, seq xs] ++ "]"
    | map es | kwargs es => "\x7b" ++ entries es ++ "\x7d"
    | object (.namespace id) =>
      "\x7b" ++ entries ((h.namespaceFields id).map fun (k, v) => (ofString k, v)) ++ "\x7d"
    | object (.loop id) =>
      let s := h.loop id
      let length := match s.length with
        | some n => toString n
        | Option.none => "?"
      "<loop " ++ toString s.index ++ "/" ++ length ++ ">"
    | object (.userMacro id) => "<macro " ++ (h.macroShape id).name ++ ">"
    | object (.function name) => functionPath ++ name
    | invalid message => "<invalid value: " ++ message ++ ">"

/-- Nesting depth up to which values are printed and compared. -/
def depthLimit : Nat := 10000

/-- The printed form of a value. -/
def display (h : Heap) (v : Value) : String := text h depthLimit false v

/-- The debugging form of a value. -/
def debug (h : Heap) (v : Value) : String := text h depthLimit true v

/-- Whether two values are the same object. -/
def sameObject : Value → Value → Bool
  | object a, object b => a == b
  | _, _ => false

/-- Compares two lists with a comparison of items, the shorter first when one is a prefix. -/
def cmpLists (f : Value → Value → Ordering) : List Value → List Value → Ordering
  | [], [] => .eq
  | [], _ :: _ => .lt
  | _ :: _, [] => .gt
  | x :: xs, y :: ys => match f x y with
    | .eq => cmpLists f xs ys
    | o => o

/-- Compares two values: by kind, then by content. Values that cannot be compared are
equal. -/
def cmp (h : Heap) : Nat → Value → Value → Ordering
  | 0, _, _ => .eq
  | fuel + 1, a, b =>
    let ka := a.kind.rank
    let kb := b.kind.rank
    if ka < kb then .lt else if kb < ka then .gt else
    match a, b with
    | none, none | undefined, undefined => .eq
    | str x _, str y _ => strCmp x y
    | _, _ =>
      match a.numeric?, b.numeric? with
      | some x, some y => x.cmp y
      | _, _ =>
        if sameObject a b then .eq else
        match a.seqItems?, b.seqItems? with
        | some xs, some ys => cmpLists (cmp h fuel) xs ys
        | _, _ =>
          match a.entries? h, b.entries? h with
          | some xs, some ys =>
            let pair (e : Value × Value) : Value := seq [e.1, e.2]
            cmpLists (cmp h fuel) (xs.map pair) (ys.map pair)
          | _, _ =>
            match a, b with
            | object (.function f), object (.function g) => strCmp f g
            | _, _ => .eq

/-- The value stored under a key, keys compared by `cmp`. -/
def lookup (h : Heap) (k : Value) : List (Value × Value) → Option Value
  | [] => Option.none
  | (k', v) :: rest => if cmp h depthLimit k k' == .eq then some v else lookup h k rest

/-- Whether two values are equal: strings by content, numbers after coercion, sequences item
by item and maps entry by entry; other objects only when they are the same. -/
def equal (h : Heap) : Nat → Value → Value → Bool
  | 0, _, _ => false
  | fuel + 1, a, b =>
    match a, b with
    | none, none | undefined, undefined => true
    | str x _, str y _ => x == y
    | _, _ =>
      match a.numeric?, b.numeric? with
      | some x, some y => x.eq y
      | _, _ =>
        if sameObject a b then true else
        match a.seqItems?, b.seqItems? with
        | some xs, some ys =>
          xs.length == ys.length && (xs.zip ys).all fun (x, y) => equal h fuel x y
        | _, _ =>
          match a.entries? h, b.entries? h with
          | some xs, some ys =>
            xs.length == ys.length && xs.all fun (k, v) =>
              match lookup h k ys with
              | some w => equal h fuel v w
              | Option.none => false
          | _, _ => false

/-- Whether two values are equal, to the usual depth. -/
def eq (h : Heap) (a b : Value) : Bool := equal h depthLimit a b

/-- Compares two values, to the usual depth. -/
def order (h : Heap) (a b : Value) : Ordering := cmp h depthLimit a b

end Value

/-- Inserts an entry into a sorted map; an equal key keeps its place and takes the new
value. -/
def mapInsert (h : Heap) (k v : Value) : List (Value × Value) → List (Value × Value)
  | [] => [(k, v)]
  | (k', v') :: rest =>
    match Value.order h k k' with
    | .lt => (k, v) :: (k', v') :: rest
    | .eq => (k', v) :: rest
    | .gt => (k', v') :: mapInsert h k v rest

/-- A map of the given entries, later entries winning over earlier equal keys. -/
def mapOfList (h : Heap) (es : List (Value × Value)) : List (Value × Value) :=
  es.foldl (fun m (k, v) => mapInsert h k v m) []

/-! ## JSON context -/

/-- A JSON number as a template value: unsigned and negative integer literals become 64-bit
integers, anything else a double. -/
def Value.ofNumber (t : String) : Value :=
  match Json.numberValue t with
  | .unsigned n => .int n .u64
  | .negative i => .int i .i64
  | .double x => .float x

mutual
/-- A JSON value as a template value. -/
def Value.ofJson : Json → Value
  | .null => .none
  | .bool b => .bool b
  | .num t => Value.ofNumber t
  | .str s => .str s false
  | .arr items => .seq (Value.ofJsonList items)
  | .obj fields => .map (mapOfList Heap.empty (Value.ofJsonFields fields))

/-- JSON items as template values. -/
def Value.ofJsonList : List Json → List Value
  | [] => []
  | j :: js => Value.ofJson j :: Value.ofJsonList js

/-- JSON members as template map entries. -/
def Value.ofJsonFields : List (String × Json) → List (Value × Value)
  | [] => []
  | (k, v) :: rest => (.str k false, Value.ofJson v) :: Value.ofJsonFields rest
end

end MetricLayer.Template
