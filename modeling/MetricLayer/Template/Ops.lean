import MetricLayer.Template.Value
import MetricLayer.Template.Syntax
/-!
# Operations on template values

Arithmetic works on the coerced forms of its operands (`coerce` with lossy conversion):
integer results must fit 128 signed bits, or the operation fails; `/` always divides doubles;
`//` and `%` are Euclidean on integers (a zero divisor fails) and truncated on doubles; `**`
takes an exponent that fits 32 unsigned bits. `+` also joins two strings, and two sequences or
iterables into an iterable; `*` repeats a string, or a sequence into an iterable of known
length, a count of times, up to `repeatLimit`.

Access: `v.name` and `v[key]` read map entries and object attributes; sequences and strings
take integer indices, negative ones counting from the end; anything missing is undefined,
but reading from an undefined value fails. Slices `[start:stop:step]` with a positive step
pick positions as sequences do in Python: negative bounds count from the end and bounds are
clamped to the ends. A negative step walks backwards from the start down to the item after the
stop, or down to the first item when the stop is absent or not after it (`backwardPositions`).
-/

namespace MetricLayer.Template

open MetricLayer.Decimal

/-- Why evaluation stopped. -/
inductive Failure where
  /-- The template is wrong, or an operation is not defined on its operands. -/
  | error
  /-- The engine gave up abruptly (a division by zero inside a test, a zero batch size). -/
  | panic
  deriving BEq, Inhabited, Repr

/-- A computation that may fail. -/
abbrev Outcome := Except Failure

/-- An integer result, failing when it does not fit 128 signed bits. -/
def checkedInt (i : Int) : Outcome Value :=
  if fitsI128 i then .ok (Value.ofI128 i) else .error .error

/-- Rounds a double toward zero. -/
def Float.trunc (x : Float) : Float := if x < 0 then x.ceil else x.floor

/-- Euclidean division of doubles: the truncated quotient, moved down (or up, for a negative
divisor) when the truncated remainder is negative. -/
def Float.divEuclid (a b : Float) : Float :=
  let q := Float.trunc (a / b)
  if fmod a b < 0 then (if b > 0 then q - 1 else q + 1) else q

/-- `a ^ b` within 128 signed bits. -/
def checkedPow (a : Int) (b : Nat) : Option Int :=
  if a == 0 then some (if b == 0 then 1 else 0)
  else if a == 1 then some 1
  else if a == -1 then some (if b % 2 == 0 then 1 else -1)
  else if b ≥ 128 then none
  else
    let r := Int.pow a b
    if fitsI128 r then some r else none

namespace Value

/-- Whether the number of items of a sequence or iterable is known without producing them. -/
def sizeKnown : Value → Bool
  | iterable _ sized => sized
  | _ => true

/-- `+`: joins sequences into an iterable (of known size when both sizes are known), joins
strings, adds numbers. -/
def add (a b : Value) : Outcome Value :=
  match a.seqItems?, b.seqItems? with
  | some xs, some ys => .ok (iterable (xs ++ ys) (a.sizeKnown && b.sizeKnown))
  | _, _ =>
    match coerce true a b with
    | some (.ints x y) => checkedInt (x + y)
    | some (.floats x y) => .ok (float (x + y))
    | some (.strs x y) => .ok (ofString (x ++ y))
    | Option.none => .error .error

/-- An arithmetic operator on integers (partial) and doubles. -/
def arith (ints : Int → Int → Option Int) (floats : Float → Float → Float) (a b : Value) :
    Outcome Value :=
  match coerce true a b with
  | some (.ints x y) => match ints x y with
    | some r => checkedInt r
    | Option.none => .error .error
  | some (.floats x y) => .ok (float (floats x y))
  | _ => .error .error

/-- `-`. -/
def sub (a b : Value) : Outcome Value := arith (fun x y => some (x - y)) (· - ·) a b

/-- The largest repetition: bytes of a repeated string, items of a repeated sequence. -/
def repeatLimit : Nat := 100000000

/-- The most items a repeated sequence holds. -/
def repeatItemsLimit : Nat := Nat.pow 2 26

/-- Repeats a list `n` times. -/
def repeatList (xs : List Value) : Nat → List Value
  | 0 => []
  | n + 1 => xs ++ repeatList xs n

/-- `*`: repeats a string or a sequence (into an iterable of known length), multiplies
numbers. -/
def mul (a b : Value) : Outcome Value :=
  let strTimes := match a.asStr?, b.asStr? with
    | some s, _ => some (s, b)
    | _, some s => some (s, a)
    | _, _ => Option.none
  match strTimes with
  | some (s, n) => match n.asUsize? with
    | some k =>
      if k * s.utf8ByteSize > repeatLimit then .error .error
      else .ok (ofString (String.join (List.replicate k s)))
    | Option.none => .error .error
  | Option.none =>
    let seqTimes := match a.seqItems?, b.seqItems? with
      | some xs, _ => some (xs, b)
      | _, some ys => some (ys, a)
      | _, _ => Option.none
    match seqTimes with
    | some (xs, n) => match n.asUsize? with
      | some k =>
        if k * xs.length > repeatItemsLimit then .error .error
        else .ok (iterable (repeatList xs k) true)
      | Option.none => .error .error
    | Option.none => arith (fun x y => some (x * y)) (· * ·) a b

/-- `/`: always a double. -/
def div (a b : Value) : Outcome Value :=
  match a.asDouble? true, b.asDouble? true with
  | some x, some y => .ok (float (x / y))
  | _, _ => .error .error

/-- `//`: Euclidean division. -/
def floorDiv (a b : Value) : Outcome Value :=
  arith (fun x y => if y == 0 then Option.none else some (Int.ediv x y)) Float.divEuclid a b

/-- `%`: Euclidean remainder on integers, truncated remainder on doubles. A zero divisor fails,
and so does `i128Min % -1`, whose quotient overflows. -/
def rem (a b : Value) : Outcome Value :=
  arith (fun x y => if y == 0 || (x == i128Min && y == -1) then Option.none else some (Int.emod x y))
    fmod a b

/-- `**`. -/
def pow (a b : Value) : Outcome Value :=
  arith (fun x y => if 0 ≤ y ∧ y < Int.pow 2 32 then checkedPow x y.toNat else Option.none)
    Float.pow a b

/-- `~`: the printed forms joined. -/
def concat (h : Heap) (a b : Value) : Value := ofString (a.display h ++ b.display h)

/-- Unary minus. The result must fit 128 signed bits, except for an unsigned `2^127`, which
stays as it is: its 128-bit pattern negates to itself. -/
def neg : Value → Outcome Value
  | float x => .ok (float (-x))
  | int i .u128 => if i == Int.pow 2 127 then .ok (int i .u128) else checkedInt (-i)
  | int i _ => checkedInt (-i)
  | _ => .error .error

/-- Applies a binary operator. -/
def binary (h : Heap) : BinOp → Value → Value → Outcome Value
  | .add => add
  | .sub => sub
  | .mul => mul
  | .div => div
  | .floorDiv => floorDiv
  | .rem => rem
  | .pow => pow
  | .concat => fun a b => .ok (concat h a b)

/-- Whether a list of characters occurs in another. -/
def occursIn (needle : List Char) : List Char → Bool
  | [] => needle.isEmpty
  | c :: cs => needle.isPrefixOf (c :: cs) || occursIn needle cs

/-- Whether `t` occurs in `s`. -/
def containsText (s t : String) : Bool := occursIn t.toList s.toList

/-- The characters of a string as one-character strings. -/
def charValues (s : String) : List Value := s.toList.map fun c => ofString c.toString

/-- The items a value yields when iterated: none and undefined yield nothing, a string its
characters, a map its keys. -/
def iterItems? (h : Heap) (v : Value) : Option (List Value) :=
  match v with
  | undefined | none => some []
  | str s _ => some (charValues s)
  | _ => match v.seqItems? with
    | some xs => some xs
    | Option.none => (v.entries? h).map fun es => es.map (·.1)

/-- The items of an iterated value, failing for values that cannot be iterated. -/
def iterate (h : Heap) (v : Value) : Outcome (List Value) :=
  match v.iterItems? h with
  | some xs => .ok xs
  | Option.none => .error .error

/-- The number of items iterating a value produces, when it is known before they are produced.
A string's characters are counted from its bytes, which is exact only for a string of at most
one byte: a character takes one to four bytes. -/
def iterLength? (h : Heap) (v : Value) : Option Nat :=
  match v with
  | str s _ => if s.utf8ByteSize ≤ 1 then some s.length else Option.none
  | iterable xs sized => if sized then some xs.length else Option.none
  | _ => (v.iterItems? h).map List.length

/-- The number of items, when known without producing them. -/
def length? (h : Heap) : Value → Option Nat
  | str s _ => some s.length
  | seq xs => some xs.length
  | iterable xs sized => if sized then some xs.length else Option.none
  | group _ _ => some 2
  | v => (v.entries? h).map List.length

/-- Resolves a possibly negative index against a length. -/
def resolveIndex (len : Option Nat) (key : Value) : Option Nat :=
  match key.asI64? with
  | some i => if i < 0 then len.bind fun n => if (-i).toNat ≤ n then some (n - (-i).toNat)
      else Option.none else some i.toNat
  | Option.none => Option.none

/-- The value under a key of a map or object, if there is one. -/
def getValue? (h : Heap) (v key : Value) : Option Value :=
  match v with
  | map es => lookup h key es
  | kwargs es => lookup h key es
  | object (.namespace id) => key.asStr?.bind fun k => (h.namespaceFields id).lookup k
  | object (.loop id) => key.asStr?.bind fun k => (loopFields (h.loop id)).lookup k
  | object (.userMacro id) => key.asStr?.bind fun k => (macroFields (h.macroShape id)).lookup k
  | group g xs => match key.asStr? with
    | some "grouper" => some g
    | some "list" => some (seq xs)
    | _ => (resolveIndex (some 2) key).bind fun i => [g, seq xs][i]?
  | _ => Option.none

/-- `v.name`, if there is such an attribute. -/
def attr? (h : Heap) (v : Value) (name : String) : Option Value :=
  getValue? h v (ofString name)

/-- `v[key]`, if there is such an item. -/
def item? (h : Heap) (v key : Value) : Option Value :=
  match v with
  | seq xs => (resolveIndex (some xs.length) key).bind fun i => xs[i]?
  | iterable xs sized => match getValue? h v key with
    | some r => some r
    | Option.none =>
      (resolveIndex (if sized then some xs.length else Option.none) key).bind fun i => xs[i]?
  | str s _ => (resolveIndex (some s.length) key).bind fun i => (charValues s)[i]?
  | _ => getValue? h v key

/-- A missing attribute or item is undefined, unless the value it was read from is undefined
too. -/
def orUndefined (parent : Value) : Option Value → Outcome Value
  | some r => .ok r
  | Option.none => if parent.isUndefined then .error .error else .ok undefined

/-- `v.name`. -/
def getAttr (h : Heap) (v : Value) (name : String) : Outcome Value :=
  orUndefined v (attr? h v name)

/-- `v[key]`. -/
def getItem (h : Heap) (v key : Value) : Outcome Value :=
  orUndefined v (item? h v key)

/-- A forward slice bound clamped into place for `len` items: a negative bound counts from
the end, and the result lies between the start and the end. -/
def clampBound (len : Int) (i : Int) : Int :=
  let i := if i < 0 then i + len else i
  if i < 0 then 0 else if i > len then len else i

/-- The positions a forward slice (`step > 0`) picks from `len` items, in order. -/
def forwardPositions (len : Nat) (start stop : Option Int) (step : Nat) : List Nat :=
  let n := Int.ofNat len
  let a := (start.map (clampBound n)).getD 0
  let b := (stop.map (clampBound n)).getD n
  let count : Nat := if a < b then ((b - a - 1) / step + 1).toNat else 0
  (List.range count).map fun k => (a + Int.ofNat (k * step)).toNat

/-- The positions a backward slice picks from `len` items, walking down by `step` from its
start: the last item when absent, a position counted from the end when negative (at least the
first), at most the last item. It walks down to the first item when the stop is absent or lies
on or before the first item, and otherwise to the item after the stop. None when there is no
item or the stop lies after the start: the engine stops abruptly there. -/
def backwardPositions (len : Nat) (start stop : Option Int) (step : Nat) : Option (List Nat) :=
  if len == 0 then Option.none else
  let n := Int.ofNat len
  let a : Int := match start with
    | Option.none => n - 1
    | some i => if i < 0 then max (n + i) 0 else min i (n - 1)
  let lowest : Int := match stop with
    | Option.none => 0
    | some i =>
      let i := if i < 0 then n + i else i
      if i ≤ 0 then 0 else i + 1
  if lowest > a + 1 then Option.none
  else
    let count : Nat := if lowest ≤ a then ((a - lowest) / Int.ofNat step + 1).toNat else 0
    some ((List.range count).map fun k => (a - Int.ofNat (k * step)).toNat)

/-- The items at the given positions. -/
def pick {α : Type} (xs : List α) (positions : List Nat) : List α :=
  let arr := xs.toArray
  positions.filterMap fun i => arr[i]?

/-- The items of `xs` (of which there are `len` as far as the slice knows) at a slice's
positions; none when the engine stops abruptly. -/
def sliceItems {α : Type} (xs : List α) (len : Nat) (start stop : Option Int) (step : Int) :
    Option (List α) :=
  if step > 0 then some (pick xs (forwardPositions len start stop step.toNat))
  else (backwardPositions len start stop (-step).toNat).map (pick xs)

/-- `v[start:stop:step]`. Strings give strings and sequences iterables of known size. An
iterator of unknown size is sliced lazily when both bounds are given and not negative; any
other slice of it counts it as empty. A backward slice of nothing, or with its stop after its
start, stops the engine. -/
def slice (v start stop step : Value) : Outcome Value := do
  let bound (b : Value) : Outcome (Option Int) :=
    if b.isNone then pure Option.none else match b.asI64? with
      | some i => pure (some i)
      | Option.none => throw .error
  let start ← bound start
  let stop ← bound stop
  let step ← if step.isNone then pure 1 else match step.asI64? with
    | some i => pure i
    | Option.none => throw .error
  if step == 0 then throw .error
  let cut {α : Type} (xs : List α) (len : Nat) : Outcome (List α) :=
    match sliceItems xs len start stop step with
    | some ys => pure ys
    | Option.none => throw .panic
  match v with
  | str s _ =>
    let cs := s.toList
    pure (ofString (String.ofList (← cut cs cs.length)))
  | undefined | none => pure (seq [])
  | iterable xs false =>
    let a := start.getD 0
    match stop with
    | some b =>
      if step > 0 && 0 ≤ a && 0 ≤ b then
        if b ≤ a then pure (iterable [] true)
        else
          let window := (xs.drop a.toNat).take (b - a).toNat
          pure (iterable (pick window (forwardPositions window.length Option.none Option.none
            step.toNat)) false)
      else pure (iterable (← cut xs 0) true)
    | Option.none => pure (iterable (← cut xs 0) true)
  | _ => match v.seqItems? with
    | some xs => pure (iterable (← cut xs xs.length) true)
    | Option.none => throw .error

/-- `item in container`: substrings of strings, keys of maps, items of sequences. An undefined
container holds nothing; other values cannot be searched. -/
def contains (h : Heap) (container item : Value) : Outcome Bool :=
  match container with
  | undefined => .ok false
  | str s _ =>
    let needle := match item.asStr? with
      | some t => t
      | Option.none => item.display h
    .ok (containsText s needle)
  | object (.function _) => .ok false
  | _ => match container.seqItems? with
    | some xs => .ok (xs.any fun x => x.eq h item)
    | Option.none => match container.entries? h with
      | some _ => .ok (getValue? h container item).isSome
      | Option.none => .error .error

end Value

end MetricLayer.Template
