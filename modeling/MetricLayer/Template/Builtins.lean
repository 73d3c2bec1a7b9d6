import MetricLayer.Template.Printf
import MetricLayer.Text.Case
import MetricLayer.Text.LetterCase
import MetricLayer.Text.Blank
import MetricLayer.Text.Split
import MetricLayer.Decimal.Read
/-!
# Filters and tests

The filters (`x|name(args)`) and tests (`x is name args`) a template can use. Each receives
the value it applies to as its first argument; keyword arguments arrive as one trailing
`Value.kwargs`. A builtin checks its arity: a missing required argument or an extra one is an
error, and so is a keyword argument it does not know. An optional argument given as none or
undefined counts as absent.

String arguments accept any value, taking its printed form; counts accept booleans,
non-negative integers and whole doubles. Sorting (`sort`, `dictsort`, `groupby`) is stable, also
in reverse, and compares strings without regard to ASCII letter case unless `case_sensitive` is
set. Most filters that rework a string keep it safe when it was safe. A safe format makes
`format` escape its arguments; when output is escaped, `join` and `replace` also make a safe
result when one of the parts is safe, escaping the others.
-/

namespace MetricLayer.Template

open MetricLayer.Text MetricLayer.Decimal

namespace Builtin

/-- Arguments without the trailing keyword arguments, and those keyword arguments by name (a
key that is not a string goes by its printed form, which names no parameter). -/
def splitKwargs (args : List Value) : List Value × List (String × Value) :=
  match args.getLast? with
  | some (.kwargs es) =>
    (args.dropLast, es.map fun (k, v) => (k.asStr?.getD (k.display Heap.empty), v))
  | _ => (args, [])

/-- Fails unless the number of arguments lies in `[lo, hi]`. -/
def arity (args : List Value) (lo hi : Nat) : Outcome Unit :=
  if lo ≤ args.length ∧ args.length ≤ hi then .ok () else .error .error

/-- Fails when a keyword argument is not among the known names. -/
def knownKwargs (kw : List (String × Value)) (names : List String) : Outcome Unit :=
  if kw.all fun (k, _) => names.contains k then .ok () else .error .error

/-- An optional argument: absent, none and undefined count as not given. -/
def given : Option Value → Option Value
  | some .none | some .undefined | Option.none => Option.none
  | some v => some v

/-- The `i`-th argument, if given. -/
def arg? (args : List Value) (i : Nat) : Option Value := given args[i]?

/-- A keyword argument, if given. -/
def kwarg? (kw : List (String × Value)) (name : String) : Option Value := given (kw.lookup name)

/-- The text of a string argument: a string as it is, any other value printed. -/
def text (h : Heap) : Value → String
  | .str s _ => s
  | v => v.display h

/-- An optional boolean argument; a value of another kind fails. -/
def optBool : Option Value → Outcome (Option Bool)
  | Option.none => .ok Option.none
  | some (.bool b) => .ok (some b)
  | some _ => .error .error

/-- An optional argument that must be a string. -/
def optStr : Option Value → Outcome (Option String)
  | Option.none => .ok Option.none
  | some (.str s _) => .ok (some s)
  | some _ => .error .error

/-- A count argument. -/
def count (v : Value) : Outcome Nat :=
  match v.asUsize? with
  | some n => .ok n
  | Option.none => .error .error

/-- A required argument. -/
def required (args : List Value) (i : Nat) : Outcome Value :=
  match args[i]? with
  | some v => .ok v
  | Option.none => .error .error

/-- The items of a value to be iterated by a filter. -/
def items (h : Heap) (v : Value) : Outcome (List Value) := v.iterate h

/-! ## Text -/

/-- Upper case of one character, as text. -/
def upperOf (c : Char) : List Char := upperChars c

/-- Lower case of one character, as text. -/
def lowerOf (c : Char) : List Char := lowerChars c

/-- Words capitalised: a letter after ASCII punctuation, a blank or the start goes to upper
case, any other to lower case. -/
def titleList : Bool → List Char → List Char
  | _, [] => []
  | cap, c :: cs =>
    if (c.toNat < 128 && isAsciiPunctuation c) || isBlank c then c :: titleList true cs
    else if cap then upperOf c ++ titleList false cs
    else lowerOf c ++ titleList false cs
where
  /-- ASCII punctuation: the printable ASCII characters that are neither letters, digits nor
  the space. -/
  isAsciiPunctuation (c : Char) : Bool :=
    let n := c.toNat
    (33 ≤ n && n ≤ 47) || (58 ≤ n && n ≤ 64) || (91 ≤ n && n ≤ 96) || (123 ≤ n && n ≤ 126)

/-- The first character in upper case, the rest in lower case as a text of its own (a final
sigma is one that ends a word of that rest). -/
def capitalizeList : List Char → List Char
  | [] => []
  | c :: cs => upperOf c ++ lowerList cs []

/-- HTML escaping of `&`, `<`, `>`, `"`, `'` and `/`. -/
def htmlEscape (s : String) : String :=
  String.join (s.toList.map fun c => match c with
    | '&' => "&amp;"
    | '<' => "&lt;"
    | '>' => "&gt;"
    | '"' => "&quot;"
    | '\'' => "&#x27;"
    | '/' => "&#x2f;"
    | c => c.toString)

/-- The pieces of a text between occurrences of a non-empty `sep`, at most `limit` of them (the
last one holding the rest). -/
def splitBy (sep : List Char) (limit : Option Nat) (cs : List Char) : List (List Char) :=
  go (cs.length + 2) limit cs []
where
  go : Nat → Option Nat → List Char → List Char → List (List Char)
    | 0, _, rest, cur => [cur.reverse ++ rest]
    | fuel + 1, lim, rest, cur =>
      if lim == some 1 then [cur.reverse ++ rest]
      else if !sep.isEmpty && sep.isPrefixOf rest then
        cur.reverse :: go fuel (lim.map (· - 1)) (rest.drop sep.length) []
      else match rest with
        | [] => [cur.reverse]
        | c :: more => go fuel lim more (c :: cur)

/-- Pieces by an empty separator: an empty piece, then one piece per character, then an
empty piece. -/
def splitEmpty (limit : Option Nat) (cs : List Char) : List (List Char) :=
  let full := [] :: cs.map (fun c => [c]) ++ [[]]
  match limit with
  | Option.none => full
  | some 0 => []
  | some n =>
    if full.length ≤ n then full
    else
      let front := full.take (n - 1)
      let rest := (cs.drop (n - 2))
      front ++ [rest]

/-- Pieces between blank runs, at most `n` of them; the last holds the rest of the text. -/
def splitBlankN (n : Nat) (cs : List Char) : List (List Char) :=
  go n (cs.length + 1) (cs.dropWhile isBlank)
where
  go : Nat → Nat → List Char → List (List Char)
    | 0, _, _ => []
    | _, 0, rest => [rest]
    | k + 1, fuel + 1, rest =>
      if rest.isEmpty then []
      else if k == 0 then [rest]
      else
        let word := rest.takeWhile (!isBlank ·)
        word :: go k fuel ((rest.drop word.length).dropWhile isBlank)

/-- The lines of a text: split after each line feed, dropping the line feed and a carriage
return before it; a final line feed does not start another line. -/
def linesOf (cs : List Char) : List (List Char) :=
  let pieces := splitBy ['\n'] Option.none cs
  let pieces := if pieces.getLast? == some [] then pieces.dropLast else pieces
  let n := pieces.length
  pieces.zipIdx.map fun (p, i) =>
    if i + 1 < n || cs.getLast? == some '\n' then
      (if p.getLast? == some '\r' then p.dropLast else p)
    else p

/-- Drops a final line feed, then a final carriage return. -/
def stripNewline (cs : List Char) : List Char :=
  let cs := if cs.getLast? == some '\n' then cs.dropLast else cs
  if cs.getLast? == some '\r' then cs.dropLast else cs

/-- The text of a value to be put into a safe string: a safe string as it is, any other value
escaped. -/
def escapedText (h : Heap) (v : Value) : String :=
  if v.isSafe then text h v else htmlEscape (text h v)

/-- Indents the lines of a text after the first (or all of them), leaving blank lines alone
unless asked. -/
def indentText (s pad : String) (first blank : Bool) : String :=
  let lines := splitBy ['\n'] Option.none (stripNewline s.toList)
  let one (l : List Char) : List Char :=
    (if l.isEmpty then (if blank then pad.toList else []) else pad.toList ++ l) ++ ['\n']
  let body := match lines, first with
    | l :: rest, false => (l ++ ['\n']) ++ rest.flatMap one
    | ls, _ => ls.flatMap one
  String.ofList (stripNewline body)

/-- Whether a character is one of a set given as text. -/
def inSet (set : List Char) (c : Char) : Bool := set.contains c

/-- Reads a 128-bit integer: an optional sign and decimal digits. -/
def readI128? (s : String) : Option Int :=
  let (neg, ds) := match s.toList with
    | '-' :: rest => (true, rest)
    | '+' :: rest => (false, rest)
    | cs => (false, cs)
  if ds.isEmpty || !ds.all Char.isDigit then Option.none
  else
    let n : Int := digitsValue ds
    let i := if neg then -n else n
    if fitsI128 i then some i else Option.none

/-! ## Sorting -/

/-- Compares two values for sorting: strings case-insensitively (ASCII) unless asked. -/
def sortCmp (h : Heap) (caseSensitive : Bool) (a b : Value) : Ordering :=
  match a, b, caseSensitive with
  | .str x _, .str y _, false =>
    compare (String.ofList (x.toList.map Char.toLower)) (String.ofList (y.toList.map Char.toLower))
  | _, _, _ => a.order h b

/-- Stable sort by a comparison. -/
def sortBy {α : Type} (c : α → α → Ordering) (xs : List α) : List α :=
  xs.mergeSort fun a b => c a b != .gt

/-- A comparison, reversed when asked: sorting by it in reverse keeps equal items in their
order. -/
def directed {α : Type} (reverse : Bool) (c : α → α → Ordering) (a b : α) : Ordering :=
  if reverse then c b a else c a b

/-- A path part read as an index: digits after an optional `+`, below `2^64`. -/
def indexPart? (part : String) : Option Nat :=
  let ds := match part.toList with
    | '+' :: rest => rest
    | cs => cs
  if !ds.isEmpty && ds.all Char.isDigit && digitsValue ds < Nat.pow 2 64 then some (digitsValue ds)
  else Option.none

/-- Follows a dotted path of attributes and indices: a part that reads as an index
(`indexPart?`) is an item, any other an attribute. -/
def getPath (h : Heap) (v : Value) (path : String) : Outcome Value :=
  (path.splitOn ".").foldlM (fun cur part =>
    match indexPart? part with
    | some i => cur.getItem h (Value.ofNat i)
    | Option.none => cur.getAttr h part) v

/-- A dotted path, or a default when it fails or is undefined. -/
def getPathOr (h : Heap) (v : Value) (path : String) (d : Value) : Value :=
  match getPath h v path with
  | .ok r => if r.isUndefined then d else r
  | .error _ => d

/-- The first least item. -/
def minimum (h : Heap) : List Value → Value
  | [] => .undefined
  | x :: xs => xs.foldl (fun m y => if y.order h m == .lt then y else m) x

/-- The last greatest item. -/
def maximum (h : Heap) : List Value → Value
  | [] => .undefined
  | x :: xs => xs.foldl (fun m y => if y.order h m == .lt then m else y) x

/-- Consecutive runs of items with equal keys. -/
def runsOf (h : Heap) (cs : Bool) : List (Value × Value) → List (Value × List Value)
  | [] => []
  | (k, x) :: rest =>
    match runsOf h cs rest with
    | (k', ys) :: groups =>
      if sortCmp h cs k k' == .eq then (k', x :: ys) :: groups
      else (k, [x]) :: (k', ys) :: groups
    | [] => [(k, [x])]

/-- Positions of the first item of each run of equal keys, in a list sorted by key. -/
def runStarts (h : Heap) : Option Value → List (Value × Nat) → List Nat
  | _, [] => []
  | prev, (k, i) :: rest =>
    let fresh : Bool := match prev with
      | some p => p.order h k != .eq
      | Option.none => true
    if fresh then i :: runStarts h (some k) rest else runStarts h (some k) rest

/-- The items at the given ascending positions. -/
def keepAt : List Nat → List (Value × Nat) → List Value
  | [], _ => []
  | _, [] => []
  | j :: js, (x, i) :: rest =>
    if i == j then x :: keepAt js rest
    else if i < j then keepAt (j :: js) rest
    else keepAt js ((x, i) :: rest)

/-- Items with the first occurrence of each key, found by a stable sort on the keys. -/
def uniqueBy (h : Heap) (key : Value → Value) (xs : List Value) : List Value :=
  let indexed := xs.zipIdx
  let sorted := sortBy (fun (a b : Value × Nat) => a.1.order h b.1)
    (indexed.map fun (x, i) => (key x, i))
  let starts := (runStarts h Option.none sorted).mergeSort (· ≤ ·)
  keepAt starts indexed

/-- Items in chunks of `n`, the last chunk padded with a filler if given. -/
def chunks (n : Nat) (fill : Option Value) (xs : List Value) : List Value :=
  go (xs.length + 1) xs
where
  go : Nat → List Value → List Value
    | 0, _ => []
    | _, [] => []
    | fuel + 1, ys =>
      let c := ys.take n
      let c := match fill with
        | some f => if c.length < n then c ++ List.replicate (n - c.length) f else c
        | Option.none => c
      .seq c :: go fuel (ys.drop n)

/-- Items in `n` slices of near-equal length, the first ones one longer; slices that are
short get the filler if given. -/
def slices (n : Nat) (fill : Option Value) (xs : List Value) : List Value :=
  go n 0 xs
where
  go : Nat → Nat → List Value → List Value
    | 0, _, _ => []
    | k + 1, i, rest =>
      let per := xs.length / n
      let extra := xs.length % n
      let size := per + (if i < extra then 1 else 0)
      let part := rest.take size
      let part := match fill with
        | some f => if i ≥ extra then part ++ [f] else part
        | Option.none => part
      .seq part :: go k (i + 1) (rest.drop size)

/-- The largest count of items the engine allocates at once; beyond it the allocation
fails. -/
def allocationLimit : Nat := Nat.pow 2 26

/-! ## Pretty printing -/

/-- The multi-line debugging form: each item of a non-empty container on a line of its own,
indented by four spaces per level, followed by a comma. -/
def pretty (h : Heap) : Nat → String → Value → String
  | 0, _, _ => "..."
  | fuel + 1, pad, v =>
    let inner := pad ++ "    "
    let block (opening closing : String) (lines : List String) : String :=
      if lines.isEmpty then opening ++ closing
      else opening ++ "\n" ++ String.join (lines.map fun l => inner ++ l ++ ",\n") ++ pad ++ closing
    match v with
    -- loops and macros print as themselves, not as the maps they also are, and an iterator
    -- of unknown size is not run to print it
    | .object (.loop _) | .object (.userMacro _) | .iterable _ false => v.debug h
    | _ =>
      match v.seqItems? with
      | some xs => block "[" "]" (xs.map (pretty h fuel inner))
      | Option.none =>
        match v.kind, v.entries? h with
        | .map, some es =>
          let entry (e : Value × Value) : String :=
            pretty h fuel inner e.1 ++ ": " ++ pretty h fuel inner e.2
          block "\x7b" "\x7d" (es.map entry)
        | _, _ => v.debug h

/-! ## Tests -/

/-- The names of the tests. -/
def testNames : List String :=
  ["undefined", "defined", "none", "safe", "escaped", "odd", "even", "divisibleby", "number",
   "integer", "int", "float", "string", "sequence", "iterable", "mapping", "startingwith",
   "endingwith", "lower", "upper", "true", "false", "filter", "test", "boolean", "in",
   "sameas", "eq", "equalto", "==", "ne", "!=", "lt", "lessthan", "<", "le", "<=", "gt",
   "greaterthan", ">", "ge", ">="]

/-- The names of the filters. -/
def filterNames : List String :=
  ["safe", "escape", "e", "lower", "upper", "title", "capitalize", "replace", "length", "count",
   "dictsort", "items", "reverse", "trim", "join", "split", "lines", "default", "d", "round",
   "abs", "int", "float", "attr", "first", "last", "min", "max", "sort", "list", "string",
   "bool", "batch", "slice", "sum", "indent", "select", "reject", "selectattr", "rejectattr",
   "map", "groupby", "unique", "pprint", "format", "chain", "zip"]

/-- Whether an integer is a multiple of another; a zero divisor or the overflowing
`i128Min % -1` stop the engine. -/
def divisible (a b : Value) : Outcome Bool :=
  match coerce false a b with
  | some (.ints x y) =>
    if y == 0 || (x == i128Min && y == -1) then .error .panic else .ok (Int.emod x y == 0)
  | some (.floats x y) => .ok (fmod x y == 0.0)
  | _ => .ok false

/-- Whether two values are the same: one object, or two equal plain values of one type (an
integer is never the same as a double or a boolean). Containers that are not objects are never
the same. -/
def sameAs (a b : Value) : Bool :=
  match a, b with
  | .object x, .object y => x == y
  | .undefined, .undefined | .none, .none => true
  | .bool x, .bool y => x == y
  | .int x _, .int y _ => x == y
  | .float x, .float y => x == y
  | .str x _, .str y _ => x == y
  | _, _ => false

/-- Tests that take an argument besides the tested value. -/
def binaryTests : List String :=
  ["divisibleby", "startingwith", "endingwith", "in", "sameas", "eq",
   "equalto", "==", "ne", "!=", "lt", "lessthan", "<", "le", "<=", "gt", "greaterthan", ">",
   "ge", ">="]

/-- Applies a test to its arguments (the tested value first). -/
def applyTest (h : Heap) (name : String) (args : List Value) : Outcome Bool := do
  if !testNames.contains name then throw .error
  if binaryTests.contains name then arity args 2 2 else arity args 1 1
  let a ← required args 0
  let b := args[1]?.getD .undefined
  match name with
  | "undefined" => pure a.isUndefined
  | "defined" => pure !a.isUndefined
  | "none" => pure a.isNone
  | "safe" | "escaped" => pure a.isSafe
  | "odd" => pure (match a.asI128? with
    | some i => Int.emod i 2 != 0
    | Option.none => false)
  | "even" => pure (match a.asI128? with
    | some i => Int.emod i 2 == 0
    | Option.none => false)
  | "divisibleby" => divisible a b
  | "number" => pure (a.kind == .number)
  | "integer" | "int" => pure (match a with
    | .int _ _ => true
    | _ => false)
  | "float" => pure (match a with
    | .float _ => true
    | _ => false)
  | "string" => pure (a.kind == .string)
  | "sequence" => pure (a.kind == .seq)
  | "iterable" => pure (a.iterItems? h).isSome
  | "mapping" => pure (a.kind == .map)
  | "startingwith" => pure ((text h b).toList.isPrefixOf (text h a).toList)
  | "endingwith" => pure ((text h b).toList.isSuffixOf (text h a).toList)
  | "lower" => match a with
    | .str s _ => pure (s.toList.all isLowercase)
    | _ => throw .error
  | "upper" => match a with
    | .str s _ => pure (s.toList.all isUppercase)
    | _ => throw .error
  | "true" => pure (match a with
    | .bool true => true
    | _ => false)
  | "false" => pure (match a with
    | .bool false => true
    | _ => false)
  | "boolean" => pure (match a with
    | .bool _ => true
    | _ => false)
  | "filter" => match a with
    | .str s _ => pure (filterNames.contains s)
    | _ => throw .error
  | "test" => match a with
    | .str s _ => pure (testNames.contains s)
    | _ => throw .error
  | "in" => pure (match Value.contains h b a with
    | .ok r => r
    | .error _ => false)
  | "sameas" => pure (sameAs a b)
  | "eq" | "equalto" | "==" => pure (a.eq h b)
  | "ne" | "!=" => pure !(a.eq h b)
  | "lt" | "lessthan" | "<" => pure (a.order h b == .lt)
  | "le" | "<=" => pure (a.order h b != .gt)
  | "gt" | "greaterthan" | ">" => pure (a.order h b == .gt)
  | _ => pure (a.order h b != .lt)

/-! ## Filters -/

/-- Keeps or drops the items for which a test (or truthiness) holds. -/
def selectItems (h : Heap) (keep : Bool) (attr : Option String) (args : List Value) :
    Outcome Value := do
  let v ← required args 0
  let (test, rest) ← match args.drop (if attr.isSome then 2 else 1) with
    | [] => pure (Option.none, [])
    | t :: rest => match given (some t) with
      | Option.none => pure (Option.none, rest)
      | some t => pure (some (text h t), rest)
  if let some t := test then
    if !testNames.contains t then throw .error
  let xs ← items h v
  let kept ← xs.filterM fun x => do
    let subject ← match attr with
      | some a => getPath h x a
      | Option.none => pure x
    let passed ← match test with
      | some t => applyTest h t (subject :: rest)
      | Option.none => pure (subject.truthy h)
    pure (passed == keep)
  pure (.seq kept)

/-- `dictsort`: the entries of a map as pairs, sorted by key or by value. -/
def dictsort (h : Heap) (args : List Value) : Outcome Value := do
  let (pos, kw) := splitKwargs args
  arity pos 1 1
  let v ← required pos 0
  if v.kind != .map then throw .error
  -- only "value" sorts by value; any other text sorts by key
  let byValue := (← optStr (kwarg? kw "by")) == some "value"
  let cs := (← optBool (kwarg? kw "case_sensitive")).getD false
  let rev := (← optBool (kwarg? kw "reverse")).getD false
  knownKwargs kw ["by", "case_sensitive", "reverse"]
  let es := (v.entries? h).getD []
  let sorted := sortBy (directed rev fun (a b : Value × Value) =>
    if byValue then sortCmp h cs a.2 b.2 else sortCmp h cs a.1 b.1) es
  pure (.seq (sorted.map fun (k, x) => .seq [k, x]))

/-- The attribute paths of a comma-separated list: the non-empty parts, each then trimmed (so a
part of blanks becomes an empty path). -/
def attributePaths (attr : String) : List String :=
  ((attr.splitOn ",").filter (!·.isEmpty)).map trimBlank

/-- The sort key of an item for several attribute paths: the list of their values, undefined
where a path cannot be followed. -/
def pathsKey (h : Heap) (x : Value) (paths : List String) : Value :=
  .seq (paths.map fun p => getPathOr h x p .undefined)

/-- `sort`: the items sorted, optionally by one attribute path or by several
(`attributePaths`). -/
def sortFilter (h : Heap) (args : List Value) : Outcome Value := do
  let (pos, kw) := splitKwargs args
  arity pos 1 1
  let xs ← items h (← required pos 0)
  let cs := (← optBool (kwarg? kw "case_sensitive")).getD false
  let attr ← optStr (kwarg? kw "attribute")
  let rev := (← optBool (kwarg? kw "reverse")).getD false
  knownKwargs kw ["reverse", "case_sensitive", "attribute"]
  pure (.seq (match attr.map attributePaths with
    | some [p] => sortBy (directed rev fun x y => match getPath h x p, getPath h y p with
        | .ok a, .ok b => sortCmp h cs a b
        | _, _ => .eq) xs
    -- several paths compare lists of values, in which text keeps its case
    | some ps => sortBy (directed rev fun x y => sortCmp h cs (pathsKey h x ps) (pathsKey h y ps)) xs
    | Option.none => sortBy (directed rev (sortCmp h cs)) xs))

/-- `groupby`: items sorted by an attribute path and grouped by equal keys. -/
def groupby (h : Heap) (args : List Value) : Outcome Value := do
  let (pos, kw) := splitKwargs args
  arity pos 1 2
  let v ← required pos 0
  let d := (kwarg? kw "default").getD .undefined
  let cs := (← optBool (kwarg? kw "case_sensitive")).getD false
  let attr ← match ← optStr (arg? pos 1) with
    | some a => pure a
    | Option.none => match kw.lookup "attribute" with
      | some (.str a _) => pure a
      | _ => throw .error
  let xs ← items h v
  let keyed := sortBy (fun (a b : Value × Value) => sortCmp h cs a.1 b.1)
    (xs.map fun x => (getPathOr h x attr d, x))
  knownKwargs kw ["default", "case_sensitive", "attribute"]
  pure (.seq ((runsOf h cs keyed).map fun (k, ys) => .group k ys))

/-- `unique`: items whose key (an attribute path, or the item) was not seen before. -/
def unique (h : Heap) (args : List Value) : Outcome Value := do
  let (pos, kw) := splitKwargs args
  arity pos 1 1
  let attr ← optStr (kwarg? kw "attribute")
  let cs := (← optBool (kwarg? kw "case_sensitive")).getD false
  knownKwargs kw ["attribute", "case_sensitive"]
  let xs ← items h (← required pos 0)
  let key (x : Value) : Value :=
    let k := match attr with
      | some a => getPathOr h x a .undefined
      | Option.none => x
    match k, cs with
    | .str s _, false => Value.ofString (toLowerText s)
    | k, _ => k
  pure (.seq (uniqueBy h key xs))

/-- `map` with `attribute=`: the attribute path of each item, or a default. -/
def mapAttr (h : Heap) (xs : List Value) (attr : Value) (d : Value) : Outcome Value := do
  let ys ← xs.mapM fun x => do
    let r := match attr with
      | .str p _ => getPath h x p
      | a => x.getItem h a
    match r with
    | .ok r => pure (if r.isUndefined then d else r)
    | .error e => if d.isUndefined then throw e else pure d
  pure (.seq ys)

/-- `split`: the pieces of a string by a separator, or by blank runs, at most `maxsplits + 1` of
them, as a sequence; the pieces of a safe string are safe. -/
def split (args : List Value) : Outcome Value := do
  arity args 1 3
  let (s, safe) ← match ← required args 0 with
    | .str s safe => pure (s, safe)
    | _ => throw .error
  let sep ← optStr (arg? args 1)
  let maxsplits ← match arg? args 2 with
    | Option.none => pure Option.none
    | some m => match m.asI64? with
      | some i => pure (if i ≥ 0 then some (i.toNat + 1) else Option.none)
      | Option.none => throw .error
  let pieces := match sep, maxsplits with
    | Option.none, Option.none => (blankWords s).map String.toList
    | Option.none, some n => splitBlankN n s.toList
    | some p, lim => if p.isEmpty then splitEmpty lim s.toList else splitBy p.toList lim s.toList
  pure (.seq (pieces.map fun p => .str (String.ofList p) safe))

/-- `x ^ n` by repeated squaring: the running square is multiplied in at each set bit of `n`,
from the lowest, and squared only while bits remain. This is how compiled code raises a double
to an integer power, and its rounding differs from the correctly rounded power. -/
def powBySquaring (x : Float) (n : Nat) : Float :=
  go 64 x n 1.0
where
  go : Nat → Float → Nat → Float → Float
    | 0, _, _, r => r
    | fuel + 1, a, n, r =>
      let r := if n % 2 == 1 then r * a else r
      if n / 2 == 0 then r else go fuel (a * a) (n / 2) r

/-- `10 ^ p` for a 32-bit exponent, as `round` scales by it: a negative power is the
reciprocal of the positive one. -/
def decimalScale (p : Int) : Float :=
  let r := powBySquaring 10.0 p.natAbs
  if p < 0 then 1.0 / r else r

/-- `round`: integers unchanged, doubles to a number of decimals (half away from zero) by
scaling with `decimalScale`, rounding and scaling back. -/
def round (args : List Value) : Outcome Value := do
  arity args 1 2
  let v ← required args 0
  let p ← match arg? args 1 with
    | Option.none => pure 0
    | some p => match p.toIntIn? (-(Int.pow 2 31), Int.pow 2 31 - 1) with
      | some i => pure i
      | Option.none => throw .error
  match v with
  | .int _ _ => pure v
  | .float x =>
    let scale := decimalScale p
    pure (.float ((x * scale).round / scale))
  | _ => throw .error

/-- Entries merged by key: the first appearance of a key fixes its place, the last its
value. -/
def mergeEntries (h : Heap) (es : List (Value × Value)) : List (Value × Value) :=
  es.foldl (fun acc (k, v) =>
    if (Value.lookup h k acc).isSome then
      acc.map fun (k', v') => if Value.order h k k' == .eq then (k', v) else (k', v')
    else acc ++ [(k, v)]) []

/-- `chain`: maps merge into one map (`mergeEntries`), sequences join into one sequence, and
anything else joins into an iterator of the items of each; a value that cannot be iterated
puts the error into the iterator as an item. -/
def chain (h : Heap) (args : List Value) : Outcome Value := do
  if args.isEmpty then throw .error
  if args.all (·.kind == .map) then
    return .map (mergeEntries h (args.flatMap fun v => (v.entries? h).getD []))
  if args.all (·.kind == .seq) then
    return .seq (args.flatMap fun v => v.seqItems?.getD [])
  let part (v : Value) : List Value := match v.iterItems? h with
    | some xs => xs
    | Option.none => [.invalid ("invalid operation: " ++ v.kind.name ++ " is not iterable")]
  return .iterable (args.flatMap part) false

/-- `zip`: for each position, the list of the items there in each argument, as many as the
shortest argument has. -/
def zip (h : Heap) (args : List Value) : Outcome Value := do
  let lists ← args.mapM fun v => do return (← items h v).toArray
  let n := (lists.map Array.size).min?.getD 0
  return .iterable ((List.range n).map fun i => .seq (lists.map fun a => a.getD i .undefined))
    false

/-- `abs`. -/
def abs (args : List Value) : Outcome Value := do
  arity args 1 1
  match ← required args 0 with
  | .int i .u64 => pure (.int i .u64)
  | .int i .u128 => pure (.int i .u128)
  | .int i .i64 => pure (Value.ofI128 i.natAbs)
  | .int i _ => if i == i128Min then throw .error else pure (Value.ofI128 i.natAbs)
  | .float x => pure (.float x.abs)
  | _ => throw .error

/-- `int`: none and undefined are zero, doubles truncate (saturating), strings are read as
integers or else as doubles. -/
def toInt (args : List Value) : Outcome Value := do
  arity args 1 1
  match ← required args 0 with
  | .undefined | .none => pure (.int 0 .i64)
  | .bool b => pure (.int (if b then 1 else 0) .u64)
  | .int i w => pure (.int i w)
  | .float x => pure (.int (Float.toI128 x) .i128)
  | .str s _ => match readI128? s with
    | some i => pure (.int i .i128)
    | Option.none => match readF64? s with
      | some x => pure (.int (Float.toI128 x) .i128)
      | Option.none => throw .error
  | _ => throw .error

/-- `float`. -/
def toFloat (args : List Value) : Outcome Value := do
  arity args 1 1
  match ← required args 0 with
  | .undefined | .none => pure (.float 0.0)
  | .bool b => pure (.float (if b then 1.0 else 0.0))
  | .str s _ => match readF64? s with
    | some x => pure (.float x)
    | Option.none => throw .error
  | v => match v.asDouble? true with
    | some x => pure (.float x)
    | Option.none => throw .error

/-- `reverse`: strings by character, containers by item (maps by key). -/
def reverse (h : Heap) (args : List Value) : Outcome Value := do
  arity args 1 1
  match ← required args 0 with
  | .undefined => pure .undefined
  | .none => pure .none
  | .str s safe => pure (.str (String.ofList s.toList.reverse) safe)
  | v => match v.iterItems? h with
    | some xs => if v.kind == .plain then throw .error else pure (.iterable xs.reverse true)
    | Option.none => throw .error

/-- `join`: the printed items with a separator between them. When escaping is on and the
separator or an item is a safe string, the result is safe and the other parts are escaped. -/
def join (h : Heap) (escaping : Bool) (args : List Value) : Outcome Value := do
  arity args 1 2
  let v ← required args 0
  let sep := (arg? args 1).getD (Value.ofString "")
  let xs ← match v with
    | .undefined | .none => pure []
    | .str s _ => pure (Value.charValues s)
    | _ => match v.iterItems? h with
      | some xs => pure xs
      | Option.none => throw .error
  if escaping && (sep.isSafe || xs.any Value.isSafe) then
    pure (.str ((escapedText h sep).intercalate (xs.map (escapedText h))) true)
  else pure (Value.ofString ((text h sep).intercalate (xs.map (text h))))

/-- `sum`: the sum of numeric items; undefined items are skipped. -/
def sum (h : Heap) (args : List Value) : Outcome Value := do
  arity args 1 1
  let xs ← items h (← required args 0)
  xs.foldlM (fun acc x =>
    if x.isUndefined then pure acc
    else if x.kind != .number then throw .error
    else acc.add x) (.int 0 .i64)

/-- `indent`: lines after the first (or all of them, with `first`) prefixed by `width` spaces,
four by default; blank lines too with `blank`. The arguments may also be given by name. A safe
string stays safe. -/
def indent (h : Heap) (args : List Value) : Outcome Value := do
  let (pos, kw) := splitKwargs args
  arity pos 1 4
  knownKwargs kw ["width", "first", "blank"]
  let v ← required pos 0
  let setting (i : Nat) (name : String) : Option Value :=
    (arg? pos i).orElse fun _ => kwarg? kw name
  let width ← match setting 1 "width" with
    | some w => count w
    | Option.none => pure 4
  if width > allocationLimit then throw .panic
  let first := (← optBool (setting 2 "first")).getD false
  let blank := (← optBool (setting 3 "blank")).getD false
  pure (.str (indentText (text h v) (String.ofList (List.replicate width ' ')) first blank)
    v.isSafe)

/-- `trim`: blanks, or the given characters, removed from both ends. -/
def trim (h : Heap) (args : List Value) : Outcome Value := do
  arity args 1 2
  let v ← required args 0
  let s := text h v
  match arg? args 1 with
  | Option.none => pure (.str (trimBlank s) v.isSafe)
  | some set =>
    let set := (text h set).toList
    let cs := ((s.toList.dropWhile (inSet set)).reverse.dropWhile (inSet set)).reverse
    pure (.str (String.ofList cs) v.isSafe)

/-- `first`: the first character or item. -/
def first (h : Heap) (args : List Value) : Outcome Value := do
  arity args 1 1
  match ← required args 0 with
  | .str s _ => pure (match s.toList with
    | c :: _ => Value.ofString c.toString
    | [] => .undefined)
  | v =>
    if v.kind == .map || v.kind == .seq || v.kind == .iterable then
      pure (match v.iterItems? h with
        | some (x :: _) => x
        | _ => .undefined)
    else throw .error

/-- `last`: the last character or item of a string or sequence. -/
def last (args : List Value) : Outcome Value := do
  arity args 1 1
  match ← required args 0 with
  | .str s safe => pure (match s.toList.getLast? with
    | some c => .str c.toString safe
    | Option.none => .undefined)
  | v => match v.seqItems? with
    | some xs => pure (xs.getLast?.getD .undefined)
    | Option.none => throw .error

/-- `items`: the entries of a map as pairs. -/
def entries (h : Heap) (args : List Value) : Outcome Value := do
  arity args 1 1
  let v ← required args 0
  if v.kind != .map then throw .error
  pure (.iterable (((v.entries? h).getD []).map fun (k, x) => .seq [k, x]) true)

/-- `batch` and `slice`: the count argument and the optional filler. -/
def countAndFill (args : List Value) : Outcome (Nat × Option Value) := do
  arity args 2 3
  let n ← count (← required args 1)
  pure (n, arg? args 2)

/-- `replace`: every occurrence of a text replaced, an empty pattern matching between
characters. When escaping is on and one of the three is a safe string, the result is safe: the
text and the replacement are escaped first unless safe (the pattern is matched as it is). -/
def replace (h : Heap) (escaping : Bool) (args : List Value) : Outcome Value := do
  arity args 3 3
  let v ← required args 0
  let p ← required args 1
  let pat := (text h p).toList
  let r ← required args 2
  let marked := escaping && (v.isSafe || p.isSafe || r.isSafe)
  let textOf (x : Value) : List Char := (if marked then escapedText h x else text h x).toList
  let s := textOf v
  let rep := textOf r
  let out := if pat.isEmpty then rep ++ s.flatMap (fun c => c :: rep) else replaceList pat rep s
  pure (.str (String.ofList out) marked)

/-- Applies a filter to its arguments (the filtered value first); `escaping` tells whether output
is being escaped. `fuel` bounds filters that apply other filters. -/
def applyFilter (h : Heap) (escaping : Bool) : Nat → String → List Value → Outcome Value
  | 0, _, _ => .error .error
  | fuel + 1, name, args => do
    let one : Outcome Value := do arity args 1 1; required args 0
    match name with
    | "safe" => return .str (text h (← one)) true
    | "escape" | "e" =>
      let v ← one
      return if v.isSafe then v else .str (htmlEscape (text h v)) true
    | "lower" => let v ← one; return .str (toLowerText (text h v)) v.isSafe
    | "upper" => let v ← one; return .str (toUpperText (text h v)) v.isSafe
    | "title" => return Value.ofString (String.ofList (titleList true (text h (← one)).toList))
    | "capitalize" =>
      let v ← one
      return .str (String.ofList (capitalizeList (text h v).toList)) v.isSafe
    | "replace" => replace h escaping args
    | "length" | "count" => match (← one).length? h with
      | some n => return Value.ofNat n
      | Option.none => throw .error
    | "dictsort" => dictsort h args
    | "items" => entries h args
    | "reverse" => reverse h args
    | "trim" => trim h args
    | "join" => join h escaping args
    | "split" => split args
    | "lines" =>
      let v ← one
      return .seq ((linesOf (text h v).toList).map fun l => .str (String.ofList l) v.isSafe)
    | "default" | "d" =>
      arity args 1 3
      let v ← required args 0
      -- any value may ask for the lax mode, by being true
      let lax := (args[2]?.map (·.truthy h)).getD false
      return if v.isUndefined || (lax && !v.truthy h) then (arg? args 1).getD (Value.ofString "")
        else v
    | "round" => round args
    | "abs" => abs args
    | "int" => toInt args
    | "float" => toFloat args
    | "attr" =>
      arity args 2 2
      (← required args 0).getItem h (← required args 1)
    | "first" => first h args
    | "last" => last args
    | "min" => return minimum h (← items h (← one))
    | "max" => return maximum h (← items h (← one))
    | "sort" => sortFilter h args
    | "list" => return .seq (← items h (← one))
    | "string" => return match ← one with
      | .str s safe => .str s safe
      | v => Value.ofString (v.display h)
    | "bool" => return .bool ((← one).truthy h)
    | "batch" =>
      let (n, fill) ← countAndFill args
      if n == 0 || n > allocationLimit then throw .panic
      return .seq (chunks n fill (← items h (← required args 0)))
    | "slice" =>
      let (n, fill) ← countAndFill args
      let xs ← items h (← required args 0)
      if n == 0 || n > allocationLimit then throw .panic
      return .seq (slices n fill xs)
    | "sum" => sum h args
    | "indent" => indent h args
    | "select" => selectItems h true Option.none args
    | "reject" => selectItems h false Option.none args
    | "selectattr" | "rejectattr" =>
      let a := text h (← required args 1)
      selectItems h (name == "selectattr") (some a) args
    | "map" =>
      let v ← required args 0
      let (pos, kw) := splitKwargs (args.drop 1)
      match kwarg? kw "attribute" with
      | some a =>
        if !pos.isEmpty then throw .error
        let d := (kw.lookup "default").getD .undefined
        knownKwargs kw ["attribute", "default"]
        mapAttr h (← items h v) a d
      | Option.none =>
        match pos with
        | .str f _ :: rest =>
          if !filterNames.contains f then throw .error
          let xs ← items h v
          return .seq (← xs.mapM fun x => applyFilter h escaping fuel f (x :: rest))
        | _ => throw .error
    | "groupby" => groupby h args
    | "unique" => unique h args
    | "pprint" => return Value.ofString (pretty h Value.depthLimit "" (← one))
    | "format" =>
      match args with
      | .str f safe :: rest =>
        -- a safe format takes the escaped text of each argument that is not safe itself
        let rest := if safe then rest.map fun v => .str (escapedText h v) true else rest
        return .str (← Printf.format h (text h) f rest) safe
      | _ => throw .error
    | "chain" => chain h args
    | "zip" => zip h args
    | _ => throw .error

end Builtin

end MetricLayer.Template
