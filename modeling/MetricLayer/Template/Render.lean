import MetricLayer.Template.Builtins
import MetricLayer.Template.Parser
/-!
# Rendering templates

`render` runs the statements of a template against a context of named values and returns the
text it writes. Names resolve innermost first: the frames of enclosing `for`, `with` and
`block` statements, then the context, then the global functions `range`, `dict`, `namespace`
and `debug`; anything else is undefined, and printing an undefined value writes nothing.

Assignments go to the innermost frame. A `for` loop has one frame for all its iterations, so a
value set in one iteration is seen by the next but not after the loop. Filter and capture
blocks add no frame.

A macro sees its own arguments and the closure of the frame it was defined in, and nothing
else of the template's context: the values of the names it uses as they were at its
definition, updated by every later assignment in that frame. So a macro sees later assignments of its defining frame, itself included. Missing
arguments take their defaults, evaluated at call time from the last parameter to the first.

Frames nest at most `frameLimit` deep; deeper recursion is an error.
-/

namespace MetricLayer.Template

/-- A macro: its parameters, the defaults of the last ones, its body, and its closure. -/
structure MacroDef where
  name : String
  params : List String
  defaults : List Expr
  body : List Stmt
  /-- The closure it reads free names from. -/
  closure : Nat
  /-- Whether the body uses `caller`, which is then accepted as a keyword argument. -/
  usesCaller : Bool
  deriving Inhabited

/-- The names assigned in one scope, and the closure that mirrors them once a macro was
defined in the scope. -/
structure Frame where
  vars : List (String × Value)
  closure : Option Nat
  deriving Inhabited

/-- The state of a render. -/
structure World where
  heap : Heap
  closures : Array (List (String × Value))
  macros : Array MacroDef
  /-- For each loop, its target and body when it is recursive. -/
  recursiveLoops : Array (Option (Target × List Stmt))
  /-- Frames, innermost first. -/
  frames : List Frame
  context : List (String × Value)
  out : String
  /-- Whether printed values are HTML-escaped. -/
  html : Bool
  /-- Number of frames entered, macros included. -/
  depth : Nat
  /-- The block being rendered, if any. -/
  block : Option String
  deriving Inhabited

/-- A rendering step. -/
abbrev Render := StateT World Outcome

/-- The deepest nesting of frames. -/
def frameLimit : Nat := 500

/-- The global functions. -/
def globalNames : List String := ["range", "dict", "namespace", "debug"]

/-- Replaces the value of a name, or adds it. -/
def assignField (k : String) (v : Value) : List (String × Value) → List (String × Value)
  | [] => [(k, v)]
  | (k', v') :: rest => if k == k' then (k, v) :: rest else (k', v') :: assignField k v rest

/-- The names an expression reads, to a nesting depth. -/
def Expr.names : Nat → Expr → List String
  | 0, _ => []
  | n + 1, e =>
    let opt (o : Option Expr) : List String := (o.map (Expr.names n)).getD []
    let args (xs : List (ArgKind × Expr)) : List String := xs.flatMap fun (_, a) => Expr.names n a
    match e with
    | .var x => [x]
    | .lit _ => []
    | .list xs => xs.flatMap (Expr.names n)
    | .map es => es.flatMap fun (k, v) => Expr.names n k ++ Expr.names n v
    | .attr a _ => Expr.names n a
    | .item a k => Expr.names n a ++ Expr.names n k
    | .slice a s t u => Expr.names n a ++ opt s ++ opt t ++ opt u
    | .neg a | .not a => Expr.names n a
    | .bin _ l r | .and l r | .or l r => Expr.names n l ++ Expr.names n r
    | .compare f rest => Expr.names n f ++ rest.flatMap fun (_, a) => Expr.names n a
    | .cond t y no => Expr.names n t ++ Expr.names n y ++ opt no
    | .filter _ a xs => Expr.names n a ++ args xs
    | .test _ a xs _ => Expr.names n a ++ args xs
    | .call f xs => Expr.names n f ++ args xs

/-- The names an assignment target reads. -/
def Target.names : Nat → Target → List String
  | 0, _ => []
  | n + 1, t => match t with
    | .name _ => []
    | .attr b _ => Expr.names n b
    | .tuple ts => ts.flatMap (Target.names n)

/-- The names statements read, to a nesting depth. -/
def Stmt.names : Nat → List Stmt → List String
  | 0, _ => []
  | n + 1, ss => ss.flatMap fun s =>
    let filters (fs : List FilterCall) : List String :=
      fs.flatMap fun f => f.args.flatMap fun (_, a) => Expr.names n a
    match s with
    | .text _ => []
    | .emit e | .set _ e | .extends e | .importing e | .doCall e | .include e _ => Expr.names n e
    | .cond t yes no => Expr.names n t ++ Stmt.names n yes ++ Stmt.names n no
    | .loop t it g _ body orElse =>
      Target.names n t ++ Expr.names n it ++ (g.map (Expr.names n)).getD [] ++
        Stmt.names n body ++ Stmt.names n orElse
    | .with binds body =>
      binds.flatMap (fun (t, e) => Target.names n t ++ Expr.names n e) ++ Stmt.names n body
    | .setBlock t fs body => Target.names n t ++ filters fs ++ Stmt.names n body
    | .filterBlock fs body => filters fs ++ Stmt.names n body
    | .autoEscape m body => Expr.names n m ++ Stmt.names n body
    | .block _ body => Stmt.names n body
    | .macroDef _ _ ds body => ds.flatMap (Expr.names n) ++ Stmt.names n body
    | .callBlock c _ ds body => Expr.names n c ++ ds.flatMap (Expr.names n) ++ Stmt.names n body

/-- How deep name collection looks into a macro. -/
def nameDepth : Nat := 10000

/-- The value of a literal. -/
def Lit.value : Lit → Value
  | .none => .none
  | .bool b => .bool b
  | .int n => Value.ofLiteral n
  | .float x => .float x
  | .str s => .str s false

namespace World

/-- The value of a name: innermost frame first, then the context, then the globals. -/
def lookup (w : World) (name : String) : Value :=
  match w.frames.findSome? (fun f => f.vars.lookup name) with
  | some v => v
  | none => match w.context.lookup name with
    | some v => v
    | none => if globalNames.contains name then .object (.function name) else .undefined

/-- Assigns a name in the innermost frame and in that frame's closure. -/
def setVar (w : World) (name : String) (v : Value) : World :=
  match w.frames with
  | f :: rest =>
    let closures := match f.closure with
      | some c => w.closures.set! c (assignField name v (w.closures.getD c []))
      | none => w.closures
    { w with frames := { f with vars := assignField name v f.vars } :: rest, closures }
  | [] => w

/-- The printed form of a value, HTML-escaped when escaping is on and the value is not a safe
string or a number. -/
def shown (w : World) (v : Value) : String :=
  if !w.html then v.display w.heap
  else match v with
    | .str s safe => if safe then s else Builtin.htmlEscape s
    | .bool _ | .int _ _ | .float _ | .none | .undefined => v.display w.heap
    | _ => Builtin.htmlEscape (v.display w.heap)

end World

/-- Runs a computation that may fail. -/
def liftOutcome {α : Type} (x : Outcome α) : Render α := StateT.lift x

/-- Writes text. -/
def emitText (s : String) : Render Unit := modify fun w => { w with out := w.out ++ s }

/-- Writes a value; an error held as a value fails instead. -/
def emitValue (v : Value) : Render Unit := do
  if let .invalid _ := v then throw .error
  modify fun w => { w with out := w.out ++ w.shown v }

/-- Enters a new frame. -/
def pushFrame : Render Unit := do
  let w ← get
  if w.depth + 1 > frameLimit then throw .error
  set { w with frames := (⟨[], none⟩ : Frame) :: w.frames, depth := w.depth + 1 }

/-- Leaves the innermost frame. -/
def popFrame : Render Unit :=
  modify fun w => { w with frames := w.frames.drop 1, depth := w.depth - 1 }

/-- The text a computation writes, instead of writing it. -/
def capture (run : Render Unit) : Render String := do
  let saved := (← get).out
  modify fun w => { w with out := "" }
  run
  let w ← get
  set { w with out := saved }
  return w.out

/-- Captured text as a value: safe when escaping is on. -/
def capturedValue (s : String) : Render Value := do
  return .str s (← get).html

/-- Defines a macro in the innermost frame's closure, capturing the current values of the
names it reads; returns its id. -/
def defineMacro (name : String) (params : List String) (defaults : List Expr)
    (body : List Stmt) : Render Nat := do
  let w ← get
  let (c, w) := match w.frames with
    | f :: rest => match f.closure with
      | some c => (c, w)
      | none =>
        let c := w.closures.size
        (c, { w with closures := w.closures.push [],
                     frames := { f with closure := some c } :: rest })
    | [] => (0, w)
  let read := Stmt.names nameDepth body ++ defaults.flatMap (Expr.names nameDepth)
  let captured := read.foldl (fun acc n =>
    if (acc.lookup n).isSome then acc else acc ++ [(n, w.lookup n)]) (w.closures.getD c [])
  let id := w.macros.size
  let m : MacroDef := ⟨name, params, defaults, body, c, read.contains "caller"⟩
  let shape : MacroShape := ⟨name, params, m.usesCaller⟩
  set { w with closures := w.closures.set! c captured, macros := w.macros.push m,
               heap := { w.heap with macros := w.heap.macros.push shape } }
  return id

/-- Starts the state of a loop over `items`, of which the loop knows there are `length` (if it
knows); returns its id. -/
def startLoop (items : List Value) (length : Option Nat) (depth : Nat)
    (recursive : Option (Target × List Stmt)) : Render Nat := do
  let w ← get
  let id := w.heap.loops.size
  let s : LoopState := ⟨0, length, depth, .undefined, (items[1]?).getD .undefined, none⟩
  set { w with heap := { w.heap with loops := w.heap.loops.push s },
               recursiveLoops := w.recursiveLoops.push recursive }
  return id

/-- Moves a loop to its `i`-th item, between the items `prev` and `next`. -/
def moveLoop (id i : Nat) (prev next : Value) : Render Unit :=
  modify fun w =>
    let s := w.heap.loop id
    { w with heap := w.heap.setLoop id { s with index := i, prev, next } }

/-- Each item with its position and its neighbours (undefined beyond the ends). -/
def withNeighbours (items : List Value) : List (Value × Value × Value × Nat) :=
  let prevs := Value.undefined :: items
  let nexts := items.drop 1 ++ [Value.undefined]
  ((prevs.zip (items.zip nexts)).zipIdx).map fun ((p, x, n), i) => (p, x, n, i)

/-- The most numbers a range holds. -/
def rangeLimit : Nat := 100000

/-- `range(stop)`, `range(start, stop)`, `range(start, stop, step)` over 64-bit signed numbers:
from `start` by `step` while below `stop` (above it, for a negative step), at most
`rangeLimit` of them. A negative step stops the engine when it has no 64-bit negation, or when
the distance it walks does not fit 64 signed bits. -/
def rangeValues (args : List Value) : Outcome Value := do
  Builtin.arity args 1 3
  let num (v : Value) : Outcome Int := match v.asI64? with
    | some i => .ok i
    | none => .error .error
  let a ← num (← Builtin.required args 0)
  let (lo, hi) ← match args[1]? with
    | some b => do pure (a, ← num b)
    | none => pure (0, a)
  let step ← match args[2]? with
    | some s => num s
    | none => pure 1
  if step == 0 then throw .error
  if step < 0 && (step == -(Int.pow 2 63) || (hi < lo && !fitsI64 (lo - hi))) then throw .panic
  let count : Nat :=
    if step > 0 then (if lo < hi then ((hi - lo + step - 1) / step).toNat else 0)
    else if hi < lo then ((lo - hi + (-step) - 1) / (-step)).toNat else 0
  if count > rangeLimit then throw .error
  return .iterable ((List.range count).map fun i => .int (lo + Int.ofNat i * step) .i64) true

/-- `dict(map, key=value, ...)`; keys spread from a map keep their kind. -/
def dictValue (h : Heap) (args : List Value) : Outcome Value := do
  let (pos, kw) := match args.getLast? with
    | some (.kwargs es) => (args.dropLast, es)
    | _ => (args, [])
  Builtin.arity pos 0 1
  let base ← match Builtin.arg? pos 0 with
    | none => pure []
    | some v => match v.kind, v.entries? h with
      | .map, some es => pure es
      | _, _ => throw .error
  let base := mapOfList h base
  return .map (kw.foldl (fun m (k, x) => mapInsert h k x m) base)

/-- The names in scope besides the globals, sorted, with their values. -/
def World.visible (w : World) : List (String × Value) :=
  let names := (w.frames.flatMap fun f => f.vars.map (·.1)) ++ w.context.map (·.1)
  let names := names.foldl (fun acc n => if acc.contains n then acc else acc ++ [n]) []
  (names.mergeSort fun a b => decide (a ≤ b)).map fun n => (n, w.lookup n)

/-- The multi-line listing of names, one per line and indented under `pad`. -/
def nameList (pad : String) (names : List String) : String :=
  if names.isEmpty then "[]"
  else
    let line (n : String) : String := pad ++ "    " ++ Text.debugQuote n ++ ",\n"
    "[\n" ++ String.join (names.map line) ++ pad ++ "]"

/-- The multi-line description of a render's state that `debug()` returns: the template's
name, the current block, the escaping mode, the names in scope and what the environment
offers. -/
def World.describe (w : World) : String :=
  let h := w.heap
  let scope : Value := .map (w.visible.map fun (k, v) => (Value.ofString k, v))
  let block := match w.block with
    | some b => "Some(\n        " ++ Text.debugQuote b ++ ",\n    )"
    | none => "None"
  let sorted (xs : List String) : List String := xs.mergeSort fun a b => decide (a ≤ b)
  let globals := String.join ((sorted globalNames).map fun g =>
    "            " ++ Text.debugQuote g ++ ": " ++ Value.functionPath ++ g ++ ",\n")
  "State \x7b\n" ++
  "    name: \"<string>\",\n" ++
  "    current_block: " ++ block ++ ",\n" ++
  "    auto_escape: " ++ (if w.html then "Html" else "None") ++ ",\n" ++
  "    ctx: " ++ Builtin.pretty h Value.depthLimit "    " scope ++ ",\n" ++
  "    env: Environment \x7b\n" ++
  "        globals: \x7b\n" ++ globals ++ "        \x7d,\n" ++
  "        tests: " ++ nameList "        " (sorted Builtin.testNames) ++ ",\n" ++
  "        filters: " ++ nameList "        " (sorted Builtin.filterNames) ++ ",\n" ++
  "        templates: [],\n" ++
  "    \x7d,\n" ++
  "\x7d"

/-- `debug(...)`: the state without arguments, else the multi-line debugging form of the one
argument or of the list of them. -/
def debugValue (w : World) (args : List Value) : Value :=
  match args with
  | [] => Value.ofString w.describe
  | [v] => Value.ofString (Builtin.pretty w.heap Value.depthLimit "" v)
  | vs => Value.ofString (Builtin.pretty w.heap Value.depthLimit "" (.seq vs))

/-- The escaping an `autoescape` tag asks for: `"html"` and `"none"` by name, any other
value by whether it equals `true`; other strings are errors. -/
def escapeMode (h : Heap) : Value → Outcome Bool
  | .str "html" _ => .ok true
  | .str "none" _ => .ok false
  | .str _ _ => .error .error
  | v => .ok (v.eq h (.bool true))

/-- The template names an `include` tries: the items of a sequence or map, or the value
itself; each must be a string. -/
def includeNames (h : Heap) (v : Value) : Outcome (List String) :=
  let choices : List Value := match v.seqItems?, v.entries? h with
    | some xs, _ => xs
    | none, some es => es.map fun e => e.1
    | none, none => [v]
  choices.mapM fun (c : Value) => match c with
    | .str s _ => .ok s
    | _ => .error .error

/-- Applies a chain of filters. -/
def applyFilters (h : Heap) (escaping : Bool) (v : Value) (fs : List (String × List Value)) :
    Outcome Value :=
  fs.foldlM (fun acc (name, args) => Builtin.applyFilter h escaping 16 name (acc :: args)) v

/-- `loop.cycle(...)` and `loop.changed(...)`. -/
def loopMethod : Nat → String → List Value → Render Value
  | id, "cycle", args => do
    let s := (← get).heap.loop id
    if args.isEmpty then throw .panic
    return (args[s.index % args.length]?).getD .undefined
  | id, "changed", args => do
    let w ← get
    let s := w.heap.loop id
    let same := match s.lastChanged with
      | some prev => (Value.seq prev).eq w.heap (.seq args)
      | none => false
    if same then return .bool false
    set { w with heap := w.heap.setLoop id { s with lastChanged := some args } }
    return .bool true
  | _, _, _ => throw .error

mutual

/-- Evaluates an expression. -/
def eval : Nat → Expr → Render Value
  | 0, _ => throw .error
  | fuel + 1, e => match e with
    | .var n => return (← get).lookup n
    | .lit l => return l.value
    | .list xs => return .seq (← xs.mapM (eval fuel))
    | .map es => do
      let kvs ← es.mapM fun (k, v) => do return (← eval fuel k, ← eval fuel v)
      return .map (mapOfList (← get).heap kvs)
    | .attr a name => do
      let v ← eval fuel a
      liftOutcome (v.getAttr (← get).heap name)
    | .item a k => do
      let v ← eval fuel a
      let key ← eval fuel k
      liftOutcome (v.getItem (← get).heap key)
    | .slice a s t u => do
      let v ← eval fuel a
      let opt (o : Option Expr) : Render Value := match o with
        | some x => eval fuel x
        | none => pure .none
      let s ← opt s
      let t ← opt t
      let u ← opt u
      liftOutcome (Value.slice v s t u)
    | .neg a => do liftOutcome (Value.neg (← eval fuel a))
    | .not a => do return .bool !((← eval fuel a).truthy (← get).heap)
    | .bin op l r => do
      let a ← eval fuel l
      let b ← eval fuel r
      liftOutcome (Value.binary (← get).heap op a b)
    | .and l r => do
      let a ← eval fuel l
      if a.truthy (← get).heap then eval fuel r else return a
    | .or l r => do
      let a ← eval fuel l
      if a.truthy (← get).heap then return a else eval fuel r
    | .compare first rest => do compareChain fuel (← eval fuel first) rest
    | .cond t y no => do
      if (← eval fuel t).truthy (← get).heap then eval fuel y
      else match no with
        | some n => eval fuel n
        | none => return .undefined
    | .filter name a xs => do
      let v ← eval fuel a
      let args ← evalArgs fuel xs
      liftOutcome (Builtin.applyFilter (← get).heap (← get).html 16 name (v :: args))
    | .test name a xs negated => do
      let v ← eval fuel a
      let args ← evalArgs fuel xs
      let r ← liftOutcome (Builtin.applyTest (← get).heap name (v :: args))
      return .bool (r != negated)
    | .call f xs => callExpr fuel f xs []

/-- A chain of comparisons: true when each holds, evaluated left to right until one fails. -/
def compareChain : Nat → Value → List (CmpOp × Expr) → Render Value
  | 0, _, _ => throw .error
  | _ + 1, _, [] => return .bool true
  | fuel + 1, left, (op, e) :: rest => do
    let right ← eval fuel e
    let h := (← get).heap
    let holds ← match op with
      | .eq => pure (left.eq h right)
      | .ne => pure !(left.eq h right)
      | .lt => pure (left.order h right == .lt)
      | .le => pure (left.order h right != .gt)
      | .gt => pure (left.order h right == .gt)
      | .ge => pure (left.order h right != .lt)
      | .isIn => liftOutcome (Value.contains h right left)
      | .notIn => (! ·) <$> liftOutcome (Value.contains h right left)
    if !holds then return .bool false
    compareChain fuel right rest

/-- Positional arguments, then the keyword arguments as one trailing value when the call names
any or spreads a map (even an empty one). A repeated name takes the last value given, in the
place of the first. -/
def evalArgs : Nat → List (ArgKind × Expr) → Render (List Value)
  | 0, _ => throw .error
  | fuel + 1, xs => do
    let h := (← get).heap
    let parts ← xs.mapM fun (k, e) => do
      let v ← eval fuel e
      match k with
      | .positional => pure ([v], [])
      | .named n => pure ([], [(Value.ofString n, v)])
      | .spread => match v.iterItems? h with
        | some items => pure (items, [])
        | none => throw .error
      | .spreadNamed => match v.entries? h with
        | some es => pure ([], es)
        | none => throw .error
    let pos := parts.flatMap (·.1)
    let kw := parts.flatMap (·.2)
    let named := xs.any fun (k, _) => match k with
      | .named _ | .spreadNamed => true
      | _ => false
    return if named then pos ++ [.kwargs (Builtin.mergeEntries h kw)] else pos

/-- A call, with extra keyword arguments (the `caller` of a call block). -/
def callExpr : Nat → Expr → List (ArgKind × Expr) → List (String × Value) → Render Value
  | 0, _, _, _ => throw .error
  | fuel + 1, f, xs, extra => do
    let extra := extra.map fun (k, v) => (Value.ofString k, v)
    let withExtra (args : List Value) : List Value :=
      if extra.isEmpty then args
      else match args.getLast? with
        | some (.kwargs es) => args.dropLast ++ [.kwargs (es ++ extra)]
        | _ => args ++ [.kwargs extra]
    match f with
    | .attr a name => do
      let base ← eval fuel a
      match base with
      | .object (.loop id) => do
        let args ← evalArgs fuel xs
        loopMethod id name args
      | _ => do
        let args ← evalArgs fuel xs
        match base.attr? (← get).heap name with
        | some m => callValue fuel m (withExtra args)
        | none => throw .error
    | _ => do
      let fv ← eval fuel f
      let args ← evalArgs fuel xs
      callValue fuel fv (withExtra args)

/-- Calls a value: a macro, a global function, or a recursive loop. -/
def callValue : Nat → Value → List Value → Render Value
  | 0, _, _ => throw .error
  | fuel + 1, f, args => do
    match f with
    | .object (.userMacro id) => callMacro fuel id args
    | .object (.loop id) => recurseLoop fuel id args
    | .object (.function "range") => liftOutcome (rangeValues args)
    | .object (.function "dict") => liftOutcome (dictValue (← get).heap args)
    | .object (.function "namespace") => do
      Builtin.arity args 0 1 |> liftOutcome
      let w ← get
      let fields ← match Builtin.arg? args 0 with
        | none => pure []
        | some v => match v.kind, v.entries? w.heap with
          | .map, some es => pure (es.filterMap fun (k, x) => k.asStr?.map (·, x))
          | _, _ => throw .error
      let id := w.heap.namespaces.size
      let sorted := fields.foldl (fun acc (k, x) => insertField k x acc) []
      set { w with heap := { w.heap with namespaces := w.heap.namespaces.push sorted } }
      return .object (.namespace id)
    | .object (.function "debug") => return debugValue (← get) args
    | _ => throw .error

/-- Calls a macro: binds arguments by position and name, fills defaults, runs the body in a
frame over the macro's closure and returns what it wrote. -/
def callMacro : Nat → Nat → List Value → Render Value
  | 0, _, _ => throw .error
  | fuel + 1, id, args => do
    let w ← get
    let m := w.macros.getD id default
    let (pos, kw) := Builtin.splitKwargs args
    if pos.length > m.params.length then throw .error
    if !(kw.all fun (k, _) => m.params.contains k || (m.usesCaller && k == "caller")) then
      throw .error
    let bound := m.params.zipIdx.map fun (p, i) => (p, i, pos[i]?, kw.lookup p)
    if bound.any (fun (_, _, a, b) => a.isSome && b.isSome) then throw .error
    if w.depth + 1 > frameLimit then throw .error
    let frame : Frame := ⟨w.closures.getD m.closure [], none⟩
    -- the body sees its closure and arguments, not the template's context
    set { w with frames := [frame], out := "", depth := w.depth + 1, context := [] }
    if m.usesCaller then
      modify (·.setVar "caller" ((kw.lookup "caller").getD .undefined))
    let firstDefault := m.params.length - m.defaults.length
    for (p, i, a, b) in bound.reverse do
      let v := (a <|> b).getD .undefined
      let v ← if v.isUndefined && i ≥ firstDefault then
          match m.defaults[i - firstDefault]? with
          | some d => eval fuel d
          | none => pure v
        else pure v
      modify (·.setVar p v)
    execAll fuel m.body
    let after ← get
    set { after with frames := w.frames, out := w.out, depth := w.depth, context := w.context }
    return .str after.out w.html

/-- `loop(items)` inside a recursive loop: the loop body over new items, one level deeper. -/
def recurseLoop : Nat → Nat → List Value → Render Value
  | 0, _, _ => throw .error
  | fuel + 1, id, args => do
    let w ← get
    match args, w.recursiveLoops[id]? with
    | [v], some (some (t, body)) => do
      let items ← liftOutcome (v.iterate w.heap)
      let depth := (w.heap.loop id).depth + 1
      let text ← capture (runLoop fuel t items (v.iterLength? w.heap) body depth true)
      capturedValue text
    | _, _ => throw .error

/-- Runs a loop body once per item in a frame of its own; the loop knows the number of items
when `length` gives it. -/
def runLoop : Nat → Target → List Value → Option Nat → List Stmt → Nat → Bool → Render Unit
  | 0, _, _, _, _, _, _ => throw .error
  | fuel + 1, t, items, length, body, depth, recursive => do
    pushFrame
    let id ← startLoop items length depth (if recursive then some (t, body) else none)
    -- the loop variable exists only for a body that reads it
    let named := (Stmt.names nameDepth body).contains "loop"
    for (p, x, n, i) in withNeighbours items do
      moveLoop id i p n
      if named then modify (·.setVar "loop" (.object (.loop id)))
      assign fuel t x
      execAll fuel body
    popFrame

/-- Stores a value in a target: a name, a namespace attribute, or the items of a sequence
into a tuple of targets of the same length. -/
def assign : Nat → Target → Value → Render Unit
  | 0, _, _ => throw .error
  | fuel + 1, t, v => match t with
    | .name n => modify (·.setVar n v)
    | .attr b name => do
      match ← eval fuel b with
      | .object (.namespace id) =>
        modify fun w => { w with heap := w.heap.setField id name v }
      | _ => throw .error
    | .tuple ts => do
      let items ← liftOutcome (v.iterate (← get).heap)
      if items.length != ts.length then throw .error
      assignAll fuel (ts.zip items)

/-- Stores values in targets, in order. -/
def assignAll : Nat → List (Target × Value) → Render Unit
  | 0, _ => throw .error
  | fuel + 1, tvs => tvs.forM fun (t, v) => assign fuel t v

/-- Items of a loop that pass its guard, tested with the target bound in a frame of its own. -/
def guardItems : Nat → Target → Expr → List Value → Render (List Value)
  | 0, _, _, _ => throw .error
  | fuel + 1, t, g, items => do
    pushFrame
    let kept ← items.filterM fun x => do
      assign fuel t x
      return (← eval fuel g).truthy (← get).heap
    popFrame
    return kept

/-- The filters of a filter chain applied to a value. -/
def filterChain : Nat → Value → List FilterCall → Render Value
  | 0, _, _ => throw .error
  | fuel + 1, v, fs => do
    let calls ← fs.mapM fun f => do return (f.name, ← evalArgs fuel f.args)
    liftOutcome (applyFilters (← get).heap (← get).html v calls)

/-- Runs statements in order. -/
def execAll : Nat → List Stmt → Render Unit
  | 0, _ => throw .error
  | fuel + 1, ss => ss.forM (exec fuel)

/-- Runs one statement. -/
def exec : Nat → Stmt → Render Unit
  | 0, _ => throw .error
  | fuel + 1, s => match s with
    | .text t => emitText t
    | .emit e => do emitValue (← eval fuel e)
    | .cond t yes no => do
      if (← eval fuel t).truthy (← get).heap then execAll fuel yes else execAll fuel no
    | .loop t it g recursive body orElse => do
      let v ← eval fuel it
      let h := (← get).heap
      let items ← liftOutcome (v.iterate h)
      -- a guard collects the items that pass it, whose number is then known
      let (items, length) ← match g with
        | some g => do
          let kept ← guardItems fuel t g items
          pure (kept, some kept.length)
        | none => pure (items, v.iterLength? h)
      if items.isEmpty then execAll fuel orElse
      else runLoop fuel t items length body 1 recursive
    | .with binds body => do
      pushFrame
      for (t, e) in binds do
        assign fuel t (← eval fuel e)
      execAll fuel body
      popFrame
    | .set t e => do assign fuel t (← eval fuel e)
    | .setBlock t fs body => do
      let text ← capture (execAll fuel body)
      let v ← filterChain fuel (← capturedValue text) fs
      assign fuel t v
    | .filterBlock fs body => do
      let text ← capture (execAll fuel body)
      emitValue (← filterChain fuel (← capturedValue text) fs)
    | .autoEscape mode body => do
      let flag ← liftOutcome (escapeMode (← get).heap (← eval fuel mode))
      let saved := (← get).html
      modify fun w => { w with html := flag }
      execAll fuel body
      modify fun w => { w with html := saved }
    | .block name body => do
      let outer := (← get).block
      pushFrame
      modify fun w => { w with block := some name }
      execAll fuel body
      modify fun w => { w with block := outer }
      popFrame
    | .extends e | .importing e => do
      let _ ← eval fuel e
      throw .error
    | .include e ignoreMissing => do
      let names ← liftOutcome (includeNames (← get).heap (← eval fuel e))
      -- no template can be loaded, so each name is missing
      if !names.isEmpty && !ignoreMissing then throw .error
    | .macroDef name params defaults body => do
      let id ← defineMacro name params defaults body
      modify (·.setVar name (.object (.userMacro id)))
    | .callBlock c params defaults body => do
      let id ← defineMacro "caller" params defaults body
      match c with
      | .call f xs => emitValue (← callExpr fuel f xs [("caller", .object (.userMacro id))])
      | _ => throw .error
    | .doCall e => discard (eval fuel e)

end

/-- The source without one final line break: a final line feed goes, and then a final carriage
return, whether or not a line feed followed it. -/
def stripFinalNewline (s : String) : String :=
  let cs := s.toList
  let cs := if cs.getLast? == some '\n' then cs.dropLast else cs
  let cs := if cs.getLast? == some '\r' then cs.dropLast else cs
  String.ofList cs

/-- How deep a render may nest evaluation. -/
def renderFuel : Nat := 100000

/-- Renders a template source against named values. -/
def render (source : String) (context : List (String × Value)) : Outcome String := do
  let tokens ← (lex (stripFinalNewline source)).mapError fun _ => Failure.error
  let stmts ← (parseTokens tokens).mapError fun _ => Failure.error
  let w : World := ⟨Heap.empty, #[], #[], #[], [⟨[], none⟩], context, "", false, 1, none⟩
  let (_, w) ← (execAll renderFuel stmts).run w
  return w.out

end MetricLayer.Template
