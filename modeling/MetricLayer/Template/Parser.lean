import MetricLayer.Template.Syntax
/-!
# Parsing templates

A recursive-descent parser over the token list of `lex`. Expression precedence, loosest first:
`a if c else b`; `or`; `and`; `not`; comparisons (`==`, `!=`, `<`, `<=`, `>`, `>=`, `in`,
`not in`), which chain; `+` and `-`; `~`; `*`, `/`, `//` and `%`; `**`; unary minus; then the
trailing forms `.name`, `.0`, `[key]`, `[start:stop:step]` and calls, and last the filters
`|name(args)` and tests `is [not] name(args)`. A test takes one argument without parentheses
when a name (other than `and`, `or`, `else` and `is`), a literal, a sign or an opening bracket
follows it. Each binary operator groups to the left.

A string literal followed by more string literals is their concatenation. `( )` is an empty
list, `(a,)` and `(a, b)` are lists, and lists and maps allow a trailing comma.

The names `true`, `false` and `none` (also capitalised) are constants, and they, `loop` and
`self` cannot be assigned to.

Expressions, primary expressions and statements nest at most `nestingLimit` deep, counted
together; a deeper template is a syntax error. A block name may be defined once per template,
and not inside a macro or call body.

The parser spends one unit of fuel per level of descent; `parse` gives it twenty units per
token, more than any descent needs.
-/

namespace MetricLayer.Template

/-- What the parser reads: the tokens, how many expressions, primaries and statements enclose
the current one, and whether a macro or call body does. -/
structure Scope where
  tokens : Array Token
  depth : Nat := 0
  inMacro : Bool := false

/-- Where the parser is: the index of the next token and the block names defined so far. -/
structure Cursor where
  pos : Nat := 0
  blocks : List String := []

/-- The parser: a cursor over a token array, or a syntax error. -/
abbrev Parser := ReaderT Scope (StateT Cursor (Except String))

namespace Parser

/-- The current token. -/
def peek : Parser (Option Token) := do
  return (← read).tokens[(← get).pos]?

/-- The token after the current one. -/
def peekNext : Parser (Option Token) := do
  return (← read).tokens[(← get).pos + 1]?

/-- Moves past the current token and returns it. -/
def next : Parser (Option Token) := do
  let t ← peek
  modify fun c => { c with pos := c.pos + 1 }
  return t

/-- A syntax error. -/
def fail {α : Type} (msg : String) : Parser α := throw msg

/-- How deeply expressions, primary expressions and statements may nest, counted together. -/
def nestingLimit : Nat := 150

/-- Runs `p` one nesting level deeper, or fails when that passes `nestingLimit`. -/
def nested {α : Type} (p : Parser α) : Parser α := do
  if (← read).depth ≥ nestingLimit then fail "recursion limit exceeded"
  withReader (fun s => { s with depth := s.depth + 1 }) p

/-- Runs `p` as the body of a macro or call block. -/
def inMacroBody {α : Type} (p : Parser α) : Parser α :=
  withReader (fun s => { s with inMacro := true }) p

/-- Moves past the current token when `p` holds of it. -/
def skipIf (p : Token → Bool) : Parser Bool := do
  match ← peek with
  | some t => if p t then do let _ ← next; return true else return false
  | none => return false

/-- Moves past the operator `s` if it is next. -/
def skipOp (s : String) : Parser Bool := skipIf (·.isOp s)

/-- Moves past the name `s` if it is next. -/
def skipIdent (s : String) : Parser Bool := skipIf (·.isIdent s)

/-- Expects the operator `s`. -/
def expectOp (s : String) : Parser Unit := do
  if !(← skipOp s) then fail ("expected " ++ s)

/-- Expects the name `s`. -/
def expectIdent (s : String) : Parser Unit := do
  if !(← skipIdent s) then fail ("expected " ++ s)

/-- Expects any name and returns it. -/
def expectName : Parser String := do
  match ← next with
  | some (.ident n) => return n
  | _ => fail "expected identifier"

/-- Expects the end of a statement tag. -/
def expectBlockEnd : Parser Unit := do
  match ← next with
  | some .blockEnd => return ()
  | _ => fail "expected end of block"

/-- Whether the current token is the end of a statement tag. -/
def atBlockEnd : Parser Bool := do
  match ← peek with
  | some .blockEnd => return true
  | _ => return false

/-- Names that cannot be assigned to. -/
def reservedNames : List String := ["true", "True", "false", "False", "none", "None", "loop", "self"]

/-- A name that may be assigned to. -/
def assignName : Parser String := do
  let n ← expectName
  if reservedNames.contains n then fail ("cannot assign to reserved variable name " ++ n)
  return n

/-- The constant a name stands for, if it is one. -/
def nameConstant : String → Option Lit
  | "true" | "True" => some (.bool true)
  | "false" | "False" => some (.bool false)
  | "none" | "None" => some .none
  | _ => none

/-- The comparison an operator token stands for. -/
def cmpOp? : Token → Option CmpOp
  | .op "==" => some .eq
  | .op "!=" => some .ne
  | .op "<" => some .lt
  | .op "<=" => some .le
  | .op ">" => some .gt
  | .op ">=" => some .ge
  | .ident "in" => some .isIn
  | _ => none

/-- The binary operators of a precedence level (5: `+ -`, 6: `~`, 7: `* / // %`, 8: `**`). -/
def levelOps : Nat → List (String × BinOp)
  | 5 => [("+", .add), ("-", .sub)]
  | 6 => [("~", .concat)]
  | 7 => [("*", .mul), ("/", .div), ("//", .floorDiv), ("%", .rem)]
  | 8 => [("**", .pow)]
  | _ => []

/-- Whether a token may start the single unparenthesised argument of a test. -/
def startsTestArg : Token → Bool
  | .ident n => not (["and", "or", "else", "is"].contains n)
  | .str _ | .int _ | .float _ => true
  | .op o => o == "+" || o == "-" || o == "[" || o == "\x7b"
  | _ => false

/-- Adjacent string literals after the first one, joined. -/
def moreStrings : Nat → String → Parser String
  | 0, acc => return acc
  | fuel + 1, acc => do
    match ← peek with
    | some (.str s) => do let _ ← next; moreStrings fuel (acc ++ s)
    | _ => return acc

mutual

/-- An expression at a precedence level: 0 conditional, 1 `or`, 2 `and`, 3 `not`,
4 comparisons, 5 to 8 the binary operators of `levelOps`, 9 unary minus with trailing forms,
filters and tests. -/
def level : Nat → Nat → Parser Expr
  | 0, _ => fail "expression too deeply nested"
  | fuel + 1, 0 => nested do
    let e ← level fuel 1
    condTail fuel e
  | fuel + 1, 1 => do
    let e ← level fuel 2
    orTail fuel e
  | fuel + 1, 2 => do
    let e ← level fuel 3
    andTail fuel e
  | fuel + 1, 3 => do
    if ← skipIdent "not" then return .not (← level fuel 3) else level fuel 4
  | fuel + 1, 4 => do
    let e ← level fuel 5
    let rest ← cmpTail fuel
    return if rest.isEmpty then e else .compare e rest
  | fuel + 1, 9 => do
    let e ← unaryOnly fuel
    let e ← trailers fuel e
    filters fuel e
  | fuel + 1, n => do
    let e ← level fuel (n + 1)
    binTail fuel n e

/-- `if … else …` after the value of a conditional expression. The expression after `else`
is itself conditional, at the same nesting level. -/
def condTail : Nat → Expr → Parser Expr
  | 0, _ => fail "expression too deeply nested"
  | fuel + 1, e => do
    if ← skipIdent "if" then
      let test ← level fuel 1
      let no ← if ← skipIdent "else" then do
          let v ← level fuel 1
          some <$> condTail fuel v
        else pure none
      condTail fuel (.cond test e no)
    else return e

/-- `or` operands. -/
def orTail : Nat → Expr → Parser Expr
  | 0, _ => fail "expression too deeply nested"
  | fuel + 1, e => do
    if ← skipIdent "or" then orTail fuel (.or e (← level fuel 2)) else return e

/-- `and` operands. -/
def andTail : Nat → Expr → Parser Expr
  | 0, _ => fail "expression too deeply nested"
  | fuel + 1, e => do
    if ← skipIdent "and" then andTail fuel (.and e (← level fuel 3)) else return e

/-- The comparisons after the first operand of a chain. -/
def cmpTail : Nat → Parser (List (CmpOp × Expr))
  | 0 => fail "expression too deeply nested"
  | fuel + 1 => do
    match ← peek with
    | some (.ident "not") =>
      match ← peekNext with
      | some (.ident "in") => do
        let _ ← next
        let _ ← next
        let r ← level fuel 5
        return (.notIn, r) :: (← cmpTail fuel)
      | _ => return []
    | some t =>
      match cmpOp? t with
      | some op => do
        let _ ← next
        let r ← level fuel 5
        return (op, r) :: (← cmpTail fuel)
      | none => return []
    | none => return []

/-- The operands of the binary operators of level `n`. -/
def binTail : Nat → Nat → Expr → Parser Expr
  | 0, _, _ => fail "expression too deeply nested"
  | fuel + 1, n, e => do
    match ← peek with
    | some (.op o) =>
      match (levelOps n).lookup o with
      | some op => do
        let _ ← next
        binTail fuel n (.bin op e (← level fuel (n + 1)))
      | none => return e
    | _ => return e

/-- Unary minus over a primary expression. -/
def unaryOnly : Nat → Parser Expr
  | 0 => fail "expression too deeply nested"
  | fuel + 1 => do
    if ← skipOp "-" then return .neg (← unaryOnly fuel) else primary fuel

/-- A primary expression. -/
def primary : Nat → Parser Expr
  | 0 => fail "expression too deeply nested"
  | fuel + 1 => nested do
    match ← next with
    | some (.ident n) => return match nameConstant n with
      | some l => .lit l
      | none => .var n
    | some (.str s) => return .lit (.str (← moreStrings (fuel + 1) s))
    | some (.int n) => return .lit (.int n)
    | some (.float x) => return .lit (.float x)
    | some (.op "(") => do
      if ← skipOp ")" then return .list []
      let e ← level fuel 0
      if (← peek).any (·.isOp ",") then
        let items ← tupleTail fuel [e]
        return .list items
      else do
        expectOp ")"
        return e
    | some (.op "[") => .list <$> listItems fuel []
    | some (.op "\x7b") => .map <$> mapEntries fuel []
    | _ => fail "unexpected token"

/-- The rest of a tuple after its first items (reversed in `acc`), up to `)`. -/
def tupleTail : Nat → List Expr → Parser (List Expr)
  | 0, _ => fail "expression too deeply nested"
  | fuel + 1, acc => do
    if ← skipOp ")" then return acc.reverse
    expectOp ","
    if ← skipOp ")" then return acc.reverse
    let e ← level fuel 0
    tupleTail fuel (e :: acc)

/-- The items of a list display after `[` (reversed in `acc`), up to `]`. -/
def listItems : Nat → List Expr → Parser (List Expr)
  | 0, _ => fail "expression too deeply nested"
  | fuel + 1, acc => do
    if ← skipOp "]" then return acc.reverse
    if !acc.isEmpty then
      expectOp ","
      if ← skipOp "]" then return acc.reverse
    let e ← level fuel 0
    listItems fuel (e :: acc)

/-- The entries of a map display after the opening brace (reversed in `acc`). -/
def mapEntries : Nat → List (Expr × Expr) → Parser (List (Expr × Expr))
  | 0, _ => fail "expression too deeply nested"
  | fuel + 1, acc => do
    if ← skipOp "\x7d" then return acc.reverse
    if !acc.isEmpty then
      expectOp ","
      if ← skipOp "\x7d" then return acc.reverse
    let k ← level fuel 0
    expectOp ":"
    let v ← level fuel 0
    mapEntries fuel ((k, v) :: acc)

/-- Attribute access, item access, slices and calls after an expression. -/
def trailers : Nat → Expr → Parser Expr
  | 0, _ => fail "expression too deeply nested"
  | fuel + 1, e => do
    match ← peek with
    | some (.op ".") => do
      let _ ← next
      match ← next with
      | some (.ident n) => trailers fuel (.attr e n)
      | some (.int n) => trailers fuel (.item e (.lit (.int n)))
      | _ => fail "expected identifier or integer"
    | some (.op "[") => do
      let _ ← next
      let start ← if (← peek).any (·.isOp ":") then pure none else some <$> level fuel 0
      if ← skipOp ":" then
        let stop ← match ← peek with
          | some (.op "]") | some (.op ":") => pure none
          | _ => some <$> level fuel 0
        let step ← if ← skipOp ":" then
            if (← peek).any (·.isOp "]") then pure none else some <$> level fuel 0
          else pure none
        expectOp "]"
        trailers fuel (.slice e start stop step)
      else do
        expectOp "]"
        match start with
        | some k => trailers fuel (.item e k)
        | none => fail "expected expression"
    | some (.op "(") => do
      let args ← callArgs fuel
      trailers fuel (.call e args)
    | _ => return e

/-- The arguments of a call, filter or test, from `(` to `)`. -/
def callArgs : Nat → Parser (List (ArgKind × Expr))
  | 0 => fail "expression too deeply nested"
  | fuel + 1 => do
    expectOp "("
    argList fuel [] false

/-- Arguments after `(` (reversed in `acc`); `named` once a keyword argument was seen. -/
def argList : Nat → List (ArgKind × Expr) → Bool → Parser (List (ArgKind × Expr))
  | 0, _, _ => fail "expression too deeply nested"
  | fuel + 1, acc, named => do
    if ← skipOp ")" then return acc.reverse
    if !acc.isEmpty then
      expectOp ","
      if ← skipOp ")" then return acc.reverse
    if ← skipOp "**" then
      let e ← level fuel 0
      argList fuel ((.spreadNamed, e) :: acc) true
    else if ← skipOp "*" then
      let e ← level fuel 0
      argList fuel ((.spread, e) :: acc) named
    else
      let e ← level fuel 0
      match e with
      | .var n =>
        if ← skipOp "=" then
          let v ← level fuel 0
          argList fuel ((.named n, v) :: acc) true
        else if named then fail "non-keyword arg after keyword arg"
        else argList fuel ((.positional, e) :: acc) named
      | _ =>
        if named then fail "non-keyword arg after keyword arg"
        else argList fuel ((.positional, e) :: acc) named

/-- Filters and tests after an expression. -/
def filters : Nat → Expr → Parser Expr
  | 0, _ => fail "expression too deeply nested"
  | fuel + 1, e => do
    match ← peek with
    | some (.op "|") => do
      let _ ← next
      let name ← expectName
      let args ← if (← peek).any (·.isOp "(") then callArgs fuel else pure []
      filters fuel (.filter name e args)
    | some (.ident "is") => do
      let _ ← next
      let negated ← skipIdent "not"
      let name ← expectName
      let args ← match ← peek with
        | some t =>
          if t.isOp "(" then callArgs fuel
          else if startsTestArg t then do
            let a ← unaryOnly fuel
            let a ← trailers fuel a
            pure [(.positional, a)]
          else pure []
        | none => pure []
      filters fuel (.test name e args negated)
    | _ => return e

end

/-- An expression. -/
def expr (fuel : Nat) : Parser Expr := level fuel 0

/-- An expression without a trailing `if … else …`. -/
def exprNoIf (fuel : Nat) : Parser Expr := level fuel 1

/-- More attributes of a dotted target, bounded by `fuel`. -/
def attrChainMore : Expr → String → Nat → Parser Target
  | _, _, 0 => fail "assignment target too long"
  | base, a, fuel + 1 => do
    if ← skipOp "." then
      let b ← expectName
      attrChainMore (.attr base a) b fuel
    else return .attr base a


/-- Attributes after a dotted target's base. -/
def attrChain : Expr → Option String → Parser Target
  | base, last => do
    if ← skipOp "." then
      let a ← expectName
      let base := match last with
        | some l => Expr.attr base l
        | none => base
      attrChainMore base a 64
    else match last, base with
      | some l, _ => return .attr base l
      | none, .var n => return .name n
      | none, _ => fail "invalid assignment target"

mutual

/-- Assignment targets separated by commas: one target, or a tuple of them. `dotted` allows
namespace attributes (`ns.count`). -/
def targets : Nat → Bool → Parser Target
  | 0, _ => fail "expression too deeply nested"
  | fuel + 1, dotted => do
    let items ← targetItems fuel dotted []
    match items with
    | [(t, false)] => return t
    | _ => return .tuple (items.map (·.1))

/-- Targets up to a closing token (reversed in `acc`), each with whether a comma followed. -/
def targetItems : Nat → Bool → List (Target × Bool) → Parser (List (Target × Bool))
  | 0, _, _ => fail "expression too deeply nested"
  | fuel + 1, dotted, acc => do
    if !acc.isEmpty then expectOp ","
    let stop ← match ← peek with
      | some (.op ")") | some .blockEnd | some .varEnd | some (.ident "in") => pure true
      | _ => pure false
    if stop then return acc.reverse
    let t ← if ← skipOp "(" then do
        let t ← targets fuel false
        expectOp ")"
        pure t
      else targetName fuel dotted
    if (← peek).any (·.isOp ",") then targetItems fuel dotted ((t, true) :: acc)
    else return ((t, false) :: acc).reverse

/-- A name, or with `dotted` a name followed by attributes. -/
def targetName : Nat → Bool → Parser Target
  | 0, _ => fail "expression too deeply nested"
  | _ + 1, dotted => do
    let n ← assignName
    if !dotted then return .name n
    attrChain (.var n) none

end

/-- The parameters of a macro or call block after `(`, with the defaults of the last ones. -/
def params : Nat → List String → List Expr → Parser (List String × List Expr)
  | 0, _, _ => fail "too many parameters"
  | fuel + 1, ps, ds => do
    if ← skipOp ")" then return (ps.reverse, ds.reverse)
    if !ps.isEmpty then
      expectOp ","
      if ← skipOp ")" then return (ps.reverse, ds.reverse)
    let p ← assignName
    if ← skipOp "=" then
      let d ← expr fuel
      params fuel (p :: ps) (d :: ds)
    else if !ds.isEmpty then fail "expected ="
    else params fuel (p :: ps) ds

/-- A chain of filters, as after `{% filter` or `{% set x |`. -/
def filterChain : Nat → List FilterCall → Parser (List FilterCall)
  | 0, _ => fail "too many filters"
  | fuel + 1, acc => do
    if ← atBlockEnd then
      if acc.isEmpty then fail "expected a filter" else return acc.reverse
    if !acc.isEmpty then expectOp "|"
    let name ← expectName
    let args ← if (← peek).any (·.isOp "(") then callArgs fuel else pure []
    filterChain fuel (⟨name, args⟩ :: acc)

/-- Whether a keyword ends the body being read. -/
def endsBody (ends : List String) : Option Token → Bool
  | some (.ident n) => ends.contains n
  | _ => false

/-- Reads an optional `with context` or `without context` of a loading statement, and tells
whether there was one. -/
def contextClause : Parser Bool := do
  let found ← if ← skipIdent "with" then pure true else skipIdent "without"
  if found then expectIdent "context"
  return found

/-- Whether the names of `from … import` end here: at a context clause (which is read) or at
the end of the tag. -/
def importsEnd : Parser Bool := do
  if ← contextClause then return true
  atBlockEnd

/-- Names imported by `from … import`, each with an optional `as`; there may be none. -/
def importNames : Nat → Bool → Parser Unit
  | 0, _ => fail "too many names"
  | fuel + 1, first => do
    if ← importsEnd then return ()
    if !first then expectOp ","
    if ← importsEnd then return ()
    discard assignName
    if ← skipIdent "as" then discard assignName
    importNames fuel false

mutual

/-- Statements up to a tag whose keyword is in `ends` (left unread) or the end of input. -/
def body : Nat → List String → Parser (List Stmt)
  | 0, _ => fail "template too deeply nested"
  | fuel + 1, ends => do
    match ← next with
    | none => return []
    | some (.text s) => return .text s :: (← body fuel ends)
    | some .varStart => do
      let e ← expr fuel
      match ← next with
      | some .varEnd => return .emit e :: (← body fuel ends)
      | _ => fail "expected end of variable block"
    | some .blockStart => do
      if endsBody ends (← peek) then return []
      let s ← stmt fuel
      expectBlockEnd
      return s :: (← body fuel ends)
    | _ => fail "unexpected token"

/-- One statement after `{%`, up to its closing tag. -/
def stmt : Nat → Parser Stmt
  | 0 => fail "template too deeply nested"
  | fuel + 1 => nested do
    match ← next with
    | some (.ident kw) =>
      match kw with
      | "for" => do
        let target ← targets fuel false
        expectIdent "in"
        let iter ← exprNoIf fuel
        let guard ← if ← skipIdent "if" then some <$> expr fuel else pure none
        let recursive ← skipIdent "recursive"
        expectBlockEnd
        let b ← body fuel ["endfor", "else"]
        let orElse ← if ← skipIdent "else" then do
            expectBlockEnd
            body fuel ["endfor"]
          else pure []
        let _ ← next
        return .loop target iter guard recursive b orElse
      | "if" => ifRest fuel
      | "with" => do
        let binds ← withBinds fuel []
        let b ← body fuel ["endwith"]
        let _ ← next
        return .with binds b
      | "set" => do
        let target ← if ← skipOp "(" then do
            let t ← targets fuel false
            expectOp ")"
            pure t
          else targets fuel true
        let blockForm ← match ← peek with
          | some .blockEnd | some (.op "|") => pure true
          | _ => pure false
        if blockForm then
          if let .tuple _ := target then fail "cannot capture a block into several targets"
          let fs ← if ← skipOp "|" then filterChain fuel [] else pure []
          expectBlockEnd
          let b ← body fuel ["endset"]
          let _ ← next
          return .setBlock target fs b
        else do
          expectOp "="
          let e ← expr fuel
          if (← peek).any (·.isOp ",") then return .set target (.list (← valueItems fuel [e]))
          return .set target e
      | "autoescape" => do
        let mode ← expr fuel
        expectBlockEnd
        let b ← body fuel ["endautoescape"]
        let _ ← next
        return .autoEscape mode b
      | "filter" => do
        let fs ← filterChain fuel []
        expectBlockEnd
        let b ← body fuel ["endfilter"]
        let _ ← next
        return .filterBlock fs b
      | "block" => do
        if (← read).inMacro then fail "block tags in macros are not allowed"
        let name ← expectName
        if (← get).blocks.contains name then fail ("block " ++ name ++ " defined twice")
        modify fun c => { c with blocks := name :: c.blocks }
        discard (skipIdent "scoped")
        expectBlockEnd
        let b ← body fuel ["endblock"]
        let _ ← next
        match ← peek with
        | some (.ident trailing) => do
          if trailing != name then fail "mismatching name on block"
          discard next
        | _ => pure ()
        return .block name b
      | "extends" => .extends <$> expr fuel
      | "include" => do
        let e ← expr fuel
        let ignore ← if ← skipIdent "ignore" then do
            expectIdent "missing"
            pure true
          else pure false
        discard contextClause
        return .include e ignore
      | "import" => do
        let e ← expr fuel
        expectIdent "as"
        discard (expr fuel)
        discard contextClause
        return .importing e
      | "from" => do
        let e ← expr fuel
        expectIdent "import"
        importNames fuel true
        return .importing e
      | "macro" => do
        let name ← expectName
        expectOp "("
        let (ps, ds) ← params fuel [] []
        expectBlockEnd
        let b ← inMacroBody (body fuel ["endmacro"])
        let _ ← next
        return .macroDef name ps ds b
      | "call" => do
        let (ps, ds) ← if ← skipOp "(" then params fuel [] [] else pure ([], [])
        let c ← expr fuel
        match c with
        | .call _ _ => do
          expectBlockEnd
          let b ← inMacroBody (body fuel ["endcall"])
          let _ ← next
          return .callBlock c ps ds b
        | _ => fail "expected call expression in call block"
      | "do" => do
        let c ← expr fuel
        match c with
        | .call _ _ => return .doCall c
        | _ => fail "expected call expression in do tag"
      | other => fail ("unknown statement " ++ other)
    | _ => fail "expected statement"

/-- The rest of an `if` statement after its keyword, through `endif`. -/
def ifRest : Nat → Parser Stmt
  | 0 => fail "template too deeply nested"
  | fuel + 1 => do
    let test ← exprNoIf fuel
    expectBlockEnd
    let yes ← body fuel ["elif", "else", "endif"]
    match ← next with
    | some (.ident "else") => do
      expectBlockEnd
      let no ← body fuel ["endif"]
      let _ ← next
      return .cond test yes no
    | some (.ident "elif") => do
      let inner ← ifRest fuel
      return .cond test yes [inner]
    | _ => return .cond test yes []

/-- More comma-separated values of a `set` after the first (reversed in `acc`), up to the end
of the tag; a trailing comma is allowed. -/
def valueItems : Nat → List Expr → Parser (List Expr)
  | 0, _ => fail "template too deeply nested"
  | fuel + 1, acc => do
    if !(← skipOp ",") then return acc.reverse
    if ← atBlockEnd then return acc.reverse
    let e ← expr fuel
    valueItems fuel (e :: acc)

/-- The bindings of a `with` statement (reversed in `acc`), through the end of its tag. -/
def withBinds : Nat → List (Target × Expr) → Parser (List (Target × Expr))
  | 0, _ => fail "template too deeply nested"
  | fuel + 1, acc => do
    if ← atBlockEnd then
      expectBlockEnd
      return acc.reverse
    if !acc.isEmpty then expectOp ","
    let t ← if ← skipOp "(" then do
        let t ← targets fuel false
        expectOp ")"
        pure t
      else .name <$> assignName
    expectOp "="
    let e ← expr fuel
    withBinds fuel ((t, e) :: acc)

end

end Parser

/-- The statements of a token list. -/
def parseTokens (ts : List Token) : Except String (List Stmt) :=
  let arr := ts.toArray
  (((Parser.body (20 * arr.size + 20) []).run ⟨arr, 0, false⟩).run {}).map (·.1)

end MetricLayer.Template
