import MetricLayer.Template.Lexer
/-!
# Template syntax trees

A template parses to a list of `Stmt`s. Expressions (`Expr`) have constants, variables, list,
tuple and map displays, attribute and item access, slices, arithmetic, comparisons (which
chain: `1 < 2 < 3` means `1 < 2 and 2 < 3`), `and`/`or`/`not`, conditional expressions,
filters (`x|f(a)`), tests (`x is t a`) and calls with positional, keyword and spread
arguments.

Statements are text, printed expressions, `if`, `for` (with an optional item guard, `else`
branch and recursion), `with`, `set` (of names, tuples or namespace attributes, or of a
captured block), `filter` blocks, `autoescape`, `block`, the template-loading statements
(`extends`, `include`, `import`), `macro` and `call` blocks and `do`.
-/

namespace MetricLayer.Template

/-- A constant written in a template. -/
inductive Lit where
  | none
  | bool (b : Bool)
  | int (n : Nat)
  | float (x : Float)
  | str (s : String)
  deriving Inhabited

/-- Arithmetic and concatenation operators. -/
inductive BinOp where
  | add
  | sub
  | mul
  | div
  | floorDiv
  | rem
  | pow
  /-- `~`: the printed forms joined. -/
  | concat
  deriving BEq, Inhabited

/-- Comparison operators. -/
inductive CmpOp where
  | eq
  | ne
  | lt
  | le
  | gt
  | ge
  | isIn
  | notIn
  deriving BEq, Inhabited

/-- How an argument is passed. -/
inductive ArgKind where
  | positional
  /-- `name=value`. -/
  | named (name : String)
  /-- `*items`: the items of a sequence as positional arguments. -/
  | spread
  /-- `**map`: the entries of a map as keyword arguments. -/
  | spreadNamed
  deriving BEq, Inhabited

/-- An expression. -/
inductive Expr where
  | var (name : String)
  | lit (l : Lit)
  /-- A list or tuple display. -/
  | list (items : List Expr)
  | map (entries : List (Expr × Expr))
  | attr (e : Expr) (name : String)
  | item (e : Expr) (key : Expr)
  | slice (e : Expr) (start stop step : Option Expr)
  | neg (e : Expr)
  | not (e : Expr)
  | bin (op : BinOp) (l r : Expr)
  | and (l r : Expr)
  | or (l r : Expr)
  /-- A chain of comparisons: each operand compared with the next. -/
  | compare (first : Expr) (rest : List (CmpOp × Expr))
  /-- `yes if test else no`; without `else` the value is undefined when the test fails. -/
  | cond (test yes : Expr) (no : Option Expr)
  | filter (name : String) (e : Expr) (args : List (ArgKind × Expr))
  | test (name : String) (e : Expr) (args : List (ArgKind × Expr)) (negated : Bool)
  | call (f : Expr) (args : List (ArgKind × Expr))
  deriving Inhabited

/-- Where an assignment stores. -/
inductive Target where
  | name (n : String)
  /-- An attribute of a namespace. -/
  | attr (base : Expr) (name : String)
  /-- The items of a sequence, one target each. -/
  | tuple (items : List Target)
  deriving Inhabited

/-- A filter with its arguments, as in a filter chain of a block. -/
structure FilterCall where
  name : String
  args : List (ArgKind × Expr)
  deriving Inhabited

/-- A statement. -/
inductive Stmt where
  | text (s : String)
  | emit (e : Expr)
  | cond (test : Expr) (yes no : List Stmt)
  | loop (target : Target) (iter : Expr) (guard : Option Expr) (recursive : Bool)
      (body orElse : List Stmt)
  | with (binds : List (Target × Expr)) (body : List Stmt)
  | set (target : Target) (e : Expr)
  /-- The output of the body, through the filters, stored in the target. -/
  | setBlock (target : Target) (filters : List FilterCall) (body : List Stmt)
  | filterBlock (filters : List FilterCall) (body : List Stmt)
  | autoEscape (mode : Expr) (body : List Stmt)
  | block (name : String) (body : List Stmt)
  | extends (e : Expr)
  | include (e : Expr) (ignoreMissing : Bool)
  /-- `import` and `from … import`: both load another template. -/
  | importing (e : Expr)
  /-- A macro: parameter names, defaults for the last parameters, and the body. -/
  | macroDef (name : String) (params : List String) (defaults : List Expr) (body : List Stmt)
  /-- A call with a body passed as the `caller` macro. -/
  | callBlock (call : Expr) (params : List String) (defaults : List Expr) (body : List Stmt)
  | doCall (e : Expr)
  deriving Inhabited

end MetricLayer.Template
