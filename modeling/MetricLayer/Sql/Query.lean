import MetricLayer.Sql.Expr
/-!
# SQL queries

A `SELECT` query as a tree: common table expressions, the select list, the relation read and
its joins, conditions, grouping, ordering and pagination. Relations are tables, nested
queries, or SQL fragments written by users. `Query.render` prints a query one clause per line,
select items indented by two spaces, nested queries between parentheses on lines of their own.
Conditions added one after the other are joined with `AND` (`Query.addFilter`,
`Query.addHaving`).

A dialect that needs an `ORDER BY` for pagination gets `ORDER BY (SELECT NULL)` when the query
has none.
-/

namespace MetricLayer.Sql

/-- An item of the select list: an expression and its output name. -/
structure SelectItem where
  expr : Expr
  asName : Option String := none
  deriving Inhabited

/-- An ordering item; `descending` is none when no direction is written. -/
structure OrderItem where
  expr : Expr
  descending : Option Bool := none
  deriving Inhabited

/-- How a relation is joined. -/
inductive JoinKind where
  | inner
  | left
  | full
  | cross
  deriving Repr, DecidableEq, Inhabited

/-- The keywords of a join kind. -/
def JoinKind.keyword : JoinKind → String
  | .inner => "INNER"
  | .left => "LEFT"
  | .full => "FULL OUTER"
  | .cross => "CROSS"

mutual
/-- A relation a query reads. -/
inductive Source where
  /-- A table or common table expression, by quoted name. -/
  | named (name : String)
  | subquery (q : Query)
  /-- A SQL query written by a user, put between parentheses. -/
  | sql (text : String)
  /-- A table name written by a user, verbatim. -/
  | rawTable (text : String)

/-- A query. -/
structure Query where
  ctes : List (String × Query) := []
  select : List SelectItem := []
  distinct : Bool := false
  /-- The relation read and the name it is read under. -/
  source : Option (Source × Option String) := none
  joins : List Join := []
  filter : Option Expr := none
  groupBy : List Expr := []
  having : Option Expr := none
  orderBy : List OrderItem := []
  /-- Limit and offset, when the query is paginated. -/
  page : Option (Option Nat × Option Nat) := none

/-- A join of a relation. -/
structure Join where
  kind : JoinKind
  source : Source
  asName : Option String := none
  on : Option Expr := none
end

instance : Inhabited Query := ⟨{}⟩

namespace Query

/-- Adds a `WHERE` condition, joined to an existing one with `AND`. -/
def addFilter (q : Query) (c : Expr) : Query :=
  { q with filter := some (match q.filter with | some e => e.and c | none => c) }

/-- Adds a `HAVING` condition, joined to an existing one with `AND`. -/
def addHaving (q : Query) (c : Expr) : Query :=
  { q with having := some (match q.having with | some e => e.and c | none => c) }

/-- Sets the limit, keeping the offset. -/
def withLimit (q : Query) (n : Nat) : Query :=
  { q with page := some (some n, (q.page.bind (·.2))) }

/-- Sets the offset, keeping the limit. -/
def withOffset (q : Query) (n : Nat) : Query :=
  { q with page := some (q.page.bind (·.1), some n) }

end Query

/-- `expr AS name`, or the expression alone. -/
def SelectItem.render (d : Dialect) (s : SelectItem) : String :=
  s.expr.render d ++ (match s.asName with | some a => " AS " ++ d.quoteIdent a | none => "")

/-- An ordering item with its direction. -/
def OrderItem.render (d : Dialect) (o : OrderItem) : String :=
  o.expr.render d ++
    (match o.descending with | some true => " DESC" | some false => " ASC" | none => "")

/-- ` AS name`, or nothing. -/
def aliasText (d : Dialect) : Option String → String
  | some a => " AS " ++ d.quoteIdent a
  | none => ""

/-- Text joined by a separator. -/
def joinWith (sep : String) (xs : List String) : String := sep.intercalate xs

mutual
/-- The text of a relation. -/
def Source.render (d : Dialect) : Source → String
  | .named n => d.quoteIdent n
  | .subquery q => "(\n" ++ q.render d ++ "\n)"
  | .sql text => "(" ++ text ++ ")"
  | .rawTable text => text
termination_by s => sizeOf s

/-- The text of a query. -/
def Query.render (d : Dialect) : Query → String
  | ⟨ctes, select, distinct, source, joins, filter, groupBy, having, orderBy, page⟩ =>
    let with_ := if ctes.isEmpty then "" else "WITH " ++ renderCtes d ctes ++ "\n"
    let selectText := "SELECT" ++ (if distinct then " DISTINCT" else "") ++
      joinWith "," (select.map fun s => "\n  " ++ s.render d)
    let fromText := renderSource d source
    let joinText := renderJoins d joins
    let whereText := match filter with | some e => "\nWHERE " ++ e.render d | none => ""
    let groupText := if groupBy.isEmpty then "" else
      "\nGROUP BY " ++ joinWith ", " (groupBy.map (·.render d))
    let havingText := match having with | some e => "\nHAVING " ++ e.render d | none => ""
    let orderText :=
      if !orderBy.isEmpty then "\nORDER BY " ++ joinWith ", " (orderBy.map (·.render d))
      else if d.requiresOrderByForOffset && page.isSome then "\nORDER BY (SELECT NULL)"
      else ""
    let pageText := match page with
      | some (l, o) => "\n" ++ d.limitOffset l o
      | none => ""
    with_ ++ selectText ++ fromText ++ joinText ++ whereText ++ groupText ++ havingText ++
      orderText ++ pageText
termination_by q => sizeOf q

/-- `\nFROM relation [AS name]`, or nothing. -/
def renderSource (d : Dialect) : Option (Source × Option String) → String
  | some (s, a) => "\nFROM " ++ s.render d ++ aliasText d a
  | none => ""
termination_by s => sizeOf s

/-- The common table expressions, `name AS (\nquery\n)`, separated by `,\n`. -/
def renderCtes (d : Dialect) : List (String × Query) → String
  | [] => ""
  | [(n, q)] => d.quoteIdent n ++ " AS (\n" ++ q.render d ++ "\n)"
  | (n, q) :: rest => d.quoteIdent n ++ " AS (\n" ++ q.render d ++ "\n)" ++ ",\n" ++ renderCtes d rest
termination_by l => sizeOf l

/-- The joins, each on a line of its own. -/
def renderJoins (d : Dialect) : List Join → String
  | [] => ""
  | ⟨kind, s, a, on⟩ :: rest =>
    "\n" ++ kind.keyword ++ " JOIN " ++ s.render d ++ aliasText d a ++
      (match on with | some e => " ON " ++ e.render d | none => "") ++ renderJoins d rest
termination_by l => sizeOf l
end

end MetricLayer.Sql
