import MetricLayer.Amount
import MetricLayer.Text.Blank
import MetricLayer.Text.Case
/-!
# SQL dialects

The eight databases the compiler writes for, and every decision that differs between them:
how identifiers and strings are quoted, how pagination, date truncation, intervals, date
arithmetic, null-safe equality and the median are spelled, and which function names are
renamed. Each decision is a function of `Dialect`, so a reader finds all eight answers to one
question in one place.
-/

namespace MetricLayer

/-- A target SQL dialect. -/
inductive Dialect where
  | duckdb
  | tsql
  | mysql
  | postgres
  | snowflake
  | bigquery
  | redshift
  | databricks
  deriving Repr, DecidableEq, Inhabited

namespace Dialect

open MetricLayer.Text

/-- All dialects, in their order of declaration. -/
def all : List Dialect := [duckdb, tsql, mysql, postgres, snowflake, bigquery, redshift, databricks]

/-- The lowercase name of a dialect. -/
def name : Dialect → String
  | duckdb => "duckdb"
  | tsql => "tsql"
  | mysql => "mysql"
  | postgres => "postgres"
  | snowflake => "snowflake"
  | bigquery => "bigquery"
  | redshift => "redshift"
  | databricks => "databricks"

/-- The dialect with exactly this name. -/
def ofName? (s : String) : Option Dialect := all.find? (·.name == s)

/-- Reads a dialect name, ignoring case and surrounding blanks and accepting the aliases
`mssql`, `sqlserver`, `postgresql` and `spark`. On failure, the normalised text. -/
def parse (s : String) : Except String Dialect :=
  let n := toLowerText (trimBlank s)
  match ofName? n with
  | some d => .ok d
  | none =>
    if n == "mssql" || n == "sqlserver" then .ok tsql
    else if n == "postgresql" then .ok postgres
    else if n == "spark" then .ok databricks
    else .error n

/-- The text of a failed dialect name. -/
def unknownMessage (normalised : String) : String := s!"Unknown SQL dialect '{normalised}'"

/-! ## Quoting -/

/-- How a dialect delimits identifiers. -/
inductive IdentQuote where
  /-- `"name"`, a quote inside doubled. -/
  | double
  /-- a backtick on each side, a backtick inside doubled. -/
  | backtick
  /-- `[name]`, a closing bracket inside doubled. -/
  | bracket
  deriving Repr, DecidableEq

/-- The identifier quoting of each dialect. -/
def identQuote : Dialect → IdentQuote
  | duckdb | postgres | snowflake | redshift => .double
  | mysql | bigquery | databricks => .backtick
  | tsql => .bracket

/-- Every occurrence of `c` written twice. -/
def doubleChar (c : Char) (s : String) : List Char :=
  s.toList.flatMap fun x => if x == c then [x, x] else [x]

/-- An identifier quoted for the dialect. -/
def quoteIdent (d : Dialect) (s : String) : String :=
  match d.identQuote with
  | .double => String.ofList ('"' :: doubleChar '"' s ++ ['"'])
  | .backtick => String.ofList ('`' :: doubleChar '`' s ++ ['`'])
  | .bracket => String.ofList ('[' :: doubleChar ']' s ++ [']'])

/-- A string literal: single quotes with a quote inside doubled; T-SQL marks a literal that
holds a non-ASCII character with `N`. -/
def quoteString (d : Dialect) (s : String) : String :=
  let body := String.ofList ('\'' :: doubleChar '\'' s ++ ['\''])
  if d == tsql && s.toList.any (fun c => c.toNat ≥ 128) then "N" ++ body else body

/-! ## Pagination and joins -/

/-- A count as the signed 64-bit number with the same bits: counts are unsigned 64-bit values
written through a signed literal. -/
def signedBits (n : Nat) : Int :=
  let m := n % Nat.pow 2 64
  if m < Nat.pow 2 63 then Int.ofNat m else Int.ofNat m - Int.pow 2 64

/-- Whether pagination needs an ORDER BY clause. -/
def requiresOrderByForOffset : Dialect → Bool
  | tsql => true
  | _ => false

/-- The pagination clause for a limit and an offset; empty when both are absent, except in
T-SQL, which always writes `OFFSET … ROWS` (offset 0 by default). -/
def limitOffset (d : Dialect) (limit offset : Option Nat) : String :=
  match d with
  | tsql =>
    let off := toString (signedBits (offset.getD 0))
    let fetch := match limit with
      | some n => " FETCH NEXT " ++ toString (signedBits n) ++ " ROWS ONLY"
      | none => ""
    "OFFSET " ++ off ++ " ROWS" ++ fetch
  | _ =>
    let lim := match limit with
      | some n => "LIMIT " ++ toString (signedBits n)
      | none => ""
    let off := match offset with
      | some n => (if limit.isSome then " " else "") ++ "OFFSET " ++ toString (signedBits n)
      | none => ""
    lim ++ off

/-- Whether FULL OUTER JOIN exists; per-model results are merged with LEFT JOIN otherwise. -/
def supportsFullOuterJoin : Dialect → Bool
  | mysql => false
  | _ => true

/-- Equality that also holds between two NULLs. -/
def nullSafeEq (d : Dialect) (l r : String) : String :=
  match d with
  | mysql => l ++ " <=> " ++ r
  | tsql | redshift => "(" ++ l ++ " = " ++ r ++ " OR (" ++ l ++ " IS NULL AND " ++ r ++ " IS NULL))"
  | _ => l ++ " IS NOT DISTINCT FROM " ++ r

/-! ## Dates -/

/-- MySQL spells each truncation out; an unknown grain becomes a format string. -/
def mysqlTrunc (grain e : String) : String :=
  if grain == "hour" then "DATE_FORMAT(" ++ e ++ ", '%Y-%m-%d %H:00:00')"
  else if grain == "day" then "DATE(" ++ e ++ ")"
  else if grain == "week" then "DATE_SUB(DATE(" ++ e ++ "), INTERVAL WEEKDAY(" ++ e ++ ") DAY)"
  else if grain == "month" then "DATE_FORMAT(" ++ e ++ ", '%Y-%m-01')"
  else if grain == "quarter" then
    "MAKEDATE(YEAR(" ++ e ++ "), 1) + INTERVAL (QUARTER(" ++ e ++ ") - 1) QUARTER"
  else if grain == "year" then "DATE_FORMAT(" ++ e ++ ", '%Y-01-01')"
  else "DATE_FORMAT(" ++ e ++ ", '" ++ grain ++ "')"

/-- An expression truncated to a grain. -/
def dateTrunc (d : Dialect) (grain e : String) : String :=
  match d with
  | mysql => mysqlTrunc grain e
  | bigquery =>
    if grain == "hour" then "TIMESTAMP_TRUNC(" ++ e ++ ", HOUR)"
    else "DATE_TRUNC(" ++ e ++ ", " ++ toUpperText grain ++ ")"
  | tsql => "DATETRUNC(" ++ grain ++ ", " ++ e ++ ")"
  | _ => "DATE_TRUNC('" ++ grain ++ "', " ++ e ++ ")"

/-- `INTERVAL '3 months'`: the amount and the unit in lower case, plural unless the amount is
one in absolute value. -/
def quotedInterval (amount : Int) (unit : String) : Except Error String := do
  let a ← Amount.abs amount
  let plural := if a == 1 then "" else "s"
  pure ("INTERVAL '" ++ toString amount ++ " " ++ toLowerText unit ++ plural ++ "'")

/-- `INTERVAL 3 MONTH`. -/
def keywordInterval (amount : Int) (unit : String) : String :=
  "INTERVAL " ++ toString amount ++ " " ++ toUpperText unit

/-- An interval literal, or `none` where the dialect has no interval type (T-SQL). -/
def intervalLiteral (d : Dialect) (amount : Int) (unit : String) : Except Error (Option String) :=
  match d with
  | tsql => pure none
  | mysql | bigquery | databricks => pure (some (keywordInterval amount unit))
  | _ => some <$> quotedInterval amount unit

/-- `DATEADD(unit, amount, expr)`. -/
def dateAddCall (e : String) (amount : Int) (unit : String) : String :=
  "DATEADD(" ++ toLowerText unit ++ ", " ++ toString amount ++ ", " ++ e ++ ")"

/-- An expression moved by `amount` units, backwards for a negative amount. -/
def dateAdd (d : Dialect) (e : String) (amount : Int) (unit : String) : Except Error String :=
  match d with
  | snowflake => pure (dateAddCall e amount unit)
  | bigquery => do
    let a ← Amount.abs amount
    let fn := if amount < 0 then "DATE_SUB" else "DATE_ADD"
    pure (fn ++ "(" ++ e ++ ", " ++ keywordInterval a unit ++ ")")
  | _ => do
    let a ← Amount.abs amount
    let op := if amount < 0 then "-" else "+"
    match ← d.intervalLiteral a unit with
    | some interval => pure (e ++ " " ++ op ++ " " ++ interval)
    | none => pure (dateAddCall e amount unit)

/-- Today's date. -/
def currentDate : Dialect → String
  | bigquery => "CURRENT_DATE()"
  | tsql => "CAST(GETDATE() AS DATE)"
  | _ => "CURRENT_DATE"

/-! ## Functions -/

/-- The median of an expression. -/
def median (d : Dialect) (e : String) : String :=
  match d with
  | postgres => "PERCENTILE_CONT(0.5) WITHIN GROUP (ORDER BY " ++ e ++ ")"
  | mysql => "AVG(" ++ e ++ ")"
  | bigquery => "APPROX_QUANTILES(" ++ e ++ ", 2)[OFFSET(1)]"
  | _ => "MEDIAN(" ++ e ++ ")"

/-- Function renames, by the upper-case name: `(names, replacement)` pairs. -/
def renames : Dialect → List (List String × String)
  | postgres | redshift => [(["NVL", "IFNULL", "ISNULL"], "COALESCE"), (["STRFTIME", "DATE_FORMAT"], "TO_CHAR")]
  | duckdb => [(["NVL", "IFNULL", "ISNULL"], "COALESCE"), (["TO_CHAR", "DATE_FORMAT"], "STRFTIME")]
  | mysql => [(["NVL", "ISNULL"], "IFNULL"), (["STRFTIME", "TO_CHAR"], "DATE_FORMAT"),
      (["SUBSTR"], "SUBSTRING")]
  | tsql => [(["NVL", "IFNULL"], "ISNULL"), (["LENGTH"], "LEN"), (["SUBSTR"], "SUBSTRING"),
      (["NOW"], "GETDATE")]
  | snowflake => [(["IFNULL", "ISNULL"], "NVL"), (["STRFTIME", "DATE_FORMAT"], "TO_CHAR")]
  | bigquery => [(["NVL", "ISNULL"], "IFNULL"), (["LENGTH"], "CHAR_LENGTH")]
  | databricks => [(["NVL", "ISNULL", "IFNULL"], "COALESCE"), (["TO_CHAR", "STRFTIME"], "DATE_FORMAT")]

/-- The replacement of a function name, matched without regard to case. -/
def remapFunction (d : Dialect) (fn : String) : Option String :=
  let up := toUpperText fn
  (d.renames.find? fun (names, _) => names.contains up).map (·.2)

/-- A function name as written: renamed for the dialect, then in upper case. -/
def functionName (d : Dialect) (fn : String) : String :=
  toUpperText ((d.remapFunction fn).getD fn)

end Dialect

end MetricLayer
