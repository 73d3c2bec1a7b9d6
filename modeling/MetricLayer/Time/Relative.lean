import MetricLayer.Time.Unit
import MetricLayer.Sql.Dialect
import MetricLayer.Text.Split
/-!
# Relative dates

Filters may compare a column with a phrase such as `'last 7 days'`. A phrase is read without
regard to case or surrounding blanks:

* `today`, `yesterday`, `tomorrow`;
* `last N days|weeks|months|quarters|years` (singular or plural);
* `this|last|next week|month|quarter|year`.

Single days compare with `=`; rolling windows of days and weeks are open-ended; calendar periods
are half-open ranges `[start, start + 1 unit)`. Any other text is left to the database.
-/

namespace MetricLayer

/-- A recognised relative date phrase. -/
inductive RelativeDate where
  | today
  | yesterday
  | tomorrow
  /-- `last N units`. -/
  | lastN (amount : Int) (unit : TimeUnit)
  /-- `this|last|next unit`: a shift of 0, -1 or 1 periods. -/
  | period (shift : Int) (unit : TimeUnit)
  deriving Repr, DecidableEq, Inhabited

namespace RelativeDate

open MetricLayer.Text

/-- The units a phrase may name. -/
def unitWords : List String := ["day", "week", "month", "quarter", "year"]

/-- The units a calendar period may name. -/
def periodWords : List String := ["week", "month", "quarter", "year"]

/-- Reads `N unit` or `N units` after `last `. -/
def readLastN (rest : String) : Option RelativeDate :=
  match splitOnce rest " " with
  | some (digits, unitText) =>
    if digits.isEmpty || !digits.toList.all Char.isDigit then none
    else
      let singular := String.ofList unitText.toList.dropLast
      let stem := if unitWords.contains unitText then some unitText
        else if unitText.toList.getLast? == some 's' && unitWords.contains singular
        then some singular else none
      match stem, Decimal.readI64? digits with
      | some u, some n => (TimeUnit.ofName? u).map (lastN n)
      | _, _ => none
  | none => none

/-- Reads a phrase. -/
def parse (phrase : String) : Option RelativeDate :=
  let p := toLowerText (trimBlank phrase)
  if p == "today" then some today
  else if p == "yesterday" then some yesterday
  else if p == "tomorrow" then some tomorrow
  else
    let lastN? := match splitOnce p "last " with
      | some ("", rest) => readLastN rest
      | _ => none
    match lastN? with
    | some r => some r
    | none =>
      match splitOnce p " " with
      | some (w, u) =>
        let shift : Option Int :=
          if w == "this" then some 0 else if w == "last" then some (-1)
          else if w == "next" then some 1 else none
        match shift, (if periodWords.contains u then TimeUnit.ofName? u else none) with
        | some s, some unit => some (period s unit)
        | _, _ => none
      | none => none

/-- The first day of the range, as a SQL date expression. -/
def startSql (r : RelativeDate) (d : Dialect) : Except Error String := do
  let today := d.currentDate
  match r with
  | .today => pure today
  | .yesterday => d.dateAdd today (-1) "day"
  | .tomorrow => d.dateAdd today 1 "day"
  | .lastN n .day => d.dateAdd today (← Amount.neg n) "day"
  | .lastN n .week => d.dateAdd today (← Amount.mul (← Amount.neg n) 7) "day"
  | .lastN n u =>
    let trunc := d.dateTrunc u.name today
    let (a, unitName) ← u.intervalParts n
    d.dateAdd trunc (← Amount.neg a) unitName
  | .period s u =>
    let trunc := d.dateTrunc u.name today
    if s == 0 then pure trunc
    else
      let (a, unitName) ← u.intervalParts s
      d.dateAdd trunc a unitName

/-- The whole predicate of the range over `column`. -/
def toRange (r : RelativeDate) (column : String) (d : Dialect) : Except Error String := do
  let start ← r.startSql d
  match r with
  | .today | .yesterday | .tomorrow => pure (column ++ " = " ++ start)
  | .lastN _ .day | .lastN _ .week => pure (column ++ " >= " ++ start)
  | .lastN _ u =>
    let stop := d.dateTrunc u.name d.currentDate
    pure (column ++ " >= " ++ start ++ " AND " ++ column ++ " < " ++ stop)
  | .period _ u =>
    let (a, unitName) ← u.intervalParts 1
    let stop ← d.dateAdd start a unitName
    pure (column ++ " >= " ++ start ++ " AND " ++ column ++ " < " ++ stop)

end RelativeDate

/-! ## Comparisons in filters -/

/-- The comparison operators a filter may use before a quoted phrase, longest first. -/
def comparisonOps : List String := [">=", "<=", ">", "<", "="]

/-- A filter of the form `column <op> 'value'` (either quote on either side), with the column
as short as possible: `(column, op, value)`. The column and value hold no line break. -/
def splitComparison (s : String) : Option (String × String × String) :=
  let cs := s.toList
  let n := cs.length
  let quoteChar (c : Char) : Bool := c == '\'' || c == '"'
  -- the value: from after the opening quote to before the final quote
  let tryAt (len : Nat) : Option (String × String × String) :=
    let column := cs.take len
    let afterCol := (cs.drop len).dropWhile Text.isBlank
    match comparisonOps.find? fun op => op.toList.isPrefixOf afterCol with
    | none => none
    | some op =>
      let afterOp := (afterCol.drop op.length).dropWhile Text.isBlank
      match afterOp with
      | q :: rest =>
        if quoteChar q && rest.length ≥ 2 then
          let value := rest.dropLast
          if (rest.getLast?.any quoteChar) && !value.contains '\n' then
            some (String.ofList column, op, String.ofList value)
          else none
        else none
      | [] => none
  let lens := (List.range n).map (· + 1) |>.filter fun len => !(cs.take len).contains '\n'
  lens.findSome? tryAt

/-- Replaces `column <op> 'phrase'` when the phrase is a relative date: `>=` and `>` compare
with the start of the range, `=` becomes the whole range; anything else is kept as written. -/
def expandRelativeDates (filter : String) (d : Dialect) : Except Error String :=
  match splitComparison (Text.trimBlank filter) with
  | none => pure filter
  | some (column, op, value) =>
    match RelativeDate.parse value with
    | none => pure filter
    | some r =>
      if op == ">=" || op == ">" then do
        pure (column ++ " " ++ op ++ " " ++ (← r.startSql d))
      else if op == "=" then r.toRange column d
      else pure filter

end MetricLayer
