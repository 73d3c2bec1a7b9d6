import MetricLayer.Schema.Metric
/-!
# Models

A model is a table, or a SQL query, with a primary key, the dimensions its rows are grouped
by, the metrics measured on them, relationships to other models, named row conditions
(segments) and rollup tables (pre-aggregations) that store some metrics already grouped.
-/

namespace MetricLayer

/-- The kinds of dimension. -/
inductive DimensionKind where
  | categorical
  | time
  | boolean
  | numeric
  deriving Repr, DecidableEq, Inhabited

namespace DimensionKind

/-- All kinds of dimension. -/
def all : List DimensionKind := [categorical, time, boolean, numeric]

/-- The name of a kind. -/
def name : DimensionKind → String
  | categorical => "categorical"
  | time => "time"
  | boolean => "boolean"
  | numeric => "numeric"

/-- The kind with a name. -/
def ofName? (s : String) : Option DimensionKind := all.find? (·.name == s)

end DimensionKind

/-- A column, or expression, that rows are grouped by. -/
structure Dimension where
  name : String
  kind : DimensionKind := .categorical
  sql : Option String := none
  /-- The grain of a time dimension's values. -/
  granularity : Option Granularity := none
  description : Option String := none
  label : Option String := none
  deriving Repr, DecidableEq, Inhabited

namespace Dimension

/-- The SQL of a dimension; its name when it has none. -/
def sqlExpr (d : Dimension) : String := d.sql.getD d.name

/-- Whether a dimension holds timestamps. -/
def isTime (d : Dimension) : Bool := d.kind == .time

end Dimension

/-- How many rows of each side a relationship matches. -/
inductive RelationshipKind where
  | manyToOne
  | oneToMany
  | oneToOne
  deriving Repr, DecidableEq, Inhabited

namespace RelationshipKind

/-- All kinds of relationship. -/
def all : List RelationshipKind := [manyToOne, oneToMany, oneToOne]

/-- The name of a kind. -/
def name : RelationshipKind → String
  | manyToOne => "many_to_one"
  | oneToMany => "one_to_many"
  | oneToOne => "one_to_one"

/-- The kind with a name. -/
def ofName? (s : String) : Option RelationshipKind := all.find? (·.name == s)

/-- The same relationship seen from the other side. -/
def reversed : RelationshipKind → RelationshipKind
  | manyToOne => oneToMany
  | oneToMany => manyToOne
  | oneToOne => oneToOne

end RelationshipKind

/-- A relationship from the declaring model to the model `name`. -/
structure Relationship where
  name : String
  kind : RelationshipKind
  foreignKey : Option String := none
  primaryKey : Option String := none
  deriving Repr, DecidableEq, Inhabited

/-- The foreign key column of a relationship: as declared, else `<target>_id` for many-to-one
and `<declaring model>_id` otherwise. -/
def Relationship.foreignKeyColumn (r : Relationship) (declaring : String) : String :=
  match r.foreignKey with
  | some fk => fk
  | none => match r.kind with
    | .manyToOne => r.name ++ "_id"
    | _ => declaring ++ "_id"

/-- A named row condition of a model. -/
structure Segment where
  name : String
  sql : String
  description : Option String := none
  deriving Repr, DecidableEq, Inhabited

/-- A rollup table that stores some metrics grouped by some dimensions, and optionally by a time
dimension truncated to a grain. -/
structure PreAggregation where
  name : String
  measures : List String := []
  dimensions : List String := []
  timeDimension : Option String := none
  granularity : Option Granularity := none
  deriving Repr, DecidableEq, Inhabited

namespace PreAggregation

/-- The table a rollup of `model` is stored in. -/
def tableName (p : PreAggregation) (model : String) : String :=
  model ++ "_preagg_" ++ p.name

/-- The rollup's column for the truncated time dimension. -/
def timeColumn (p : PreAggregation) : Option String :=
  match p.timeDimension, p.granularity with
  | some td, some g => some (td ++ "_" ++ g.name)
  | _, _ => none

end PreAggregation

/-- A model definition. -/
structure Model where
  name : String
  table : Option String := none
  sql : Option String := none
  primaryKey : String := ""
  dimensions : List Dimension := []
  metrics : List Metric := []
  relationships : List Relationship := []
  segments : List Segment := []
  preAggregations : List PreAggregation := []
  description : Option String := none
  deriving Repr, BEq, Inhabited

namespace Model

/-- The first dimension with a name. -/
def dimension? (m : Model) (name : String) : Option Dimension :=
  m.dimensions.find? (·.name == name)

/-- The first metric with a name. -/
def metric? (m : Model) (name : String) : Option Metric :=
  m.metrics.find? (·.name == name)

/-- The first segment with a name. -/
def segment? (m : Model) (name : String) : Option Segment :=
  m.segments.find? (·.name == name)

/-- The first time dimension. -/
def defaultTimeDimension? (m : Model) : Option Dimension :=
  m.dimensions.find? (·.isTime)

end Model

end MetricLayer
