import MetricLayer.Amount
import MetricLayer.Compile.Builder
import MetricLayer.Compile.Context
import MetricLayer.Compile.Metric
import MetricLayer.Compile.Plan
import MetricLayer.Decimal.Binary
import MetricLayer.Decimal.Fixed
import MetricLayer.Decimal.Layout
import MetricLayer.Decimal.Read
import MetricLayer.Decimal.Shortest
import MetricLayer.Error
import MetricLayer.Formula.Eval
import MetricLayer.Formula.Lexer
import MetricLayer.Formula.Parser
import MetricLayer.Formula.Syntax
import MetricLayer.Graph.Basic
import MetricLayer.Graph.Cycle
import MetricLayer.Graph.Dependencies
import MetricLayer.Graph.Join
import MetricLayer.Graph.Registry
import MetricLayer.Json
import MetricLayer.Json.Decode
import MetricLayer.Json.Parse
import MetricLayer.Json.Plan
import MetricLayer.Json.Request
import MetricLayer.Json.Schema
import MetricLayer.Params.Parameter
import MetricLayer.Params.Set
import MetricLayer.Proofs.Graph.JoinTree
import MetricLayer.Proofs.Outcome
import MetricLayer.Proofs.Sql.Lineage
import MetricLayer.Proofs.Validation.Filters
import MetricLayer.Query.Request
import MetricLayer.Rollup.Query
import MetricLayer.Rollup.Router
import MetricLayer.Schema.FieldRef
import MetricLayer.Schema.Granularity
import MetricLayer.Schema.Metric
import MetricLayer.Schema.Model
import MetricLayer.Schema.Order
import MetricLayer.Schema.RefToken
import MetricLayer.Settings.Config
import MetricLayer.Settings.Read
import MetricLayer.Settings.Toml
import MetricLayer.Sql.Dialect
import MetricLayer.Sql.Expr
import MetricLayer.Sql.Query
import MetricLayer.TableCalc.Calculation
import MetricLayer.TableCalc.Cell
import MetricLayer.TableCalc.Process
import MetricLayer.Template.Builtins
import MetricLayer.Template.Lexer
import MetricLayer.Template.Ops
import MetricLayer.Template.Parser
import MetricLayer.Template.Printf
import MetricLayer.Template.Render
import MetricLayer.Template.Syntax
import MetricLayer.Template.Value
import MetricLayer.Text.Blank
import MetricLayer.Text.Case
import MetricLayer.Text.LetterCase
import MetricLayer.Text.Printable
import MetricLayer.Text.Ranges
import MetricLayer.Text.Split
import MetricLayer.Text.Utf8
import MetricLayer.Text.WordChar
import MetricLayer.Time.Comparison
import MetricLayer.Time.Relative
import MetricLayer.Time.Unit
import MetricLayer.Validation.Metric
import MetricLayer.Validation.Model
import MetricLayer.Validation.Query
import MetricLayer.Proofs.Compile.Columns
import MetricLayer.Proofs.Compile.Shapes
import MetricLayer.Proofs.Compile.OutputColumns
import MetricLayer.Proofs.Rollup.Answer
import MetricLayer.Proofs.Graph.ShortestPath
import MetricLayer.Proofs.Graph.Symmetry
import MetricLayer.Proofs.Compile.Explain
import MetricLayer.Proofs.Compile.Conditions
import MetricLayer.Proofs.Graph.Registry
import MetricLayer.Proofs.Rollup.Servable
import MetricLayer.Proofs.Graph.CanonicalNames
import MetricLayer.Proofs.Graph.CycleSearch
import MetricLayer.Proofs.Compile.MemoRuns
import MetricLayer.Proofs.Compile.Memo
import MetricLayer.Proofs.Graph.ShortestTree
import MetricLayer.Proofs.Rollup.Selection
import MetricLayer.Proofs.Compile.Stack
import MetricLayer.Proofs.Params.Literals
import MetricLayer.Proofs.Params.Interpolation
import MetricLayer.Proofs.Formula.Grammar
import MetricLayer.Proofs.Formula.Integers
import MetricLayer.Proofs.Formula.Tokens
import MetricLayer.Proofs.Schema.References
import MetricLayer.Proofs.Sql.Reading
import MetricLayer.Proofs.Time.RelativeFilters
import MetricLayer.Proofs.Time.Amounts
import MetricLayer.Proofs.Sql.Quoting
import MetricLayer.Proofs.Sql.Pagination
import MetricLayer.Proofs.TableCalc.Frames
import MetricLayer.Proofs.TableCalc.RunningTotals
import MetricLayer.Proofs.TableCalc.Partitions
import MetricLayer.Proofs.Decimal.Order
import MetricLayer.Proofs.Decimal.Integers
import MetricLayer.Proofs.TableCalc.Ranks
import MetricLayer.Proofs.Rollup.Scoring
import MetricLayer.Proofs.Time.Calendar
import MetricLayer.Proofs.Compile.Ordering
import MetricLayer.Proofs.Compile.RowMetrics
import MetricLayer.Proofs.Schema.FieldRefs
import MetricLayer.Proofs.Settings.Environment
import MetricLayer.Proofs.Sql.Conjunction
import MetricLayer.Proofs.Compile.Resolution
