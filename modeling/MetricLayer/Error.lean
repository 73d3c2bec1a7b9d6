/-!
# Errors of the semantic layer

Every failure of a lookup, a registration, a validation or a compilation is one `Error`, named
for its cause. `Error.message` is the one place where the wording lives.
-/

namespace MetricLayer

/-- The kinds of definition the registry holds under unique names. -/
inductive DefinitionKind where
  | model
  | metric
  | parameter
  deriving Repr, DecidableEq, Inhabited

/-- The capitalised word for a kind of definition. -/
def DefinitionKind.word : DefinitionKind → String
  | .model => "Model"
  | .metric => "Metric"
  | .parameter => "Parameter"

/-- Why an operation of the semantic layer failed. -/
inductive Error where
  | modelNotFound (name : String)
  | metricNotFound (name : String)
  | dimensionNotFound (model dimension : String)
  | segmentNotFound (name : String)
  | parameterNotFound (name : String)
  /-- A different definition is already registered under the name. -/
  | duplicate (kind : DefinitionKind) (name : String)
  | noPath (source target : String)
  | invalidReference (detail : String)
  | modelInvalid (model : String) (problems : List String)
  | metricInvalid (metric : String) (problems : List String)
  | queryInvalid (problems : List String)
  /-- The metrics of a dependency cycle, its first metric repeated at the end. -/
  | cyclicDependency (cycle : List String)
  | invalidParameterValue (name detail : String)
  /-- A template fragment could not be read or rendered. -/
  | template
  | invalidTimeComparison (detail : String)
  | unknownCalculation (text : String)
  | unsupportedMetric (metric reason : String)
  /-- An amount left the range of 64-bit integers. -/
  | overflow
  deriving Repr, DecidableEq, Inhabited

/-- Problems joined the way a validation error lists them. -/
def joinProblems (problems : List String) : String := String.intercalate "; " problems

/-- The text of an error. -/
def Error.message : Error → String
  | .modelNotFound n => s!"Model '{n}' not found"
  | .metricNotFound n => s!"Metric '{n}' not found"
  | .dimensionNotFound m d => s!"Dimension '{d}' not found on model '{m}'"
  | .segmentNotFound n => s!"Segment '{n}' not found"
  | .parameterNotFound n => s!"Parameter '{n}' not found"
  | .duplicate k n => k.word ++ s!" '{n}' already exists"
  | .noPath a b => s!"No join path found between models '{a}' and '{b}'"
  | .invalidReference d => s!"Invalid reference: {d}"
  | .modelInvalid m ps => s!"Model '{m}' is invalid: " ++ joinProblems ps
  | .metricInvalid m ps => s!"Metric '{m}' is invalid: " ++ joinProblems ps
  | .queryInvalid ps => "Query validation failed: " ++ joinProblems ps
  | .cyclicDependency c => "Circular metric dependency: " ++ String.intercalate " -> " c
  | .invalidParameterValue n d => s!"Invalid value for parameter '{n}': {d}"
  | .template => "Template error"
  | .invalidTimeComparison d => s!"Invalid time comparison: {d}"
  | .unknownCalculation t => s!"Unknown calculation type: {t}"
  | .unsupportedMetric m r => s!"Metric '{m}' cannot be compiled: {r}"
  | .overflow => "arithmetic overflow"

/-- The name of an error's kind, as answers report it. -/
def Error.kind : Error → String
  | .modelNotFound _ => "ModelNotFound"
  | .metricNotFound _ => "MetricNotFound"
  | .dimensionNotFound _ _ => "DimensionNotFound"
  | .segmentNotFound _ => "SegmentNotFound"
  | .parameterNotFound _ => "ParameterNotFound"
  | .duplicate _ _ => "Duplicate"
  | .noPath _ _ => "NoPath"
  | .invalidReference _ => "InvalidReference"
  | .modelInvalid _ _ => "ModelValidation"
  | .metricInvalid _ _ => "MetricValidation"
  | .queryInvalid _ => "QueryValidation"
  | .cyclicDependency _ => "CyclicDependency"
  | .invalidParameterValue _ _ => "InvalidParameterValue"
  | .template => "Template"
  | .invalidTimeComparison _ => "InvalidTimeComparison"
  | .unknownCalculation _ => "UnknownCalculation"
  | .unsupportedMetric _ _ => "UnsupportedMetric"
  | .overflow => "panic"

end MetricLayer
