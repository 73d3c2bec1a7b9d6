import MetricLayer.Compile.Plan
import MetricLayer.Proofs.Outcome
/-!
# What validation checks of a filter, and what compilation asks of it

A request is checked before it is compiled, but the two read its filters differently. The
check (`Graph.reviewFilter`) scans the filter as written and asks of each `model.field` token
only that the field be a dimension or a metric of a registered model. Compilation
(`QueryContext.addFilter`) scans the filter after parameters and relative dates are filled
in, and for each metric token searches the metric's dependencies for the rows they read.

So a metric named only in a filter is never checked the way a requested metric is: its
formula may name a metric that does not exist, the check passes, and compilation fails.

Main statements:

* `Graph.reviewFilter_problems_of_known`: a filter whose tokens all name known fields adds no
  problem, whatever the definitions of the metrics it names;
* `QueryContext.collectRowMetrics_of_unresolved`: the dependency search stops at the first
  dependency that does not resolve, with its error;
* `filterMetric_dependency_escapes_validation`: a request that passes the check and fails to
  compile with `metricNotFound`.
-/

namespace MetricLayer

open MetricLayer.Text

namespace Graph

-- ============================================================================
-- The check of a filter
-- ============================================================================

@[simp] theorem Review.touch_problems (rv : Review) (m : String) :
    (rv.touch m).problems = rv.problems := by
  unfold Review.touch; split <;> rfl

/-- A filter token names a known field when, for a registered model, the field (before any
    `__grain`) is a dimension of it or the field is a metric of it. -/
def fieldKnown (g : Graph) (token : String) : Prop :=
  ∀ modelName fieldName model, splitOnce token "." = some (modelName, fieldName) →
    g.model? modelName = some model →
    (model.dimension? (((splitOnce fieldName "__").map (·.1)).getD fieldName)).isSome ∨
      (model.metric? fieldName).isSome

/-- The check of a filter reports nothing when every token names a known field: a metric token
    is accepted on its name alone, whatever its formula depends on. -/
theorem reviewFilter_problems_of_known (g : Graph) (rv : Review) (filter : String)
    (h_known : ∀ t ∈ RefToken.scan filter, g.fieldKnown t.name) :
    (g.reviewFilter rv filter).problems = rv.problems := by
  unfold reviewFilter
  generalize RefToken.scan filter = tokens at h_known
  induction tokens generalizing rv with
  | nil => rfl
  | cons t ts ih =>
    rw [List.foldl_cons, ih _ (fun t' ht' => h_known t' (List.mem_cons_of_mem t ht'))]
    split
    · rfl
    · rename_i modelName fieldName h_split
      split
      · rfl
      · rename_i model h_model
        have h_field := h_known t List.mem_cons_self modelName fieldName model h_split h_model
        dsimp only
        split
        · -- the problem branch needs a field that is neither a dimension nor a metric
          rename_i h_bad
          simp only [Bool.and_eq_true, Option.isNone_iff_eq_none] at h_bad
          rcases h_field with h_dim | h_metric
          · simp [h_bad.1] at h_dim
          · simp [h_bad.2] at h_metric
        · simp

end Graph

-- ============================================================================
-- The dependency search of compilation
-- ============================================================================

namespace QueryContext

@[simp] theorem touch_graph (ctx : QueryContext) (m : String) :
    (ctx.touch m).graph = ctx.graph := by
  unfold touch; split <;> rfl

/-- A metric not searched yet whose first dependency does not resolve stops the search with
    the resolution's error. -/
theorem collectRowMetrics_of_unresolved (ctx : QueryContext) (fuel : Nat) (r : ResolvedMetric)
    {d : String} {ds : List String} {e : Error}
    (h_new : ctx.visited.contains r.canonical = false)
    (h_deps : ctx.graph.dependencies r.metric r.modelName = d :: ds)
    (h_missing : ctx.graph.resolveMetric d r.modelName = .error e) :
    ctx.collectRowMetrics (fuel + 1) r = .error e := by
  unfold collectRowMetrics
  simp only [h_new, Bool.false_eq_true, ↓reduceIte, h_deps]
  -- whether or not the metric reads rows, the graph is the same when `d` is resolved
  split <;> simp [List.foldlM_cons, h_missing, bind, Except.bind]

end QueryContext

-- ============================================================================
-- A request the check passes and compilation refuses
-- ============================================================================

/-- Orders with a derived metric whose formula names a metric that does not exist. -/
def refundsModel : Model :=
  { name := "orders", table := some "orders", primaryKey := "order_id",
    dimensions := [{ name := "status" }],
    metrics := [{ name := "revenue", agg := some .sum, sql := some "amount" },
                { name := "adjusted", kind := .derived, sql := some "${revenue} - ${refunds}" }] }

/-- Revenue, restricted by a filter on the derived metric. -/
def refundsRequest : QueryRequest :=
  { metrics := ["orders.revenue"], filters := ["orders.adjusted > 0"] }

/-- The filter's metric passes the check by name, and compilation then looks for `refunds`. -/
theorem filterMetric_dependency_escapes_validation :
    ∃ g, ({} : Graph).addModel refundsModel = .ok g ∧ g.validateQuery refundsRequest = .ok () ∧
      g.explain Settings.default refundsRequest "2024-06-30" =
        .error (.metricNotFound "refunds") := by
  refine ⟨{ models := [refundsModel] }, rfl, ?_, eq_error_of_errorPart (by decide +kernel)⟩
  have h_clean : Graph.queryProblems { models := [refundsModel] } refundsRequest = [] := by
    decide +kernel
  rw [Graph.validateQuery, h_clean]

end MetricLayer
