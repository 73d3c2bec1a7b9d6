import MetricLayer.Proofs.Compile.OutputColumns
import MetricLayer.Proofs.Rollup.Answer
/-!
# The columns a planned query returns

`QueryContext.outputColumns` names the columns of a request's result: the requested
dimensions, then the requested metrics, each under the output name of its reference. This
module follows the select list of the query `Graph.explain` renders.

* Read from the raw rows (`QueryContext.buildQuery`), in every shape and with or without the
  wrapper of window metrics, the select list names exactly the output columns
  (`QueryContext.buildQuery_names`).
* Answered from a rollup (`Graph.routeQuery`), it names the dimensions, then each metric by the
  name the router gives it (`OutputMetric.rollupName`): the name of the metric it resolves to,
  when that metric belongs to the routed model. A graph-level metric that stands for a model
  metric resolves to that metric, so its column takes the model metric's name, not its own.
* The ordering names output columns only.

Main statement: `Graph.explain_select_names`.
-/

namespace MetricLayer

open MetricLayer.Sql

namespace QueryContext

variable {ctx : QueryContext}

-- ============================================================================
-- The select lists of the built queries
-- ============================================================================

/-- The column of a requested metric is named for it; a window metric's is the input it runs
    over. -/
theorem metricColumn_name (c : MetricCompiler) (m : OutputMetric) :
    (metricColumn c m).Ensures fun item =>
      item.asName = some (if m.isWindow then m.column ++ "_input" else m.column) := by
  unfold metricColumn
  split
  · exact CompileM.Ensures.bind _ (CompileM.Ensures.trivial _) fun _ _ => CompileM.Ensures.pure (by simp)
  · exact CompileM.Ensures.bind _ (CompileM.Ensures.trivial _) fun _ _ => CompileM.Ensures.pure (by simp)

/-- Appending the column of each requested metric names one column for each, in order. -/
theorem metricColumns_names (c : MetricCompiler) (q : Query) :
    CompileM.Ensures (ctx.metrics.foldlM (fun (q : Query) (m : OutputMetric) => do
        let item ← metricColumn c m
        pure { q with select := q.select ++ [item] }) q) fun (r : Query) =>
      r.select.map (·.asName) = q.select.map (·.asName) ++
        ctx.metrics.map fun (m : OutputMetric) => some (if m.isWindow then m.column ++ "_input" else m.column) := by
  refine CompileM.Ensures.foldlM_append (fun (q : Query) => q.select.map (·.asName)) _ ?_ _ _
  intro q₀ m
  exact CompileM.Ensures.bind _ (metricColumn_name c m) fun item h_item =>
    CompileM.Ensures.pure (by simp [h_item])

/-- An inline query selects the requested dimensions, then the column of each requested
    metric. -/
theorem inlineQuery_names {base : String} {path : JoinPath} {q : Query}
    (h : ctx.inlineQuery base path = .ok q) :
    q.select.map (·.asName) = ctx.dimensions.map (fun d => some d.column) ++
      ctx.metrics.map fun m => some (if m.isWindow then m.column ++ "_input" else m.column) := by
  unfold inlineQuery at h
  obtain ⟨src, h_src, h⟩ := Except.bind_eq_ok.mp h
  dsimp only at h
  have h_empty : src.query.select = [] := (joinedSource_select h_src).1
  refine CompileM.Ensures.runFresh (P := fun r : Query => r.select.map (·.asName) = _) ?_ h
  refine CompileM.Ensures.bind _ (metricColumns_names _ _) fun q₁ h₁ => ?_
  -- grouping and the conditions on metrics leave the select list as it is
  refine (CompileM.Ensures.foldlM (P := fun (q : Query) => q.select = q₁.select) ?_ _ _ ?_).imp
    fun q₂ h₂ => ?_
  · intro q₂ f h₂
    refine CompileM.Ensures.bind _ (CompileM.Ensures.trivial _) fun cond _ => CompileM.Ensures.pure ?_
    split <;> exact h₂
  · split
    · rfl
    · split <;> rfl
  · rw [h₂, h₁, h_empty]
    simp [Function.comp_def]

/-- The merged query of the per-model shape selects the requested dimensions, then the column
    of each requested metric. -/
theorem perModelQuery_names {parts : List (String × JoinPath)} {q : Query}
    (h : ctx.perModelQuery parts = .ok q) :
    q.select.map (·.asName) = ctx.dimensions.map (fun d => some d.column) ++
      ctx.metrics.map fun m => some (if m.isWindow then m.column ++ "_input" else m.column) := by
  unfold perModelQuery at h
  obtain ⟨⟨ctes, aggs⟩, -, h⟩ := Except.bind_eq_ok.mp h
  dsimp only at h
  refine CompileM.Ensures.runFresh (P := fun r : Query => r.select.map (·.asName) = _) ?_ h
  refine CompileM.Ensures.bind _ (metricColumns_names _ _) fun q₁ h₁ => ?_
  refine (CompileM.Ensures.foldlM (P := fun (q : Query) => q.select = q₁.select) ?_ _ _ rfl).imp
    fun q₂ h₂ => ?_
  · intro q₂ f h₂
    exact CompileM.Ensures.bind _ (CompileM.Ensures.trivial _) fun cond _ =>
      CompileM.Ensures.pure h₂
  · -- the joins of the aggregate relations select nothing
    rw [h₂, h₁]
    refine (congrArg (fun (l : List SelectItem) => (l ++ _).map (·.asName) ++ _)
      (foldl_invariant (fun (acc : Query × List String) => acc.1.select = []) ?_ ?_)).trans ?_
    · exact fun _ _ _ h => h
    · rfl
    · simp [Function.comp_def]

/-- A query with window metrics selects the requested dimensions, then each requested metric
    under its output name. -/
theorem windowQuery_names {grouped q : Query} (h : ctx.windowQuery grouped = .ok q) :
    q.select.map (·.asName) = ctx.outputColumns.map some := by
  unfold windowQuery at h
  obtain ⟨⟨timeAlias, grain⟩, -, h⟩ := Except.bind_eq_ok.mp h
  dsimp only at h
  rw [foldlM_ok_append (fun (q : Query) => q.select.map (·.asName)) (fun m => some m.column) ?_ _ _ _ h]
  · simp [outputColumns, Function.comp_def]
  · -- a window metric or a plain one, each is one more column under its output name
    intro q₀ m q₁ h_m
    split at h_m
    · obtain ⟨e, -, h_m⟩ := Except.bind_eq_ok.mp h_m
      cases h_m
      simp
    · cases h_m
      simp

/-- A query read from the raw rows selects exactly the output columns, in order: the inline and
    per-model shapes name plain metrics by their output names, and with window metrics the
    wrapper does. -/
theorem buildQuery_names {q : Query} (h : ctx.buildQuery = .ok q) :
    q.select.map (·.asName) = ctx.outputColumns.map some := by
  unfold buildQuery at h
  dsimp only at h
  split at h
  · simp at h
  · obtain ⟨shape, -, h⟩ := Except.bind_eq_ok.mp h
    obtain ⟨ctes, -, h⟩ := Except.bind_eq_ok.mp h
    -- the grouped query names the dimensions, then each metric's column
    obtain ⟨grouped, h_grouped, h⟩ : ∃ grouped, grouped.select.map (·.asName) =
        ctx.dimensions.map (fun d => some d.column) ++
          ctx.metrics.map (fun m => some (if m.isWindow then m.column ++ "_input" else m.column)) ∧
        (do
          let q ← if ctx.hasWindowMetrics then ctx.windowQuery grouped else pure grouped
          pure { q with ctes := ctes ++ q.ctes } : Except Error Query) = .ok q := by
      cases shape with
      | inline base path =>
        obtain ⟨grouped, h_grouped, h⟩ := Except.bind_eq_ok.mp h
        exact ⟨grouped, inlineQuery_names h_grouped, h⟩
      | perModel parts =>
        obtain ⟨grouped, h_grouped, h⟩ := Except.bind_eq_ok.mp h
        exact ⟨grouped, perModelQuery_names h_grouped, h⟩
    split at h
    · obtain ⟨top, h_top, h_done⟩ := Except.bind_eq_ok.mp h
      cases h_done
      have h_names := windowQuery_names h_top
      exact h_names
    · -- without window metrics every metric column has the metric's output name
      rename_i h_plain
      cases h
      simp only [h_grouped, outputColumns, List.map_append, List.map_map]
      congr 1
      refine List.map_congr_left fun m h_m => ?_
      have h_not : m.isWindow = false := by
        cases h_w : m.isWindow
        · rfl
        · exact absurd (List.any_eq_true.mpr ⟨m, h_m, h_w⟩) h_plain
      simp [h_not]

-- ============================================================================
-- Ordering
-- ============================================================================

/-- The column an ordering field names is an output column. -/
theorem orderColumn_mem {field c : String} (h : ctx.orderColumn field = some c) :
    c ∈ ctx.outputColumns := by
  unfold orderColumn at h
  split at h
  · rename_i d h_d
    cases h
    exact List.mem_append_left _ (List.mem_map_of_mem (List.mem_of_find?_eq_some h_d))
  · obtain ⟨m, h_m, rfl⟩ := Option.map_eq_some_iff.mp h
    exact List.mem_append_right _ (List.mem_map_of_mem (List.mem_of_find?_eq_some h_m))

/-- Ordering and pagination leave the select list as it is. -/
theorem applyOrdering_select (r : QueryRequest) (q : Query) :
    (ctx.applyOrdering r q).select = q.select := by
  unfold applyOrdering
  dsimp only
  split <;> split <;> split <;> rfl

/-- Setting an ordering made of items that each name an output column keeps the query's own
    ordering or orders by output columns only. -/
theorem ordering_cases (q : Query) (f : String → Option OrderItem) (entries : List String)
    (h_f : ∀ entry o, f entry = some o → ∃ c ∈ ctx.outputColumns, o.expr = col c) :
    (if (entries.filterMap f).isEmpty then q else { q with orderBy := entries.filterMap f }).orderBy =
        q.orderBy ∨
      ∀ o ∈ (if (entries.filterMap f).isEmpty then q else { q with orderBy := entries.filterMap f }).orderBy,
        ∃ c ∈ ctx.outputColumns, o.expr = col c := by
  split
  · exact .inl rfl
  · right
    intro o h_o
    obtain ⟨entry, -, h_entry⟩ := List.mem_filterMap.mp h_o
    exact h_f entry o h_entry

/-- The ordering keeps the query's own, or orders by output columns only. -/
theorem applyOrdering_orderBy (r : QueryRequest) (q : Query) :
    (ctx.applyOrdering r q).orderBy = q.orderBy ∨
      ∀ o ∈ (ctx.applyOrdering r q).orderBy, ∃ c ∈ ctx.outputColumns, o.expr = col c := by
  unfold applyOrdering
  dsimp only
  -- pagination keeps the ordering; each entry the ordering keeps names an output column
  split <;> split
  all_goals
    refine ordering_cases q _ r.orderBy fun entry o h_o => ?_
    split at h_o
    · cases h_o
    · obtain ⟨c, h_c, rfl⟩ := Option.map_eq_some_iff.mp h_o
      exact ⟨c, orderColumn_mem h_c, rfl⟩

end QueryContext

-- ============================================================================
-- Queries answered from a rollup
-- ============================================================================

/-- The name a rollup query gives a requested metric: the name of the metric it resolves to,
    when that metric belongs to the routed model, else the reference it was requested by. -/
def OutputMetric.rollupName (model : String) (m : OutputMetric) : String :=
  if m.resolved.modelName == some model then m.resolved.metric.name else m.reference

/-- A requested dimension keeps its output name in a rollup. -/
theorem Rollup.dimensionColumn_eq (d : ResolvedDimension) :
    Rollup.dimensionColumn (d.dimension.name, d.granularity) = d.column := by
  unfold Rollup.dimensionColumn ResolvedDimension.column
  cases d.granularity <;> rfl

namespace Graph

/-- A request routed to a rollup is on one model, and its query selects the requested
    dimensions, then each requested metric under the name the router gives it. -/
theorem routeQuery_rollup {g : Graph} {s : Settings} {ctx : QueryContext} {r : QueryRequest}
    {decision : Rollup.Decision} {q : Query} (h : g.routeQuery s ctx r = .ok (decision, some q)) :
    ∃ model, ctx.models = [model] ∧ q.select.map (·.asName) =
      (ctx.dimensions.map (·.column) ++ ctx.metrics.map (OutputMetric.rollupName model)).map some := by
  unfold routeQuery at h
  split at h
  · cases h
  · split at h
    · rename_i modelName h_models
      obtain ⟨model, h_model, h⟩ := Except.bind_eq_ok.mp h
      have h_name := (getModel_ok h_model).2
      dsimp only at h
      split at h
      · cases h
      · split at h
        · cases h
        · obtain ⟨q', h_q', h_done⟩ := Except.bind_eq_ok.mp h
          cases h_done
          refine ⟨modelName, h_models, ?_⟩
          rw [(Rollup.rollupQuery_columns h_q').2.2]
          simp [Function.comp_def, Rollup.dimensionColumn_eq, OutputMetric.rollupName, h_name]
    · cases h

/-- The query `explain` renders is read from the raw rows, and selects exactly the output
    columns, or it is answered from a rollup on one model, and selects the requested dimensions
    then each requested metric under the name the router gives it. Either way its ordering is
    its own or names output columns only. -/
theorem explain_select_names {g : Graph} {s : Settings} {r : QueryRequest} {today : String}
    {plan : QueryPlan} (h : g.explain s r today = .ok plan) :
    ∃ ctx q, QueryContext.resolve g r (requestDialect s r) today = .ok ctx ∧
      plan.sql = (ctx.applyOrdering r q).render (requestDialect s r) ∧
      (q.select.map (·.asName) = ctx.outputColumns.map some ∨
        ∃ model, ctx.models = [model] ∧ q.select.map (·.asName) =
          (ctx.dimensions.map (·.column) ++ ctx.metrics.map (OutputMetric.rollupName model)).map some) ∧
      ((ctx.applyOrdering r q).orderBy = q.orderBy ∨
        ∀ o ∈ (ctx.applyOrdering r q).orderBy, ∃ c ∈ ctx.outputColumns, o.expr = col c) := by
  unfold explain at h
  obtain ⟨_, -, h⟩ := Except.bind_eq_ok.mp h
  obtain ⟨ctx, h_ctx, h⟩ := Except.bind_eq_ok.mp h
  obtain ⟨⟨decision, rollup⟩, h_route, h⟩ := Except.bind_eq_ok.mp h
  dsimp only at h
  cases rollup with
  | some q =>
    cases h
    exact ⟨ctx, q, h_ctx, rfl, .inr (routeQuery_rollup h_route), ctx.applyOrdering_orderBy r q⟩
  | none =>
    obtain ⟨q, h_q, h_done⟩ := Except.bind_eq_ok.mp h
    cases h_done
    exact ⟨ctx, q, h_ctx, rfl, .inl (QueryContext.buildQuery_names h_q), ctx.applyOrdering_orderBy r q⟩

end Graph

-- ============================================================================
-- Total revenue, answered from a rollup
-- ============================================================================

/-- Orders, with a rollup of their revenue by status. -/
def rolledOrders : Model :=
  { name := "orders", table := some "orders", primaryKey := "order_id",
    dimensions := [{ name := "status" }],
    metrics := [{ name := "revenue", agg := some .sum, sql := some "amount" }],
    preAggregations := [{ name := "by_status", measures := ["revenue"], dimensions := ["status"] }] }

/-- A graph-level metric that stands for the revenue of the orders. -/
def totalRevenue : Metric := { name := "total_revenue", sql := some "orders.revenue" }

/-- The orders and the metric that stands for their revenue. -/
def rolledGraph : Graph := { models := [rolledOrders], metrics := [totalRevenue] }

/-- Total revenue by status, ordered by it, answered from a rollup where one covers it. -/
def totalByStatus : QueryRequest :=
  { metrics := ["total_revenue"], dimensions := ["orders.status"], orderBy := ["total_revenue"],
    usePreaggregations := some true }

theorem totalByStatus_select_names :
    ∃ plan, rolledGraph.explain Settings.default totalByStatus "2024-06-30" = .ok plan ∧
      ∃ ctx q, QueryContext.resolve rolledGraph totalByStatus
          (Graph.requestDialect Settings.default totalByStatus) "2024-06-30" = .ok ctx ∧
        plan.sql = (ctx.applyOrdering totalByStatus q).render
          (Graph.requestDialect Settings.default totalByStatus) ∧
        (q.select.map (·.asName) = ctx.outputColumns.map some ∨
          ∃ model, ctx.models = [model] ∧ q.select.map (·.asName) =
            (ctx.dimensions.map (·.column) ++ ctx.metrics.map (OutputMetric.rollupName model)).map some) ∧
        ((ctx.applyOrdering totalByStatus q).orderBy = q.orderBy ∨
          ∀ o ∈ (ctx.applyOrdering totalByStatus q).orderBy, ∃ c ∈ ctx.outputColumns, o.expr = col c) := by
  have h_some : (rolledGraph.explain Settings.default totalByStatus "2024-06-30").toOption.isSome := by
    decide +kernel
  obtain ⟨plan, h_plan⟩ : ∃ plan, rolledGraph.explain Settings.default totalByStatus "2024-06-30" = .ok plan := by
    cases h : rolledGraph.explain Settings.default totalByStatus "2024-06-30" with
    | error e => simp [h, Except.toOption] at h_some
    | ok plan => exact ⟨plan, rfl⟩
  exact ⟨plan, h_plan, Graph.explain_select_names h_plan⟩

/-- The orders registered, then the graph-level metric that stands for their revenue. -/
def rolledRegistration : Except Error Graph :=
  ({} : Graph).addModel rolledOrders >>= (·.addMetric totalRevenue)

/-- Registering the orders and the graph-level metric for their revenue, then asking for total
    revenue by status from the rollup: the query names the metric's column `revenue`, after the
    model metric the graph-level one stands for, while the output columns, and the ordering,
    name it `total_revenue`. -/
theorem passThrough_metric_renamed_by_rollup :
    (rolledRegistration >>= fun g => g.generate Settings.default totalByStatus "2024-06-30").toOption =
        some "SELECT\n  \"status\" AS \"status\",\n  SUM(\"revenue_raw\") AS \"revenue\"\nFROM \"orders_preagg_by_status\"\nGROUP BY \"status\"\nORDER BY \"total_revenue\"" ∧
      (rolledRegistration >>= fun g => g.outputColumns Settings.default totalByStatus "2024-06-30").toOption =
        some ["status", "total_revenue"] := by
  constructor <;> decide +kernel

end MetricLayer
