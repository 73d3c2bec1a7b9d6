import MetricLayer.Compile.Plan
import MetricLayer.Proofs.Outcome
import MetricLayer.Proofs.Sql.Lineage
/-!
# What a rollup query selects

A request routed to a rollup is answered from the rollup's table alone (`Rollup.rollupQuery`):
one column for each requested dimension, under the dimension's name (with `__grain` when it is
truncated), then one column for each requested metric, under the metric's name, its stored
measure aggregated again (`Rollup.reaggregate`). Filters and grouping leave the columns as they
are.

Aggregating a stored count again sums it. A sum over no rows is `NULL`, where a count over no
rows is `0`: `routedCount_sums_stored_counts` gives both queries of one count with no dimension.
-/

namespace MetricLayer.Rollup

open MetricLayer.Sql

/-- The output name of a requested dimension: its name, with `__grain` when it is truncated. -/
def dimensionColumn (x : String × Option Granularity) : String :=
  match x.2 with
  | some g => x.1 ++ "__" ++ g.name
  | none => x.1

/-- Before its filters and grouping, a rollup query is the rollup's table with one column for
    each requested dimension, under its output name, then one for each requested metric, under
    its name, and nothing else. -/
theorem rollupQuery_shape {model : Model} {p : PreAggregation} {r : RoutingRequest}
    {table : String} {d : Dialect} {q : Query} (h : rollupQuery model p r table d = .ok q) :
    ∃ (items : List SelectItem) (groupBy : List Sql.Expr) (q' : Query),
      items.map (·.asName) = r.dimensions.map (fun x => some (dimensionColumn x)) ++ r.metrics.map some ∧
      q' = r.filters.foldl (fun q f => q.addFilter (.raw (rollupFilter model p f d)))
        { source := some (.rawTable table, none), select := items } ∧
      q = if groupBy.isEmpty then q' else { q' with groupBy := groupBy } := by
  unfold rollupQuery at h
  obtain ⟨⟨q₁, groupBy⟩, h_dims, h⟩ := Except.bind_eq_ok.mp h
  obtain ⟨q₂, h_metrics, h⟩ := Except.bind_eq_ok.mp h
  -- every step of both folds appends one column to the bare table, named for its element
  have h_bare₁ : ∃ items, q₁ = { source := some (.rawTable table, none), select := items } := by
    refine foldlM_ok_invariant (fun (acc : Query × List Sql.Expr) =>
      ∃ items, acc.1 = { source := some (.rawTable table, none), select := items }) ?_ _ _ _
      ⟨[], rfl⟩ h_dims
    rintro ⟨q₀, gb⟩ ⟨name, grain⟩ b' ⟨items, h₀⟩ h_step
    dsimp only at h_step h₀
    subst h₀
    cases grain with
    | some g =>
      obtain ⟨e, -, h_step⟩ := Except.bind_eq_ok.mp h_step
      simp only [pure_bind] at h_step
      cases h_step
      exact ⟨_, rfl⟩
    | none =>
      simp only [pure_bind] at h_step
      cases h_step
      exact ⟨_, rfl⟩
  have h_names₁ : q₁.select.map (·.asName) = r.dimensions.map fun x => some (dimensionColumn x) := by
    refine (foldlM_ok_append (fun (acc : Query × List Sql.Expr) => acc.1.select.map (·.asName))
      (fun x => some (dimensionColumn x)) ?_ _ _ _ h_dims).trans ?_
    · rintro ⟨q₀, gb⟩ ⟨name, grain⟩ b' h_step
      dsimp only at h_step
      -- the column is named for the dimension, with its grain when it has one
      cases grain with
      | some g =>
        obtain ⟨e, -, h_step⟩ := Except.bind_eq_ok.mp h_step
        simp only [pure_bind] at h_step
        cases h_step
        simp [dimensionColumn]
      | none =>
        simp only [pure_bind] at h_step
        cases h_step
        simp [dimensionColumn]
    · simp
  have h_bare₂ : ∃ items, q₂ = { source := some (.rawTable table, none), select := items } := by
    refine foldlM_ok_invariant (fun (q : Query) =>
      ∃ items, q = { source := some (.rawTable table, none), select := items }) ?_ _ _ _
      h_bare₁ h_metrics
    rintro q₀ name q' ⟨items, rfl⟩ h_step
    dsimp only at h_step
    split at h_step
    · simp only [pure_bind] at h_step
      obtain ⟨e, -, h_done⟩ := Except.bind_eq_ok.mp h_step
      cases h_done
      exact ⟨_, rfl⟩
    · simp at h_step
  have h_names₂ : q₂.select.map (·.asName) = q₁.select.map (·.asName) ++ r.metrics.map some := by
    refine foldlM_ok_append (fun (q : Query) => q.select.map (·.asName)) some ?_ _ _ _ h_metrics
    intro q₀ name q' h_step
    dsimp only at h_step
    split at h_step
    · simp only [pure_bind] at h_step
      obtain ⟨e, -, h_done⟩ := Except.bind_eq_ok.mp h_step
      cases h_done
      simp
    · simp at h_step
  obtain ⟨items, rfl⟩ := h_bare₂
  refine ⟨items, groupBy, _, ?_, rfl, ?_⟩
  · rw [← h_names₁]
    exact h_names₂
  · cases h
    rfl

/-- A rollup query reads the rollup's table, joins nothing, and selects the requested dimensions,
    then the requested metrics, each under its name. -/
theorem rollupQuery_columns {model : Model} {p : PreAggregation} {r : RoutingRequest}
    {table : String} {d : Dialect} {q : Query} (h : rollupQuery model p r table d = .ok q) :
    q.source = some (.rawTable table, none) ∧ q.joins = [] ∧
      q.select.map (·.asName) = r.dimensions.map (fun x => some (dimensionColumn x)) ++ r.metrics.map some := by
  obtain ⟨items, groupBy, q', h_names, h_filtered, rfl⟩ := rollupQuery_shape h
  -- the filters and the grouping leave the columns and what is read as they are
  obtain ⟨h_source, h_joins, h_select⟩ : q'.source = some (.rawTable table, none) ∧ q'.joins = [] ∧
      q'.select = items :=
    h_filtered ▸ foldl_invariant
      (fun (q : Query) => q.source = some (.rawTable table, none) ∧ q.joins = [] ∧ q.select = items)
      (fun _ _ _ h₀ => h₀) ⟨rfl, rfl, rfl⟩
  split
  · exact ⟨h_source, h_joins, by rw [h_select, h_names]⟩
  · exact ⟨h_source, h_joins, by rw [h_select, h_names]⟩

end MetricLayer.Rollup

namespace MetricLayer

-- ============================================================================
-- A count answered from a rollup
-- ============================================================================

/-- Orders counted, with a rollup of the counts by status. -/
def countedOrders : Model :=
  { name := "orders", table := some "orders", primaryKey := "order_id",
    dimensions := [{ name := "status" }],
    metrics := [{ name := "order_count", agg := some .count, sql := some "order_id" }],
    preAggregations := [{ name := "by_status", measures := ["order_count"], dimensions := ["status"] }] }

/-- The count of orders with no dimension, answered from the rollup and from the rows: the
    rollup sums its stored counts, which is `NULL` when there are no orders, where the rows give
    `COUNT`, which is `0`. -/
theorem routedCount_sums_stored_counts :
    (Graph.generate { models := [countedOrders] } Settings.default
        { metrics := ["orders.order_count"], usePreaggregations := some true } "2024-06-30").toOption =
      some "SELECT\n  SUM(\"order_count_raw\") AS \"order_count\"\nFROM \"orders_preagg_by_status\"" ∧
    (Graph.generate { models := [countedOrders] } Settings.default
        { metrics := ["orders.order_count"], usePreaggregations := some false } "2024-06-30").toOption =
      some "WITH \"orders_cte\" AS (\nSELECT\n  order_id AS \"order_id\",\n  order_id AS \"order_count_raw\"\nFROM orders AS \"t\"\n)\nSELECT\n  COUNT(\"orders_cte\".\"order_count_raw\") AS \"order_count\"\nFROM \"orders_cte\"" := by
  constructor <;> decide +kernel

end MetricLayer
