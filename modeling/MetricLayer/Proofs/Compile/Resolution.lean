import MetricLayer.Proofs.Compile.Ordering
import MetricLayer.Proofs.Compile.RowMetrics
/-!
# What resolving a request establishes

`QueryContext.resolve` builds a context from a request in four folds: the metrics, each touching
its model and searched for row metrics; the dimensions, each touching its model; the filters;
and the segments, each touching its model. After the dimensions, no step changes them, and no
step forgets a touched model (`QueryContext.Widens`). So every requested dimension is of a model
the context has touched (`resolve_dimensions_touched`), which is what building the query needs
of a context for its output columns to read the dimensions' values
(`resolved_columns_carry_their_values`). The other condition, columns with names of their own,
is the request's to meet: the orders below, with a dimension named like their primary key, do
not meet it, and the key is read in the dimension's place.
-/

namespace MetricLayer

open MetricLayer.Sql

namespace QueryContext

/-- What a step may do to a context once its dimensions are requested: keep them, and keep every
    touched model. -/
def Widens (ctx ctx' : QueryContext) : Prop :=
  ctx'.dimensions = ctx.dimensions ∧ ∀ m ∈ ctx.models, m ∈ ctx'.models

/-- Recording what resolution finds widens a context. -/
theorem widens_records : Records Widens where
  refl _ := ⟨rfl, fun _ h => h⟩
  trans h_ab h_bc := ⟨h_bc.1.trans h_ab.1, fun m h => h_bc.2 m (h_ab.2 m h)⟩
  touch ctx m := ⟨touch_dimensions ctx m, fun _ h => mem_touch_models.mpr (.inl h)⟩
  visit _ _ := ⟨rfl, fun _ h => h⟩
  rowMetric _ _ := ⟨rfl, fun _ h => h⟩
  filterDimension _ _ := ⟨rfl, fun _ h => h⟩
  filter _ _ := ⟨rfl, fun _ h => h⟩

/-- Each requested dimension is of a model the context has touched. -/
def DimensionsTouched (ctx : QueryContext) : Prop :=
  ∀ d ∈ ctx.dimensions, d.model.name ∈ ctx.models

theorem DimensionsTouched.widen {ctx ctx' : QueryContext} (h : ctx.DimensionsTouched)
    (h_w : ctx.Widens ctx') : ctx'.DimensionsTouched := by
  intro d h_d
  rw [h_w.1] at h_d
  exact h_w.2 _ (h d h_d)

/-- Requesting a dimension touches its model. -/
theorem DimensionsTouched.request {ctx : QueryContext} (h : ctx.DimensionsTouched)
    (dim : ResolvedDimension) :
    DimensionsTouched { ctx.touch dim.model.name with dimensions := ctx.dimensions ++ [dim] } := by
  intro d h_d
  show d.model.name ∈ (ctx.touch dim.model.name).models
  rw [mem_touch_models]
  rcases List.mem_append.mp h_d with h_d | h_d
  · exact .inl (h d h_d)
  · exact .inr (congrArg (·.model.name) (List.mem_singleton.mp h_d))

/-- In a resolved request, every dimension is of a model of the query. -/
theorem resolve_dimensions_touched {g : Graph} {r : QueryRequest} {d : Dialect} {today : String}
    {ctx : QueryContext} (h : resolve g r d today = .ok ctx) : ctx.DimensionsTouched := by
  unfold resolve at h
  obtain ⟨ctx₁, h₁, h⟩ := Except.bind_eq_ok.mp h
  obtain ⟨ctx₂, h₂, h⟩ := Except.bind_eq_ok.mp h
  obtain ⟨ctx₃, h₃, h₄⟩ := Except.bind_eq_ok.mp h
  -- the metrics come before any dimension, and their steps widen the context
  have h_t₁ : ctx₁.DimensionsTouched := by
    refine foldlM_ok_invariant DimensionsTouched ?_ _ _ _ (fun _ h_d => absurd h_d List.not_mem_nil) h₁
    intro c x c' h_c h_step
    obtain ⟨resolved, -, h_step⟩ := Except.bind_eq_ok.mp h_step
    obtain ⟨c₂, h_search, h_done⟩ := Except.bind_eq_ok.mp h_step
    cases h_done
    refine (DimensionsTouched.widen ?_ (widens_records.collectRowMetrics _ h_search)).widen
      ⟨rfl, fun _ h => h⟩
    -- the metric's model, when it has one, is touched before the search
    split
    · exact h_c.widen (widens_records.touch c _)
    · exact h_c
  have h_t₂ : ctx₂.DimensionsTouched := by
    refine foldlM_ok_invariant DimensionsTouched ?_ _ _ _ h_t₁ h₂
    intro c x c' h_c h_step
    obtain ⟨resolved, -, h_done⟩ := Except.bind_eq_ok.mp h_step
    cases h_done
    exact h_c.request resolved
  -- filters and segments widen it
  have h_t₃ : ctx₃.DimensionsTouched :=
    foldlM_ok_invariant DimensionsTouched
      (fun _ _ _ h_c h_step => h_c.widen (widens_records.addFilter h_step)) _ _ _ h_t₂ h₃
  refine foldlM_ok_invariant DimensionsTouched ?_ _ _ _ h_t₃ h₄
  intro c x c' h_c h_step
  obtain ⟨⟨model, segment⟩, -, h_step⟩ := Except.bind_eq_ok.mp h_step
  obtain ⟨sql, -, h_done⟩ := Except.bind_eq_ok.mp h_step
  cases h_done
  exact h_c.widen (widens_records.trans (widens_records.touch c _) ⟨rfl, fun _ h => h⟩)

end QueryContext

open QueryContext in
/-- Every column of a query built from a resolved request reads the value it is named for. The
    output column of a requested dimension, at the dimension's place, reads the dimension's SQL in
    its model's rows; and wherever a select list of the query, or of one of its expressions,
    reads a model's rows, the raw column of a row metric of that model there reads the metric's
    expression in the rows. This holds when the columns offered to one relation have names of
    their own. -/
theorem resolved_columns_carry_their_values {g : Graph} {r : QueryRequest} {d : Dialect}
    {today : String} {ctx : QueryContext} (h_resolve : resolve g r d today = .ok ctx)
    (h_apart : ctx.ColumnsApart) (q : Query) (h : ctx.buildQuery = .ok q) (out : String) :
    (∀ (i : Nat) dim, ctx.dimensions[i]? = some dim →
      ∃ os, (q.lineage [] out)[i]? = some (some dim.column, os) ∧ ReadsFrom os (ctx.dimOrigin dim)) ∧
    (∀ rm ∈ ctx.rowMetrics, ∀ m, rm.modelName = some m → ∀ lv ∈ q.levels, ∀ rel,
      lv.2.ReadsRowsOf (cteRelation m) rel → ∀ here,
        (tableCol rel (rawColumn rm.metric.name)).origins lv.1 here = [rawOrigin m rm]) :=
  buildQuery_columns_carry_their_values ctx q (resolve_dimensions_touched h_resolve) h_apart h out

-- ============================================================================
-- Orders, by status and by a dimension named like the key
-- ============================================================================

section Orders

open QueryContext

/-- Orders, with a dimension computed by SQL and named like the primary key. -/
def keyedOrders : Model :=
  { name := "orders", table := some "orders", primaryKey := "order_id",
    dimensions := [{ name := "status" }, { name := "order_id", sql := some "UPPER({model}.order_ref)" }],
    metrics := [{ name := "revenue", agg := some .sum, sql := some "amount" }] }

/-- The revenue of orders, owned by the orders. -/
def keyedRevenue : ResolvedMetric :=
  ⟨some keyedOrders, { name := "revenue", agg := some .sum, sql := some "amount" }⟩

/-- Revenue of orders by status. -/
def statusContext : QueryContext :=
  { graph := { models := [keyedOrders] }, dialect := .postgres, ungrouped := false,
    params := ⟨[], [], "2024-06-30"⟩,
    dimensions := [⟨keyedOrders, { name := "status" }, none⟩],
    metrics := [⟨"orders.revenue", "revenue", keyedRevenue⟩],
    rowMetrics := [keyedRevenue], models := ["orders"] }

theorem statusContext_columnsApart : statusContext.ColumnsApart where
  dim_pk := by
    intro d h_d M h_M _
    simp [rowDimensions, statusContext] at h_d h_M
    subst h_d h_M
    decide
  dim_key := by decide +kernel
  dim_same := by
    intro d h_d d' h_d' _
    simp [rowDimensions, statusContext] at h_d h_d'
    rw [h_d, h_d']
  raw_pk := by decide +kernel
  raw_key := by decide +kernel
  raw_dim := by decide +kernel
  raw_same := by decide +kernel

/-- Revenue of orders by status, resolved from its request: the status column reads the status
    in the rows of the orders. -/
theorem statusRequest_columns_carry_their_values :
    ∃ ctx, resolve { models := [keyedOrders] }
        { metrics := ["orders.revenue"], dimensions := ["orders.status"] } .postgres "2024-06-30" = .ok ctx ∧
      ctx.ColumnsApart ∧ ∃ q, ctx.buildQuery = .ok q ∧
        ∃ os, (q.lineage [] "out")[0]? = some (some "status", os) ∧
          ReadsFrom os ⟨cteRelation "orders", .raw "status"⟩ := by
  have h_resolve : resolve { models := [keyedOrders] }
      { metrics := ["orders.revenue"], dimensions := ["orders.status"] } .postgres "2024-06-30" =
      .ok { statusContext with visited := ["orders.revenue"] } := rfl
  -- the searched name is all resolution adds to the context, and no column reads it
  have h_apart : ({ statusContext with visited := ["orders.revenue"] } : QueryContext).ColumnsApart :=
    let h := statusContext_columnsApart
    ⟨h.dim_pk, h.dim_key, h.dim_same, h.raw_pk, h.raw_key, h.raw_dim, h.raw_same⟩
  have h_ok : ({ statusContext with visited := ["orders.revenue"] } : QueryContext).buildQuery.isOk = true := by
    decide +kernel
  have h_sql : ({ statusContext with visited := ["orders.revenue"] } : QueryContext).dimensionSql
      ⟨keyedOrders, { name := "status" }, none⟩ = "status" := by
    decide +kernel
  cases h_q : ({ statusContext with visited := ["orders.revenue"] } : QueryContext).buildQuery with
  | error e => simp [h_q, Except.isOk, Except.toBool] at h_ok
  | ok q =>
    refine ⟨_, h_resolve, h_apart, q, h_q, ?_⟩
    have h_cols := (resolved_columns_carry_their_values h_resolve h_apart q h_q "out").1 0
      ⟨keyedOrders, { name := "status" }, none⟩ rfl
    rw [dimOrigin, h_sql] at h_cols
    simpa [ResolvedDimension.column, keyedOrders] using h_cols

/-- A dimension named like its model's primary key reads the key: the rows of the orders keep
    the key under that name and drop the dimension, so the output column gives the key, not the
    dimension's SQL. -/
theorem dimension_named_like_key_reads_key :
    ((QueryContext.resolve { models := [keyedOrders] }
        { metrics := ["orders.revenue"], dimensions := ["orders.order_id"] } .postgres "2024-06-30").toOption.bind
      fun ctx => ctx.buildQuery.toOption.map fun q =>
        (ctx.dimensions.map fun d => ((ctx.dimOrigin d).relation, (ctx.dimOrigin d).expr.render .postgres),
          (q.lineage [] "out").head?.map fun c => (c.1, c.2.map fun o => (o.relation, o.expr.render .postgres)))) =
      some ([("orders_cte", "UPPER(t.order_ref)")], some (some "order_id", [("orders_cte", "order_id")])) := by
  decide +kernel

end Orders

end MetricLayer
