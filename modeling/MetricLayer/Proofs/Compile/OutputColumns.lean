import MetricLayer.Proofs.Compile.Shapes
/-!
# What the output columns of a built query read

A reader that asks a relation for a column by name gets the first column of that name. This
module follows the columns of a built query back, through every relation between them and the
rows of the models (`Query.lineage`):

* the output column of a requested dimension reads the dimension's SQL in its model's rows
  (`QueryContext.dimOrigin`), through the distinct base rows, the per-model aggregates and the
  wrapper of window metrics;
* wherever a select list of the query reads a model's rows, directly, by a join or through the
  distinct base rows, the raw column of a row metric of that model there reads the metric's
  expression in the model's rows (`QueryContext.rawOrigin`).

Both hold when the columns one relation is offered have names of their own
(`QueryContext.ColumnsApart`): the builder offers a model's rows its primary key, its join keys,
its dimensions and its raw values, and keeps the first column of each name, so a dimension named
like the primary key reads the key.
-/

namespace MetricLayer

open MetricLayer.Sql MetricLayer.Text

-- ============================================================================
-- Names of relations and columns
-- ============================================================================

theorem cteRelation_inj {m n : String} (h : cteRelation m = cteRelation n) : m = n := by
  simpa [cteRelation] using h

/-- A relation whose name does not end in `_cte` is not the rows of a model. -/
theorem cteRelation_ne_of_ending {m s : String} (h_end : s.toList.reverse.take 4 ≠ "etc_".toList) :
    cteRelation m ≠ s := by
  intro h
  apply h_end
  rw [← h]
  simp [cteRelation]

theorem cteRelation_ne_deduped (m : String) : cteRelation m ≠ dedupedRelation :=
  cteRelation_ne_of_ending (by simp [dedupedRelation])

theorem cteRelation_ne_base (m : String) : cteRelation m ≠ baseRelation :=
  cteRelation_ne_of_ending (by simp [baseRelation])

theorem cteRelation_ne_aggRelation (m n : String) : cteRelation m ≠ aggRelation n :=
  cteRelation_ne_of_ending (by simp [aggRelation])

theorem rawColumn_inj {a b : String} (h : rawColumn a = rawColumn b) : a = b := by
  simpa [rawColumn] using h

@[simp] theorem SelectItem.named_offered (c n : String) (e : Sql.Expr) :
    SelectItem.named c (offered n e) = (n == c) := by
  simp [SelectItem.named, offered]

theorem Graph.getModel_ok {g : Graph} {name : String} {m : Model} (h : g.getModel name = .ok m) :
    m ∈ g.models ∧ m.name = name := by
  unfold Graph.getModel Graph.model? at h
  split at h
  · rename_i m' h_find
    cases h
    exact ⟨List.mem_of_find?_eq_some h_find, by simpa using List.find?_some h_find⟩
  · cases h

/-- Each relation name is read from where a list of pairs maps it. -/
theorem lookup_map_pair (l : List String) (f : String → String) (a : String) :
    (l.map fun m => (m, f m)).lookup a = if a ∈ l then some (f a) else none := by
  induction l with
  | nil => simp
  | cons x xs ih =>
    by_cases h_x : a = x
    · subst h_x
      simp
    · have h_ne : (a == x) = false := by simpa using h_x
      simp [List.lookup_cons, h_ne, ih, h_x]

theorem mem_foldl_insert {x : String} :
    ∀ (l acc : List String), x ∈ acc ∨ x ∈ l →
      x ∈ l.foldl (fun acc m => if acc.contains m then acc else acc ++ [m]) acc
  | [], acc, h => by simpa using h
  | y :: ys, acc, h => by
    rw [List.foldl_cons]
    apply mem_foldl_insert ys
    rcases h with h_acc | h_y
    · left
      split <;> simp [h_acc]
    · rcases List.mem_cons.mp h_y with rfl | h_ys
      · left
        split
        · rename_i h_has
          simpa using h_has
        · simp
      · exact .inr h_ys

-- ============================================================================
-- The first column of a name, past other names
-- ============================================================================

/-- Past items of other names, the first item of a name is in `ys`. -/
theorem find?_map_after {α β : Type} {p : α → Bool} {g : α → β} {v : β} {xs ys : List α}
    (h_xs : ∀ x ∈ xs, p x = false) (h_ex : ∃ y ∈ ys, p y = true)
    (h_all : ∀ y ∈ ys, p y = true → g y = v) : ((xs ++ ys).find? p).map g = some v := by
  rw [find?_append_of_forall_not ys h_xs]
  exact find?_map_of_forall h_ex h_all

theorem find?_map_middle {α β : Type} {p : α → Bool} {g : α → β} {v : β} {xs ys : List α}
    (zs : List α) (h_xs : ∀ x ∈ xs, p x = false) (h_ex : ∃ y ∈ ys, p y = true)
    (h_all : ∀ y ∈ ys, p y = true → g y = v) : ((xs ++ ys ++ zs).find? p).map g = some v := by
  obtain ⟨y, h_y, h_py⟩ := h_ex
  rw [find?_append_of_any zs (List.any_eq_true.mpr ⟨y, List.mem_append_right xs h_y, h_py⟩)]
  exact find?_map_after h_xs ⟨y, h_y, h_py⟩ h_all

namespace QueryContext

-- ============================================================================
-- Where values are computed
-- ============================================================================

/-- The dimensions computed in the models' rows: the requested ones, then those of filters. -/
def rowDimensions (ctx : QueryContext) : List ResolvedDimension := ctx.dimensions ++ ctx.filterDimensions

theorem mem_cteDimensions {ctx : QueryContext} {m : String} {d : ResolvedDimension} :
    d ∈ ctx.cteDimensions m ↔ d ∈ ctx.rowDimensions ∧ d.model.name = m := by
  simp [cteDimensions, rowDimensions, or_and_right]

theorem mem_rowMetricsOf {ctx : QueryContext} {m : String} {r : ResolvedMetric} :
    r ∈ ctx.rowMetricsOf m ↔ r ∈ ctx.rowMetrics ∧ r.modelName = some m := by
  simp [rowMetricsOf]

/-- Where a dimension is computed: its SQL, in its model's rows. -/
def dimOrigin (ctx : QueryContext) (d : ResolvedDimension) : Origin :=
  ⟨cteRelation d.model.name, .raw (ctx.dimensionSql d)⟩

/-- Where the value of a row metric of `model` is computed: its expression, in the model's rows. -/
def rawOrigin (model : String) (r : ResolvedMetric) : Origin :=
  ⟨cteRelation model, .raw (r.metric.rawExpression sourceAlias)⟩

/-- The columns offered to one relation have names of their own. A model's rows are offered its
    primary key, the keys of its joins, its dimensions and the raw values of its row metrics; the
    distinct base rows the base's key, the dimensions of the joined models and the base's raw
    values. Columns of one name are allowed when they carry the same value. -/
structure ColumnsApart (ctx : QueryContext) : Prop where
  dim_pk : ∀ d ∈ ctx.rowDimensions, ∀ M ∈ ctx.graph.models,
    (M.name = d.model.name ∨ ctx.rowMetricsOf M.name ≠ []) → d.column ≠ M.primaryKey
  dim_key : ∀ d ∈ ctx.rowDimensions, ∀ e ∈ ctx.graph.edges,
    (e.source = d.model.name → d.column ≠ e.sourceKey) ∧ (e.target = d.model.name → d.column ≠ e.targetKey)
  dim_same : ∀ d ∈ ctx.rowDimensions, ∀ d' ∈ ctx.rowDimensions,
    d'.column = d.column → ctx.dimOrigin d' = ctx.dimOrigin d
  raw_pk : ∀ r ∈ ctx.rowMetrics, ∀ M ∈ ctx.graph.models,
    r.modelName = some M.name → rawColumn r.metric.name ≠ M.primaryKey
  raw_key : ∀ r ∈ ctx.rowMetrics, ∀ e ∈ ctx.graph.edges,
    (r.modelName = some e.source → rawColumn r.metric.name ≠ e.sourceKey) ∧
      (r.modelName = some e.target → rawColumn r.metric.name ≠ e.targetKey)
  raw_dim : ∀ r ∈ ctx.rowMetrics, ∀ d ∈ ctx.rowDimensions, rawColumn r.metric.name ≠ d.column
  raw_same : ∀ r ∈ ctx.rowMetrics, ∀ r' ∈ ctx.rowMetrics, r'.modelName = r.modelName →
    r'.metric.name = r.metric.name →
      r'.metric.rawExpression sourceAlias = r.metric.rawExpression sourceAlias

variable {ctx : QueryContext}

-- ============================================================================
-- The first column of a name in the rows the builder writes
-- ============================================================================

/-- The keys offered to a model's rows are keys of edges of the graph at the model. -/
def KeysAt (ctx : QueryContext) (m : String) (keys : List String) : Prop :=
  ∀ k ∈ keys, ∃ e ∈ ctx.graph.edges, (e.source = m ∧ e.sourceKey = k) ∨ (e.target = m ∧ e.targetKey = k)

/-- Under a dimension's name, a model's rows give the dimension's SQL: the key and the join keys
    have other names, and a dimension of the same name has the same SQL. -/
theorem rowItems_dim (h_apart : ctx.ColumnsApart) {model : Model} {keys : List String}
    (h_in : model ∈ ctx.graph.models) (h_keys : ctx.KeysAt model.name keys)
    {d : ResolvedDimension} (h_d : d ∈ ctx.rowDimensions) (h_name : model.name = d.model.name) :
    ((ctx.rowItems model keys).find? (SelectItem.named d.column)).map (·.expr) =
      some (.raw (ctx.dimensionSql d)) := by
  have h_front : ∀ s ∈ offered model.primaryKey (.raw model.primaryKey) ::
      keys.map (fun k => offered k (.raw k)), SelectItem.named d.column s = false := by
    simp only [List.mem_cons, List.mem_map]
    rintro s (rfl | ⟨k, h_k, rfl⟩)
    · simpa using (h_apart.dim_pk d h_d model h_in (.inl h_name)).symm
    · obtain ⟨e, h_e, ⟨h_src, rfl⟩ | ⟨h_tgt, rfl⟩⟩ := h_keys k h_k
      · simpa using ((h_apart.dim_key d h_d e h_e).1 (h_src.trans h_name)).symm
      · simpa using ((h_apart.dim_key d h_d e h_e).2 (h_tgt.trans h_name)).symm
  have h_own : d ∈ ctx.cteDimensions model.name := mem_cteDimensions.mpr ⟨h_d, h_name.symm⟩
  unfold rowItems
  refine find?_map_middle _ h_front ⟨_, List.mem_map_of_mem h_own, by simp⟩ ?_
  simp only [List.mem_map]
  rintro _ ⟨d', h_d', rfl⟩ h_named
  have h_same := h_apart.dim_same d h_d d' (mem_cteDimensions.mp h_d').1 (by simpa using h_named)
  simp only [dimOrigin, Origin.mk.injEq, Expr.raw.injEq] at h_same
  simp [offered, h_same.2]

/-- Under a row metric's raw name, a model's rows give the metric's expression: the key, the join
    keys and the dimensions have other names, and a row metric of the same name has the same
    expression. -/
theorem rowItems_raw (h_apart : ctx.ColumnsApart) {model : Model} {keys : List String}
    (h_in : model ∈ ctx.graph.models) (h_keys : ctx.KeysAt model.name keys)
    {r : ResolvedMetric} (h_r : r ∈ ctx.rowMetrics) (h_rm : r.modelName = some model.name) :
    ((ctx.rowItems model keys).find? (SelectItem.named (rawColumn r.metric.name))).map (·.expr) =
      some (.raw (r.metric.rawExpression sourceAlias)) := by
  have h_front : ∀ s ∈ offered model.primaryKey (.raw model.primaryKey) ::
      keys.map (fun k => offered k (.raw k)) ++
      (ctx.cteDimensions model.name).map (fun d => offered d.column (.raw (ctx.dimensionSql d))),
      SelectItem.named (rawColumn r.metric.name) s = false := by
    simp only [List.mem_append, List.mem_cons, List.mem_map]
    rintro s ((rfl | ⟨k, h_k, rfl⟩) | ⟨d, h_d, rfl⟩)
    · simpa using (h_apart.raw_pk r h_r model h_in h_rm).symm
    · obtain ⟨e, h_e, ⟨h_src, rfl⟩ | ⟨h_tgt, rfl⟩⟩ := h_keys k h_k
      · simpa using ((h_apart.raw_key r h_r e h_e).1 (h_src ▸ h_rm)).symm
      · simpa using ((h_apart.raw_key r h_r e h_e).2 (h_tgt ▸ h_rm)).symm
    · simpa using (h_apart.raw_dim r h_r d (mem_cteDimensions.mp h_d).1).symm
  unfold rowItems
  refine find?_map_after h_front ⟨_, List.mem_map_of_mem (mem_rowMetricsOf.mpr ⟨h_r, h_rm⟩), by simp⟩ ?_
  simp only [List.mem_map]
  rintro _ ⟨r', h_r', rfl⟩ h_named
  obtain ⟨h_r'_row, h_r'_model⟩ := mem_rowMetricsOf.mp h_r'
  have h_expr := h_apart.raw_same r h_r r' h_r'_row (h_r'_model.trans h_rm.symm)
    (rawColumn_inj (by simpa using h_named))
  simp [offered, h_expr]

/-- Under a dimension's name, the distinct base rows give the column of that name of the
    dimension's model: the base key has another name, and a dimension of the same name is of the
    same model. -/
theorem dedupedItems_dim (h_apart : ctx.ColumnsApart) {base : String} {baseModel : Model}
    (h_in : baseModel ∈ ctx.graph.models) (h_metrics : ctx.rowMetricsOf baseModel.name ≠ [])
    {ms : List String} {d : ResolvedDimension} (h_d : d ∈ ctx.rowDimensions) (h_joined : d.model.name ∈ ms) :
    ((ctx.dedupedItems base baseModel ms).find? (SelectItem.named d.column)).map (·.expr) =
      some (tableCol (cteRelation d.model.name) d.column) := by
  have h_pk : SelectItem.named d.column
      (offered baseModel.primaryKey (tableCol (cteRelation base) baseModel.primaryKey)) = false := by
    simpa using (h_apart.dim_pk d h_d baseModel h_in (.inr h_metrics)).symm
  have h_own : offered d.column (tableCol (cteRelation d.model.name) d.column) ∈
      ms.flatMap (fun m => (ctx.cteDimensions m).map fun dim =>
        offered dim.column (tableCol (cteRelation m) dim.column)) :=
    List.mem_flatMap.mpr ⟨_, h_joined, List.mem_map_of_mem (mem_cteDimensions.mpr ⟨h_d, rfl⟩)⟩
  unfold dedupedItems
  rw [List.cons_append, List.find?_cons_of_neg (by simp [h_pk]),
    find?_append_of_any _ (List.any_eq_true.mpr ⟨_, h_own, by simp⟩)]
  refine find?_map_of_forall ⟨_, h_own, by simp⟩ ?_
  simp only [List.mem_flatMap, List.mem_map]
  rintro _ ⟨m, -, dim, h_dim, rfl⟩ h_named
  obtain ⟨h_dim_row, rfl⟩ := mem_cteDimensions.mp h_dim
  have h_col : dim.column = d.column := by simpa using h_named
  have h_same := h_apart.dim_same d h_d dim h_dim_row h_col
  simp only [dimOrigin, Origin.mk.injEq] at h_same
  simp [offered, cteRelation_inj h_same.1, h_col]

/-- Under a row metric's raw name, the distinct base rows give the column of that name of the
    base's rows: the base key and the dimensions have other names. -/
theorem dedupedItems_raw (h_apart : ctx.ColumnsApart) {base : String} {baseModel : Model}
    (h_in : baseModel ∈ ctx.graph.models) (h_name : baseModel.name = base) {ms : List String}
    {r : ResolvedMetric} (h_r : r ∈ ctx.rowMetrics) (h_rm : r.modelName = some base) :
    ((ctx.dedupedItems base baseModel ms).find? (SelectItem.named (rawColumn r.metric.name))).map (·.expr) =
      some (tableCol (cteRelation base) (rawColumn r.metric.name)) := by
  have h_front : ∀ s ∈ offered baseModel.primaryKey (tableCol (cteRelation base) baseModel.primaryKey) ::
      ms.flatMap (fun m => (ctx.cteDimensions m).map fun dim =>
        offered dim.column (tableCol (cteRelation m) dim.column)),
      SelectItem.named (rawColumn r.metric.name) s = false := by
    simp only [List.mem_cons, List.mem_flatMap, List.mem_map]
    rintro s (rfl | ⟨_, -, dim, h_dim, rfl⟩)
    · simpa using (h_apart.raw_pk r h_r baseModel h_in (h_name ▸ h_rm)).symm
    · simpa using (h_apart.raw_dim r h_r dim (mem_cteDimensions.mp h_dim).1).symm
  unfold dedupedItems
  refine find?_map_after h_front ⟨_, List.mem_map_of_mem (mem_rowMetricsOf.mpr ⟨h_r, h_rm⟩), by simp⟩ ?_
  simp only [List.mem_map]
  rintro _ ⟨r', -, rfl⟩ h_named
  have h_raw_name : rawColumn r'.metric.name = rawColumn r.metric.name := by simpa using h_named
  simp [offered, h_raw_name]

-- ============================================================================
-- Catalogs that see the models' rows
-- ============================================================================

/-- A catalog that sees the rows of each of `models` as the builder writes them: under a
    dimension's name, the dimension; under a row metric's raw name, the metric's value. -/
structure RowsCatalog (ctx : QueryContext) (models : List String) (cat : Catalog) : Prop where
  dim : ∀ d ∈ ctx.rowDimensions, d.model.name ∈ models → ∀ here,
    (tableCol (cteRelation d.model.name) d.column).origins cat here = [ctx.dimOrigin d]
  raw : ∀ r ∈ ctx.rowMetrics, ∀ m, r.modelName = some m → m ∈ models → ∀ here,
    (tableCol (cteRelation m) (rawColumn r.metric.name)).origins cat here = [rawOrigin m r]

theorem RowsCatalog.of_lookup {ms : List String} {cat cat' : Catalog} (h : ctx.RowsCatalog ms cat)
    (h_same : ∀ m, cat'.lookup (cteRelation m) = cat.lookup (cteRelation m)) :
    ctx.RowsCatalog ms cat' :=
  ⟨fun d h_d h_m here => (Expr.origins_tableCol_congr (h_same _) here _).trans (h.dim d h_d h_m here),
    fun r h_r m h_rm h_m here =>
      (Expr.origins_tableCol_congr (h_same m) here _).trans (h.raw r h_r m h_rm h_m here)⟩

/-- A relation of another name leaves the models' rows as they were seen. -/
theorem RowsCatalog.cons {ms : List String} {cat : Catalog} (h : ctx.RowsCatalog ms cat) {n : String}
    (h_n : ∀ m, cteRelation m ≠ n) (cols : Columns) : ctx.RowsCatalog ms ((n, cols) :: cat) :=
  h.of_lookup fun m => by
    have h_ne : (cteRelation m == n) = false := by simpa using h_n m
    simp [List.lookup_cons, h_ne]

theorem RowsCatalog.ctes {ms : List String} {cat : Catalog} (h : ctx.RowsCatalog ms cat)
    {ctes : List (String × Query)} (h_names : ∀ p ∈ ctes, ∀ m, p.1 ≠ cteRelation m) :
    ctx.RowsCatalog ms (ctesCatalog cat ctes) :=
  h.of_lookup fun m => lookup_ctesCatalog_of_not_mem cat ctes fun p h_p => h_names p h_p m

/-- After the expressions of the models, a catalog sees the rows of every model of the layout. -/
theorem rowsCatalog_modelCtes (h_apart : ctx.ColumnsApart) {shape : Shape}
    {ctes : List (String × Query)} (h_ctes : ctx.modelCtes shape = .ok ctes)
    (h_edges : ∀ t ∈ shape.trees, t.2.steps ⊆ ctx.graph.edges) (cat : Catalog) :
    ctx.RowsCatalog (cteLayout shape.trees).1 (ctesCatalog cat ctes) := by
  -- a key recorded at a model is a key of an edge of the graph at that model
  have h_keys : ∀ name, ctx.KeysAt name (((cteLayout shape.trees).2.lookup name).getD []) := by
    intro name k h_k
    obtain ⟨t, h_t, s, h_s, h_at⟩ := cteLayout_keys _ _ _ h_k
    exact ⟨s, h_edges t h_t h_s, h_at⟩
  constructor
  · intro d h_d h_m here
    obtain ⟨model, q, h_model, h_rows, h_look⟩ := lookup_modelCtes h_ctes cat h_m
    obtain ⟨h_in, h_name⟩ := Graph.getModel_ok h_model
    have h_at : ctx.KeysAt model.name (((cteLayout shape.trees).2.lookup d.model.name).getD []) :=
      h_name ▸ h_keys d.model.name
    obtain ⟨s, h_s, h_expr⟩ := Option.map_eq_some_iff.mp (rowItems_dim h_apart h_in h_at h_d h_name)
    rw [Expr.origins_tableCol_of_lookup h_look, modelRows_lookup h_rows, h_s, Option.map_some,
      Option.getD_some, h_expr]
    rfl
  · intro r h_r m h_rm h_m here
    obtain ⟨model, q, h_model, h_rows, h_look⟩ := lookup_modelCtes h_ctes cat h_m
    obtain ⟨h_in, h_name⟩ := Graph.getModel_ok h_model
    have h_at : ctx.KeysAt model.name (((cteLayout shape.trees).2.lookup m).getD []) := h_name ▸ h_keys m
    obtain ⟨s, h_s, h_expr⟩ := Option.map_eq_some_iff.mp
      (rowItems_raw h_apart h_in h_at h_r (h_name ▸ h_rm))
    rw [Expr.origins_tableCol_of_lookup h_look, modelRows_lookup h_rows, h_s, Option.map_some,
      Option.getD_some, h_expr]
    rfl

-- ============================================================================
-- The joined source
-- ============================================================================

theorem joinedSource_select {base : String} {path : JoinPath} {src : JoinedSource}
    (h_src : ctx.joinedSource base path = .ok src) : src.query.select = [] ∧ src.query.ctes = [] := by
  rcases joinedSource_cases h_src with ⟨h_joined, h_sel, -⟩ | ⟨_, _, -, -, h_q, -⟩
  · exact ⟨h_sel, h_joined.ctes⟩
  · rw [h_q]
    exact ⟨rfl, rfl⟩

/-- A joined source gives each dimension of the models' rows as computed there, read directly or
    through the distinct base rows. -/
theorem joinedSource_dimension (h_apart : ctx.ColumnsApart) {base : String} {path : JoinPath}
    {src : JoinedSource} (h_src : ctx.joinedSource base path = .ok src) {ms : List String} {cat : Catalog}
    (h_rows : ctx.RowsCatalog ms cat) {d : ResolvedDimension} (h_d : d ∈ ctx.rowDimensions) (h_m : d.model.name ∈ ms) (here : String) :
    (src.dimension d).origins (src.query.fromCatalog cat) here = [ctx.dimOrigin d] := by
  rcases joinedSource_cases h_src with
    ⟨h_joined, -, h_rel⟩ | ⟨baseModel, inner, h_base, h_metrics, h_q, h_inner, h_rel, h_find⟩
  · -- the joined rows: each model is read from its own rows
    have h_at : src.dimension d = tableCol (cteRelation d.model.name) d.column := by
      simp only [JoinedSource.dimension, h_rel, lookup_map_pair]
      split <;> rfl
    rw [h_at, Query.fromCatalog, h_joined.ctes, h_joined.source, ctesCatalog_nil, sourceCatalog_named]
    exact h_rows.dim d h_d h_m here
  · have h_cat : src.query.fromCatalog cat = (dedupedRelation, inner.lineage cat dedupedRelation) :: cat := by
      simp [Query.fromCatalog, h_q]
    by_cases h_joined : d.model.name ∈ treeModels base path
    · -- a joined model's dimension is read from the distinct base rows, which pass it through
      have h_at : src.dimension d = tableCol dedupedRelation d.column := by
        simp [JoinedSource.dimension, h_rel, lookup_map_pair, h_joined]
      have h_inner_cat : inner.fromCatalog cat = cat := by
        simp [Query.fromCatalog, h_inner.ctes, h_inner.source]
      obtain ⟨h_model, h_name⟩ := Graph.getModel_ok h_base
      obtain ⟨s, h_s, h_expr⟩ := Option.map_eq_some_iff.mp
        (dedupedItems_dim h_apart h_model (h_name ▸ h_metrics) h_d h_joined)
      rw [h_at, h_cat, Expr.origins_tableCol_of_lookup List.lookup_cons_self, Query.lookup_lineage, h_find,
        h_inner_cat, h_s, Option.map_some, Option.getD_some, h_expr]
      exact h_rows.dim d h_d h_m dedupedRelation
    · -- a model not joined is read from its own rows
      have h_at : src.dimension d = tableCol (cteRelation d.model.name) d.column := by
        simp [JoinedSource.dimension, h_rel, lookup_map_pair, h_joined]
      rw [h_at, h_cat]
      exact (h_rows.cons cteRelation_ne_deduped _).dim d h_d h_m here

/-- Wherever a query that reads what a joined source reads reads a model's rows, a row metric's raw
    column there gives the metric's value. -/
theorem joinedSource_raw (h_apart : ctx.ColumnsApart) {base : String} {path : JoinPath}
    {src : JoinedSource} (h_src : ctx.joinedSource base path = .ok src) {ms : List String} {cat : Catalog}
    (h_rows : ctx.RowsCatalog ms cat) (h_tree : base ∈ ms ∧ ∀ s ∈ path.steps, s.target ∈ ms)
    {L : Query} (h_source : L.source = src.query.source) (h_joins : L.joins = src.query.joins)
    {r : ResolvedMetric} (h_r : r ∈ ctx.rowMetrics) {m rel : String} (h_rm : r.modelName = some m)
    (h_reads : L.ReadsRowsOf (cteRelation m) rel) (here : String) :
    (tableCol rel (rawColumn r.metric.name)).origins (sourceCatalog cat L.source) here = [rawOrigin m r] := by
  rcases joinedSource_cases h_src with
    ⟨h_joined, -, -⟩ | ⟨baseModel, inner, h_base, -, h_q, h_inner, -, h_find⟩ <;>
    unfold Query.ReadsRowsOf at h_reads
  · -- the joined rows: the model is the base or the target of a join
    rw [h_source, h_joined.source] at h_reads ⊢
    rw [sourceCatalog_named]
    rcases h_reads with ⟨h_at, rfl⟩ | ⟨j, h_j, h_at, rfl⟩ | ⟨_, h_at, -⟩
    · obtain rfl : base = m := cteRelation_inj (by simpa using h_at)
      exact h_rows.raw r h_r base h_rm h_tree.1 here
    · obtain ⟨s, h_s, h_js⟩ := h_joined.joins j (h_joins ▸ h_j)
      obtain rfl : s.target = m := cteRelation_inj (by simpa [h_js] using h_at)
      exact h_rows.raw r h_r _ h_rm (h_tree.2 s h_s) here
    · simp at h_at
  · -- the distinct base rows: read as a subquery of the base's rows
    rw [h_q] at h_source h_joins
    rw [h_source] at h_reads ⊢
    rcases h_reads with ⟨h_at, -⟩ | ⟨j, h_j, -⟩ | ⟨inner', h_at, h_inner'⟩
    · simp at h_at
    · simp [h_joins] at h_j
    · obtain ⟨rfl, rfl⟩ : inner = inner' ∧ dedupedRelation = rel := by simpa using h_at
      rw [h_inner.source] at h_inner'
      obtain rfl : base = m := cteRelation_inj (by simpa using h_inner')
      have h_inner_cat : inner.fromCatalog cat = cat := by
        simp [Query.fromCatalog, h_inner.ctes, h_inner.source]
      obtain ⟨h_model, h_name⟩ := Graph.getModel_ok h_base
      obtain ⟨s, h_s, h_expr⟩ := Option.map_eq_some_iff.mp
        (dedupedItems_raw h_apart h_model h_name h_r h_rm)
      rw [sourceCatalog_subquery, Expr.origins_tableCol_of_lookup List.lookup_cons_self, Query.lookup_lineage,
        h_find, h_inner_cat, h_s, Option.map_some, Option.getD_some, h_expr]
      exact h_rows.raw r h_r base h_rm h_tree.1 dedupedRelation

-- ============================================================================
-- The select lists of a built query
-- ============================================================================

/-- A query selects first, in order, one column for each requested dimension, named for it and
    reading its value in the models' rows. -/
def DimsRead (ctx : QueryContext) (cat : Catalog) (g : Query) : Prop :=
  ∃ (item : ResolvedDimension → SelectItem) (rest : List SelectItem),
    g.select = ctx.dimensions.map item ++ rest ∧
      ∀ d ∈ ctx.dimensions, (item d).asName = some d.column ∧
        ∀ here, ReadsFrom ((item d).expr.origins (g.fromCatalog cat) here) (ctx.dimOrigin d)

/-- Wherever a query reads a model's rows, directly, by a join or through a subquery, the raw
    column of a row metric of that model there gives the metric's value, in any catalog that sees
    the rows of `models`. -/
def RawsRead (ctx : QueryContext) (models : List String) (L : Query) : Prop :=
  ∀ cat, ctx.RowsCatalog models cat → ∀ r ∈ ctx.rowMetrics, ∀ m, r.modelName = some m →
    ∀ rel, L.ReadsRowsOf (cteRelation m) rel → ∀ here,
      (tableCol rel (rawColumn r.metric.name)).origins (sourceCatalog cat L.source) here = [rawOrigin m r]

theorem DimsRead.congr {cat cat' : Catalog} {g g' : Query} (h : ctx.DimsRead cat g)
    (h_sel : g'.select = g.select) (h_cat : g'.fromCatalog cat' = g.fromCatalog cat) :
    ctx.DimsRead cat' g' := by
  obtain ⟨item, rest, h_items, h_read⟩ := h
  exact ⟨item, rest, h_sel.trans h_items, by rwa [h_cat]⟩

/-- Asked for a dimension's name, a query that reads the dimensions gives the dimension. -/
theorem DimsRead.lookup (h_apart : ctx.ColumnsApart) {cat : Catalog} {g : Query} (h : ctx.DimsRead cat g)
    {d : ResolvedDimension} (h_d : d ∈ ctx.dimensions) (here : String) :
    ReadsFrom (((g.lineage cat here).lookup (some d.column)).getD []) (ctx.dimOrigin d) := by
  obtain ⟨item, rest, h_items, h_read⟩ := h
  have h_row : ∀ {d}, d ∈ ctx.dimensions → d ∈ ctx.rowDimensions := List.mem_append_left _
  have h_any : (ctx.dimensions.map item).any (SelectItem.named d.column) = true :=
    List.any_eq_true.mpr ⟨item d, List.mem_map_of_mem h_d, by simp [SelectItem.named, (h_read d h_d).1]⟩
  -- the first column of the name is that of a dimension with the name, which has the same origin
  obtain ⟨s, h_s⟩ := Option.isSome_iff_exists.mp
    (List.find?_isSome.mpr (List.any_eq_true.mp h_any))
  obtain ⟨d', h_d', rfl⟩ := List.mem_map.mp (List.mem_of_find?_eq_some h_s)
  have h_name : d'.column = d.column := by
    simpa [SelectItem.named, (h_read d' h_d').1] using List.find?_some h_s
  rw [Query.lookup_lineage, h_items, find?_append_of_any rest h_any, h_s, Option.map_some, Option.getD_some,
    ← h_apart.dim_same d (h_row h_d) d' (h_row h_d') h_name]
  exact (h_read d' h_d').2 here

/-- The output columns of a query that reads the dimensions, in order. -/
theorem DimsRead.lineage {cat : Catalog} {g : Query} (h : ctx.DimsRead cat g) (here : String) :
    ∀ (i : Nat) d, ctx.dimensions[i]? = some d →
      ∃ os, (g.lineage cat here)[i]? = some (some d.column, os) ∧ ReadsFrom os (ctx.dimOrigin d) := by
  obtain ⟨item, rest, h_items, h_read⟩ := h
  intro i d h_i
  have h_lt : i < ctx.dimensions.length := (List.getElem?_eq_some_iff.mp h_i).1
  have h_d : d ∈ ctx.dimensions := List.mem_of_getElem? h_i
  refine ⟨(item d).expr.origins (g.fromCatalog cat) here, ?_, (h_read d h_d).2 here⟩
  rw [Query.lineage_eq, h_items, List.map_append, List.getElem?_append_left (by simpa using h_lt),
    List.getElem?_map, List.getElem?_map, h_i]
  simp [(h_read d h_d).1]

theorem RawsRead.congr {ms : List String} {L L' : Query} (h : ctx.RawsRead ms L)
    (h_source : L'.source = L.source) (h_joins : L'.joins = L.joins) : ctx.RawsRead ms L' := by
  intro cat h_rows r h_r m h_rm rel h_reads here
  have h_reads' : L.ReadsRowsOf (cteRelation m) rel := by
    unfold Query.ReadsRowsOf at h_reads ⊢
    rwa [h_source, h_joins] at h_reads
  rw [h_source]
  exact h cat h_rows r h_r m h_rm rel h_reads' here

/-- A query that reads no model's rows reads no raw column of them. -/
theorem RawsRead.of_not_reads {ms : List String} {L : Query}
    (h : ∀ m rel, ¬ L.ReadsRowsOf (cteRelation m) rel) : ctx.RawsRead ms L :=
  fun _ _ _ _ m _ rel h_reads => absurd h_reads (h m rel)

theorem addFilters_source_joins {α : Type} (q : Query) (xs : List α) (f : α → Sql.Expr) :
    (xs.foldl (fun q x => q.addFilter (f x)) q).source = q.source ∧
      (xs.foldl (fun q x => q.addFilter (f x)) q).joins = q.joins := by
  induction xs generalizing q with
  | nil => exact ⟨rfl, rfl⟩
  | cons x xs ih => rw [List.foldl_cons]; exact ih _

/-- A model's rows read its table or its SQL, and no model's rows. -/
theorem modelRows_not_reads {model : Model} {keys : List String} {q : Query}
    (h : ctx.modelRows model keys = .ok q) : ∀ m rel, ¬ q.ReadsRowsOf (cteRelation m) rel := by
  intro m rel h_reads
  unfold modelRows at h
  split at h
  · simp only [pure_bind] at h
    obtain rfl := Except.ok.inj h
    simp [Query.ReadsRowsOf, addFilters_source_joins] at h_reads
  · obtain ⟨text, -, h⟩ := Except.bind_eq_ok.mp h
    simp only [pure_bind] at h
    obtain rfl := Except.ok.inj h
    simp [Query.ReadsRowsOf, addFilters_source_joins] at h_reads
  · simp at h

/-- A query grown from a joined source, the requested dimensions first, reads them. -/
theorem dimsRead_of_joinedSource (h_apart : ctx.ColumnsApart) {base : String} {path : JoinPath}
    {src : JoinedSource} (h_src : ctx.joinedSource base path = .ok src) {ms : List String} {cat : Catalog}
    (h_rows : ctx.RowsCatalog ms cat) (h_dims : ∀ d ∈ ctx.dimensions, d.model.name ∈ ms) {g : Query}
    (h_grows : Grows src.query (src.query.select ++ ctx.dimensionItems src) g) : ctx.DimsRead cat g := by
  obtain ⟨rest, h_items⟩ := h_grows.select
  have h_cat : g.fromCatalog cat = src.query.fromCatalog cat := by
    simp only [Query.fromCatalog, h_grows.ctes, h_grows.source]
  refine ⟨fun d => ⟨src.dimension d, some d.column⟩, rest, ?_, fun d h_d => ⟨rfl, fun here => ?_⟩⟩
  · rw [h_items, (joinedSource_select h_src).1, List.nil_append]
    rfl
  · dsimp only
    rw [h_cat, joinedSource_dimension h_apart h_src h_rows (List.mem_append_left _ h_d)
      (h_dims d h_d) here]
    exact ReadsFrom.singleton _

/-- The merged query of the per-model shape reads each dimension, merged over the aggregate
    relations, each of which reads it. -/
theorem mergedQuery_dimsRead (h_apart : ctx.ColumnsApart) {aggCtes : List (String × Query)} {g : Query}
    (h_merged : MergedQuery ctx aggCtes g) (h_ne : aggCtes ≠ []) {ms : List String}
    (h_names : ∀ e ∈ aggCtes, ∀ m, e.1 ≠ cteRelation m)
    (h_each : ∀ e ∈ aggCtes, ∀ cat, ctx.RowsCatalog ms cat → ctx.DimsRead cat e.2) {cat : Catalog}
    (h_rows : ctx.RowsCatalog ms cat) : ctx.DimsRead cat g := by
  obtain ⟨rest, h_sel⟩ := h_merged.select
  have h_cat : g.fromCatalog cat = ctesCatalog cat aggCtes := by
    obtain ⟨e, es, h_cons⟩ := List.exists_cons_of_ne_nil h_ne
    simp [Query.fromCatalog, h_merged.ctes, h_merged.source, h_cons]
  refine ⟨_, rest, h_sel, fun d h_d => ⟨rfl, fun here => ?_⟩⟩
  dsimp only
  rw [h_cat, Expr.origins_coalesce, List.flatMap_map]
  refine ReadsFrom.flatMap h_ne fun e h_e => ?_
  -- the relation of that name is the last aggregate with it, seen after those before it
  obtain ⟨pre, q', post, h_split, h_look⟩ := lookup_ctesCatalog_last cat aggCtes ⟨e.2, h_e⟩
  have h_q' : (e.1, q') ∈ aggCtes := by
    rw [h_split]
    simp
  have h_pre : ctx.RowsCatalog ms (ctesCatalog cat pre) :=
    h_rows.ctes fun p h_p => h_names p (by rw [h_split]; simp [h_p])
  rw [Expr.origins_tableCol_of_lookup h_look]
  exact (h_each _ h_q' _ h_pre).lookup h_apart h_d e.1

/-- The wrapper of window metrics reads the dimensions from the grouped query, read as `base`. -/
theorem DimsRead.window (h_apart : ctx.ColumnsApart) {cat : Catalog} {g top : Query}
    (h : ctx.DimsRead cat g) (h_top : ctx.windowQuery g = .ok top) : ctx.DimsRead cat top := by
  have h_grows := windowQuery_spec h_top
  obtain ⟨rest, h_sel⟩ := h_grows.select
  -- the grouped query, without its expressions, sees them under `base`
  have h_inner : ctx.DimsRead (ctesCatalog cat g.ctes) { g with ctes := [] } :=
    h.congr rfl (by simp [Query.fromCatalog])
  have h_look : (top.fromCatalog cat).lookup baseRelation =
      some (({ g with ctes := [] } : Query).lineage (ctesCatalog cat g.ctes) baseRelation) := by
    simp [Query.fromCatalog, h_grows.ctes, h_grows.source, ctesCatalog_append]
  refine ⟨_, rest, h_sel, fun d h_d => ⟨rfl, fun here => ?_⟩⟩
  dsimp only
  rw [Expr.origins_tableCol_of_lookup h_look]
  exact h_inner.lookup h_apart h_d baseRelation

-- ============================================================================
-- The grouped query and its wrapper
-- ============================================================================

/-- What a grouped query, or its wrapper, gives over a catalog that sees the rows of `models`:
    its expressions are named apart from the models' rows and read no expressions of their own,
    each of them and the query itself give raw values wherever they read a model's rows, and the
    query reads the dimensions. -/
structure Built (ctx : QueryContext) (models : List String) (cat : Catalog) (g : Query) : Prop where
  ctes_names : ∀ p ∈ g.ctes, ∀ m, p.1 ≠ cteRelation m
  ctes_raws : ∀ p ∈ g.ctes, p.2.ctes = [] ∧ ctx.RawsRead models p.2
  raws : ctx.RawsRead models g
  dims : ctx.DimsRead cat g

theorem built_inline (h_apart : ctx.ColumnsApart) {base : String} {path : JoinPath} {g : Query}
    (h_g : ctx.inlineQuery base path = .ok g) {ms : List String} {cat : Catalog}
    (h_rows : ctx.RowsCatalog ms cat) (h_tree : base ∈ ms ∧ ∀ s ∈ path.steps, s.target ∈ ms)
    (h_dims : ∀ d ∈ ctx.dimensions, d.model.name ∈ ms) : ctx.Built ms cat g := by
  obtain ⟨src, h_src, h_grows⟩ := inlineQuery_spec h_g
  have h_no_ctes : g.ctes = [] := h_grows.ctes.trans (joinedSource_select h_src).2
  refine ⟨by simp [h_no_ctes], by simp [h_no_ctes], ?_,
    dimsRead_of_joinedSource h_apart h_src h_rows h_dims h_grows⟩
  intro cat' h_rows' r h_r m h_rm rel h_reads here
  exact joinedSource_raw h_apart h_src h_rows' h_tree h_grows.source h_grows.joins h_r h_rm h_reads here

theorem built_perModel (h_apart : ctx.ColumnsApart) {parts : List (String × JoinPath)} {g : Query}
    (h_g : ctx.perModelQuery parts = .ok g) (h_parts : parts ≠ []) {ms : List String} {cat : Catalog}
    (h_rows : ctx.RowsCatalog ms cat) (h_trees : ∀ p ∈ parts, p.1 ∈ ms ∧ ∀ s ∈ p.2.steps, s.target ∈ ms)
    (h_dims : ∀ d ∈ ctx.dimensions, d.model.name ∈ ms) : ctx.Built ms cat g := by
  obtain ⟨aggCtes, h_aggs, h_len, h_merged⟩ := perModelQuery_spec h_g
  -- each aggregate relation is named for its model and reads that model's joined source
  have h_names : ∀ e ∈ aggCtes, ∀ m, e.1 ≠ cteRelation m := by
    intro e h_e m h_eq
    obtain ⟨p, -, h_name, -⟩ := h_aggs e h_e
    exact cteRelation_ne_aggRelation m p.1 (h_eq.symm.trans h_name)
  have h_ne : aggCtes ≠ [] := by
    intro h_nil
    rw [h_nil, List.length_nil] at h_len
    exact h_parts (List.eq_nil_of_length_eq_zero h_len.symm)
  refine ⟨h_merged.ctes ▸ h_names, ?_, ?_, ?_⟩
  · rw [h_merged.ctes]
    intro e h_e
    obtain ⟨p, h_p, -, src, h_src, h_grows⟩ := h_aggs e h_e
    refine ⟨h_grows.ctes.trans (joinedSource_select h_src).2, ?_⟩
    intro cat' h_rows' r h_r m h_rm rel h_reads here
    exact joinedSource_raw h_apart h_src h_rows' (h_trees p h_p) h_grows.source h_grows.joins h_r h_rm
      h_reads here
  · -- the merged query reads the aggregate relations only
    refine RawsRead.of_not_reads fun m rel h_reads => ?_
    unfold Query.ReadsRowsOf at h_reads
    rw [h_merged.source] at h_reads
    obtain ⟨e, es, h_cons⟩ := List.exists_cons_of_ne_nil h_ne
    rcases h_reads with ⟨h_at, -⟩ | ⟨j, h_j, h_at, -⟩ | ⟨_, h_at, -⟩
    · exact h_names e (by simp [h_cons]) m (by simpa [h_cons] using h_at)
    · obtain ⟨e', h_e', h_js⟩ := h_merged.joins j h_j
      exact h_names e' h_e' m (by simpa [h_js] using h_at)
    · simp [h_cons] at h_at
  · refine mergedQuery_dimsRead h_apart h_merged h_ne h_names (fun e h_e cat' h_rows' => ?_) h_rows
    obtain ⟨p, h_p, -, src, h_src, h_grows⟩ := h_aggs e h_e
    exact dimsRead_of_joinedSource h_apart h_src h_rows' h_dims h_grows

theorem Built.window (h_apart : ctx.ColumnsApart) {ms : List String} {cat : Catalog} {g top : Query}
    (h : ctx.Built ms cat g) (h_top : ctx.windowQuery g = .ok top) : ctx.Built ms cat top := by
  have h_grows := windowQuery_spec h_top
  have h_ctes : top.ctes = g.ctes ++ [(baseRelation, { g with ctes := [] })] := h_grows.ctes
  refine ⟨?_, ?_, ?_, h.dims.window h_apart h_top⟩
  · rw [h_ctes]
    intro p h_p m
    rcases List.mem_append.mp h_p with h_old | h_new
    · exact h.ctes_names p h_old m
    · obtain rfl := List.mem_singleton.mp h_new
      exact (cteRelation_ne_base m).symm
  · rw [h_ctes]
    intro p h_p
    rcases List.mem_append.mp h_p with h_old | h_new
    · exact h.ctes_raws p h_old
    · obtain rfl := List.mem_singleton.mp h_new
      exact ⟨rfl, h.raws.congr rfl rfl⟩
  · -- the wrapper reads the grouped query under the name `base`, and joins nothing
    refine RawsRead.of_not_reads fun m rel h_reads => ?_
    unfold Query.ReadsRowsOf at h_reads
    rw [h_grows.source, h_grows.joins] at h_reads
    rcases h_reads with ⟨h_at, -⟩ | ⟨j, h_j, -⟩ | ⟨_, h_at, -⟩
    · exact cteRelation_ne_base m (by simpa using h_at.symm)
    · simp at h_j
    · simp at h_at

-- ============================================================================
-- The built query
-- ============================================================================

theorem mem_slicingModels {d : ResolvedDimension} (h_d : d ∈ ctx.dimensions) :
    d.model.name ∈ ctx.slicingModels := by
  unfold slicingModels
  exact mem_foldl_insert _ _ (.inr (List.mem_append_left _ (List.mem_append_left _ (List.mem_map_of_mem h_d))))

/-- The join trees of a shape: at least one, each on edges of the graph and reaching the model of
    every requested dimension, when each of those is a model of the query. -/
theorem shape_trees (h_touched : ∀ d ∈ ctx.dimensions, d.model.name ∈ ctx.models) {shape : Shape}
    (h : ctx.shape = .ok shape) :
    shape.trees ≠ [] ∧ ∀ t ∈ shape.trees, t.2.steps ⊆ ctx.graph.edges ∧
      ∀ d ∈ ctx.dimensions, d.model.name = t.1 ∨ ∃ s ∈ t.2.steps, s.target = d.model.name := by
  -- a tree to every model of `among` but its root reaches the model of each dimension
  have h_reach : ∀ {root : String} {path : JoinPath} {among : List String},
      ctx.graph.joinTree root (among.filter (· != root)) = .ok path →
      (∀ d ∈ ctx.dimensions, d.model.name ∈ among) → path.steps ⊆ ctx.graph.edges ∧
        ∀ d ∈ ctx.dimensions, d.model.name = root ∨ ∃ s ∈ path.steps, s.target = d.model.name := by
    intro root path among h_tree h_among
    obtain ⟨h_edges, h_targets⟩ := Graph.joinTree_sound h_tree
    refine ⟨h_edges, fun d h_d => ?_⟩
    by_cases h_root : d.model.name = root
    · exact .inl h_root
    · exact h_targets _ (List.mem_filter.mpr ⟨h_among d h_d, by simpa using h_root⟩)
  cases shape with
  | inline base path =>
    refine ⟨by simp [Shape.trees], fun t h_t => ?_⟩
    obtain rfl : t = (base, path) := by simpa [Shape.trees] using h_t
    exact h_reach (shape_inline h).1 h_touched
  | perModel parts =>
    obtain ⟨h_names, h_many, h_paths⟩ := shape_perModel h
    refine ⟨fun h_nil => ?_, fun t h_t => h_reach (h_paths t h_t) fun d h_d => mem_slicingModels h_d⟩
    -- two models or more are aggregated, each with its tree
    have h_none : parts = [] := h_nil
    rw [← h_names, h_none] at h_many
    simp at h_many

end QueryContext

open QueryContext in
/-- Every column of a built query reads the value it is named for. The output column of a
    requested dimension, at the dimension's place, reads the dimension's SQL in its model's rows;
    and wherever a select list of the query, or of one of its expressions, reads a model's rows,
    the raw column of a row metric of that model there reads the metric's expression in the rows.
    This holds when the columns offered to one relation have names of their own and each
    dimension's model is a model of the query. -/
theorem buildQuery_columns_carry_their_values (ctx : QueryContext) (q : Query)
    (h_touched : ∀ d ∈ ctx.dimensions, d.model.name ∈ ctx.models) (h_apart : ctx.ColumnsApart)
    (h : ctx.buildQuery = .ok q) (out : String) :
    (∀ (i : Nat) d, ctx.dimensions[i]? = some d →
      ∃ os, (q.lineage [] out)[i]? = some (some d.column, os) ∧ ReadsFrom os (ctx.dimOrigin d)) ∧
    (∀ r ∈ ctx.rowMetrics, ∀ m, r.modelName = some m → ∀ lv ∈ q.levels, ∀ rel,
      lv.2.ReadsRowsOf (cteRelation m) rel → ∀ here,
        (tableCol rel (rawColumn r.metric.name)).origins lv.1 here = [rawOrigin m r]) := by
  obtain ⟨shape, ctes, grouped, top, h_shape, h_ctes, h_grouped, h_top, rfl⟩ := buildQuery_spec h
  obtain ⟨h_nonempty, h_trees⟩ := shape_trees h_touched h_shape
  -- every tree, and the model of every dimension, has the rows of its models in the layout
  have h_layout := cteLayout_models shape.trees
  have h_tree_in : ∀ t ∈ shape.trees, t.1 ∈ (cteLayout shape.trees).1 ∧
      ∀ s ∈ t.2.steps, s.target ∈ (cteLayout shape.trees).1 :=
    fun t h_t => ⟨(h_layout t h_t).1, fun s h_s => ((h_layout t h_t).2 s h_s).2⟩
  have h_dims : ∀ d ∈ ctx.dimensions, d.model.name ∈ (cteLayout shape.trees).1 := by
    intro d h_d
    obtain ⟨t, h_t⟩ := List.exists_mem_of_ne_nil _ h_nonempty
    rcases (h_trees t h_t).2 d h_d with h_eq | ⟨s, h_s, h_eq⟩
    · exact h_eq ▸ (h_tree_in t h_t).1
    · exact h_eq ▸ (h_tree_in t h_t).2 s h_s
  have h_rows := rowsCatalog_modelCtes h_apart h_ctes (fun t h_t => (h_trees t h_t).1) []
  have h_built_grouped : ctx.Built (cteLayout shape.trees).1 (ctesCatalog [] ctes) grouped := by
    rcases h_grouped with ⟨base, path, rfl, h_g⟩ | ⟨parts, rfl, h_g⟩
    · exact built_inline h_apart h_g h_rows (h_tree_in (base, path) (by simp [Shape.trees])) h_dims
    · exact built_perModel h_apart h_g h_nonempty h_rows h_tree_in h_dims
  have h_built : ctx.Built (cteLayout shape.trees).1 (ctesCatalog [] ctes) top := by
    rcases h_top with rfl | h_w
    · exact h_built_grouped
    · exact h_built_grouped.window h_apart h_w
  -- the built query sees the rows of the models, then what the top query defines
  have h_rows_top : ctx.RowsCatalog (cteLayout shape.trees).1 (ctesCatalog [] (ctes ++ top.ctes)) := by
    rw [ctesCatalog_append]
    exact h_rows.ctes h_built.ctes_names
  have h_dims_q : ctx.DimsRead [] { top with ctes := ctes ++ top.ctes } :=
    h_built.dims.congr rfl (by simp [Query.fromCatalog, ctesCatalog_append])
  refine ⟨h_dims_q.lineage out, ?_⟩
  intro r h_r m h_rm lv h_lv rel h_reads here
  simp only [Query.levels, cteLevels_append, List.mem_append, List.mem_singleton] at h_lv
  rcases h_lv with (h_model | h_defined) | rfl
  · -- the rows of a model read no model's rows
    obtain ⟨pre, n, post, h_split, -⟩ := mem_cteLevels h_model
    obtain ⟨name, -, -, model, -, h_model_rows⟩ := modelCtes_entry h_ctes (n, lv.2) (by rw [h_split]; simp)
    exact absurd h_reads (modelRows_not_reads h_model_rows m rel)
  · -- an expression of the top query, seen after the rows and the expressions before it
    obtain ⟨pre, n, post, h_split, h_cat⟩ := mem_cteLevels h_defined
    have h_mem : (n, lv.2) ∈ top.ctes := by
      rw [h_split]
      simp
    obtain ⟨h_no_ctes, h_raws⟩ := h_built.ctes_raws _ h_mem
    have h_pre : ctx.RowsCatalog (cteLayout shape.trees).1
        (ctesCatalog (ctesCatalog (ctesCatalog [] ctes) pre) lv.2.ctes) := by
      rw [h_no_ctes, ctesCatalog_nil]
      exact h_rows.ctes fun p h_p => h_built.ctes_names p (by rw [h_split]; simp [h_p])
    rw [h_cat]
    exact h_raws _ h_pre r h_r m h_rm rel h_reads here
  · -- the query itself reads what the top query reads
    exact h_built.raws _ h_rows_top r h_r m h_rm rel h_reads here

end MetricLayer
