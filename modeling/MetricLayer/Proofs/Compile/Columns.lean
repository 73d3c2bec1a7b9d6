import MetricLayer.Compile.Builder
import MetricLayer.Proofs.Outcome
import MetricLayer.Proofs.Sql.Lineage
/-!
# The columns the builder writes

A select list the builder writes keeps, of the columns offered under one name, the first one
(`addColumn`): a reader that asks a relation for a column by name gets the first column
offered under that name. This module says which column that is for the relations of a query:

* a model's rows (`QueryContext.modelRows`): the first of its primary key, the keys of its
  joins, its dimensions and the raw values of its row metrics (`QueryContext.rowItems`), each
  written out in SQL;
* the common table expressions of the models (`QueryContext.modelCtes`): one for each model of
  the join trees, with the keys of the joins at that model (`QueryContext.cteLayout`);
* the joined source (`QueryContext.joinedSource`): the models it joins, the relation each is
  read from, and the distinct base rows when a join fans out (`QueryContext.dedupedItems`).
-/

namespace MetricLayer

open MetricLayer.Sql MetricLayer.Text

-- ============================================================================
-- First column of each name
-- ============================================================================

theorem find?_append_of_any {α : Type} {p : α → Bool} {xs : List α} (ys : List α)
    (h : xs.any p = true) : (xs ++ ys).find? p = xs.find? p := by
  obtain ⟨x, h_mem, h_x⟩ := List.any_eq_true.mp h
  have h_some : (xs.find? p).isSome := List.find?_isSome.mpr ⟨x, h_mem, h_x⟩
  obtain ⟨y, h_y⟩ := Option.isSome_iff_exists.mp h_some
  simp [List.find?_append, h_y]

/-- The first element with a property, when one exists and all of them agree on `g`, gives
    that value. -/
theorem find?_map_of_forall {α β : Type} {p : α → Bool} {g : α → β} {v : β} {xs : List α}
    (h_ex : ∃ x ∈ xs, p x = true) (h_all : ∀ x ∈ xs, p x = true → g x = v) :
    (xs.find? p).map g = some v := by
  obtain ⟨y, h_y⟩ := Option.isSome_iff_exists.mp (List.find?_isSome.mpr h_ex)
  rw [h_y, Option.map_some, h_all y (List.mem_of_find?_eq_some h_y) (List.find?_some h_y)]

/-- Items with other names are passed over. -/
theorem find?_append_of_forall_not {α : Type} {p : α → Bool} {xs : List α} (ys : List α)
    (h : ∀ x ∈ xs, p x = false) : (xs ++ ys).find? p = ys.find? p := by
  have h_none : xs.find? p = none := List.find?_eq_none.mpr fun x hx => by simp [h x hx]
  simp [List.find?_append, h_none]

/-- The item `addColumn` offers under a name. -/
def offered (name : String) (e : Sql.Expr) : SelectItem := ⟨e, some name⟩

/-- A select list built by `addColumn` finds, for each name, the first item offered under it. -/
theorem find?_foldl_addColumn {α : Type} (name : α → String) (expr : α → Sql.Expr)
    (xs : List α) (acc : List SelectItem) (c : String) :
    (xs.foldl (fun cols x => addColumn cols (name x) (expr x)) acc).find? (SelectItem.named c) =
      (acc ++ xs.map fun x => offered (name x) (expr x)).find? (SelectItem.named c) := by
  induction xs generalizing acc with
  | nil => simp
  | cons x xs ih =>
    rw [List.foldl_cons, ih]
    unfold addColumn
    split
    · rename_i h_taken
      by_cases h_name : name x = c
      · -- an earlier item has the name, so the offered one is never found
        subst h_name
        have h_any : acc.any (SelectItem.named (name x)) = true := by
          simpa [SelectItem.named] using h_taken
        rw [find?_append_of_any _ h_any, List.map_cons, find?_append_of_any _ h_any]
      · simp [List.find?_append, SelectItem.named, offered, h_name]
    · simp [offered, List.append_assoc]

/-- Every item of a select list built by `addColumn` is one that was offered. -/
theorem mem_foldl_addColumn {α : Type} {name : α → String} {expr : α → Sql.Expr}
    {xs : List α} {acc : List SelectItem} {s : SelectItem}
    (h : s ∈ xs.foldl (fun cols x => addColumn cols (name x) (expr x)) acc) :
    s ∈ acc ∨ ∃ x ∈ xs, s = offered (name x) (expr x) := by
  induction xs generalizing acc with
  | nil => exact .inl h
  | cons x xs ih =>
    rw [List.foldl_cons] at h
    rcases ih h with h_acc | ⟨x', h_mem, h_eq⟩
    · unfold addColumn at h_acc
      split at h_acc
      · exact .inl h_acc
      · rcases List.mem_append.mp h_acc with h_old | h_new
        · exact .inl h_old
        · exact .inr ⟨x, List.mem_cons_self, List.mem_singleton.mp h_new⟩
    · exact .inr ⟨x', List.mem_cons_of_mem _ h_mem, h_eq⟩

/-- A select list built from named items finds, for each name, the first item with it. -/
theorem find?_addItems {items : List SelectItem}
    (h_named : ∀ s ∈ items, offered (s.asName.getD "") s.expr = s) (c : String) :
    (items.foldl (fun cols s => addColumn cols (s.asName.getD "") s.expr) []).find?
      (SelectItem.named c) = items.find? (SelectItem.named c) := by
  have h_items : items.map (fun s => offered (s.asName.getD "") s.expr) = items :=
    (List.map_congr_left h_named).trans (List.map_id' _)
  rw [find?_foldl_addColumn, List.nil_append, h_items]

theorem addFilters_select {α : Type} (q : Query) (xs : List α) (f : α → Sql.Expr) :
    (xs.foldl (fun q x => q.addFilter (f x)) q).select = q.select := by
  induction xs generalizing q with
  | nil => rfl
  | cons x xs ih => rw [List.foldl_cons, ih]; rfl

-- ============================================================================
-- A model's rows
-- ============================================================================

namespace QueryContext

/-- The SQL a dimension is computed with in its model's rows: its expression over the source
    alias, truncated to its grain. -/
def dimensionSql (ctx : QueryContext) (d : ResolvedDimension) : String :=
  let e := replaceAll d.dimension.sqlExpr Metric.modelPlaceholder sourceAlias
  match d.granularity with
  | some g => ctx.dialect.dateTrunc g.name e
  | none => e

/-- The columns offered to a model's rows, in order: the primary key, the join keys, the
    dimensions, the raw values of the row metrics. -/
def rowItems (ctx : QueryContext) (model : Model) (keys : List String) : List SelectItem :=
  offered model.primaryKey (.raw model.primaryKey) :: keys.map (fun k => offered k (.raw k)) ++
    (ctx.cteDimensions model.name).map (fun d => offered d.column (.raw (ctx.dimensionSql d))) ++
    (ctx.rowMetricsOf model.name).map fun r =>
      offered (rawColumn r.metric.name) (.raw (r.metric.rawExpression sourceAlias))

/-- The select list of a model's rows: its offered columns, the first of each name kept. -/
theorem modelRows_select {ctx : QueryContext} {model : Model} {keys : List String} {q : Query}
    (h : ctx.modelRows model keys = .ok q) :
    q.select = (ctx.rowItems model keys).foldl
      (fun cols s => addColumn cols (s.asName.getD "") s.expr) [] := by
  unfold modelRows at h
  -- the relation read differs with the model's source; the select list does not
  split at h
  · simp only [pure_bind] at h
    obtain rfl := Except.ok.inj h
    rw [addFilters_select]
    -- the dimensions' match is the builder's own, not that of `dimensionSql`
    simp only [rowItems, List.foldl_cons, List.foldl_append, List.foldl_map, offered,
      Option.getD_some]
    rfl
  · obtain ⟨text, -, h⟩ := Except.bind_eq_ok.mp h
    simp only [pure_bind] at h
    obtain rfl := Except.ok.inj h
    rw [addFilters_select]
    -- the dimensions' match is the builder's own, not that of `dimensionSql`
    simp only [rowItems, List.foldl_cons, List.foldl_append, List.foldl_map, offered,
      Option.getD_some]
    rfl
  · simp at h

/-- Every column offered to a model's rows is named and written out in SQL. -/
theorem mem_rowItems {ctx : QueryContext} {model : Model} {keys : List String} {s : SelectItem}
    (h : s ∈ ctx.rowItems model keys) :
    offered (s.asName.getD "") s.expr = s ∧ ∃ sql, s.expr = .raw sql := by
  simp only [rowItems, List.mem_cons, List.mem_append, List.mem_map] at h
  rcases h with ((rfl | ⟨k, -, rfl⟩) | ⟨d, -, rfl⟩) | ⟨r, -, rfl⟩ <;> simp [offered]

/-- A model's rows have, under each name, the first column offered under it. -/
theorem modelRows_find? {ctx : QueryContext} {model : Model} {keys : List String} {q : Query}
    (h : ctx.modelRows model keys = .ok q) (c : String) :
    q.select.find? (SelectItem.named c) = (ctx.rowItems model keys).find? (SelectItem.named c) := by
  rw [modelRows_select h, find?_addItems fun s hs => (mem_rowItems hs).1]

/-- Every column of a model's rows is written out in SQL. -/
theorem modelRows_raw {ctx : QueryContext} {model : Model} {keys : List String} {q : Query}
    (h : ctx.modelRows model keys = .ok q) : ∀ s ∈ q.select, ∃ sql, s.expr = .raw sql := by
  intro s h_mem
  rw [modelRows_select h] at h_mem
  rcases mem_foldl_addColumn h_mem with h_nil | ⟨x, h_x, rfl⟩
  · simp at h_nil
  · exact (mem_rowItems h_x).2

/-- The lineage of a model's rows: each column is computed in the rows themselves, from the
    first column offered under its name. -/
theorem modelRows_lookup {ctx : QueryContext} {model : Model} {keys : List String} {q : Query}
    (h : ctx.modelRows model keys = .ok q) (cat : Catalog) (n c : String) :
    (q.lineage cat n).lookup (some c) =
      ((ctx.rowItems model keys).find? (SelectItem.named c)).map fun s => [⟨n, s.expr⟩] := by
  rw [Query.lineage_of_raw (modelRows_raw h), lookup_map_named, modelRows_find? h]

end QueryContext

-- ============================================================================
-- The common table expressions of the models
-- ============================================================================

/-- The join trees of a shape: the base with its path, or each aggregated model with its own. -/
def Shape.trees : Shape → List (String × JoinPath)
  | .inline base path => [(base, path)]
  | .perModel parts => parts

/-- A model put in the order of the expressions unless it is there. -/
def recordModel (order : List String) (m : String) : List String :=
  if order.contains m then order else order ++ [m]

/-- A join key recorded for a model, after the keys recorded before. -/
def recordKey (keys : List (String × List String)) (m k : String) : List (String × List String) :=
  match keys.lookup m with
  | some ks => keys.map fun (m', ks') => if m' == m then (m', ks ++ [k]) else (m', ks')
  | none => keys ++ [(m, [k])]

/-- Both ends of a join recorded, with their keys. -/
def recordStep (acc : List String × List (String × List String)) (step : JoinStep) :
    List String × List (String × List String) :=
  [(step.source, step.sourceKey), (step.target, step.targetKey)].foldl
    (fun acc (m, k) => (recordModel acc.1 m, recordKey acc.2 m k)) acc

/-- A tree's base recorded, then its joins. -/
def recordTree (acc : List String × List (String × List String)) (tree : String × JoinPath) :
    List String × List (String × List String) :=
  tree.2.steps.foldl recordStep (recordModel acc.1 tree.1, acc.2)

/-- The models that get an expression, in order, and the keys of the joins at each. -/
def cteLayout (trees : List (String × JoinPath)) : List String × List (String × List String) :=
  trees.foldl recordTree ([], [])

theorem mem_recordModel_self (order : List String) (m : String) : m ∈ recordModel order m := by
  unfold recordModel
  split
  · rename_i h_in
    simpa using h_in
  · simp

theorem mem_recordModel_of_mem {order : List String} {x : String} (m : String) (h : x ∈ order) :
    x ∈ recordModel order m := by
  unfold recordModel
  split
  · exact h
  · exact List.mem_append_left _ h

/-- Recording joins keeps the models recorded before and records both ends of each join. -/
theorem foldl_recordStep_models (steps : List JoinStep) (acc : List String × List (String × List String)) :
    acc.1 ⊆ (steps.foldl recordStep acc).1 ∧
      ∀ s ∈ steps, s.source ∈ (steps.foldl recordStep acc).1 ∧ s.target ∈ (steps.foldl recordStep acc).1 := by
  induction steps generalizing acc with
  | nil => simp
  | cons s ss ih =>
    obtain ⟨h_sub, h_all⟩ := ih (recordStep acc s)
    -- one join records its source, then its target
    have h_step : acc.1 ⊆ (recordStep acc s).1 ∧ s.source ∈ (recordStep acc s).1 ∧
        s.target ∈ (recordStep acc s).1 := by
      simp only [recordStep, List.foldl_cons, List.foldl_nil]
      exact ⟨fun x hx => mem_recordModel_of_mem _ (mem_recordModel_of_mem _ hx),
        mem_recordModel_of_mem _ (mem_recordModel_self _ _), mem_recordModel_self _ _⟩
    refine ⟨fun x hx => h_sub (h_step.1 hx), ?_⟩
    intro s' hs'
    rcases List.mem_cons.mp hs' with rfl | h_in
    · exact ⟨h_sub h_step.2.1, h_sub h_step.2.2⟩
    · exact h_all s' h_in

/-- Every base and every end of a join of the trees gets an expression. -/
theorem cteLayout_models (trees : List (String × JoinPath)) :
    ∀ tree ∈ trees, tree.1 ∈ (cteLayout trees).1 ∧
      ∀ s ∈ tree.2.steps, s.source ∈ (cteLayout trees).1 ∧ s.target ∈ (cteLayout trees).1 := by
  unfold cteLayout
  -- what is recorded stays recorded, so each tree is checked where the fold records it
  suffices h_run : ∀ (ts : List (String × JoinPath)) acc, acc.1 ⊆ (ts.foldl recordTree acc).1 ∧
      ∀ tree ∈ ts, tree.1 ∈ (ts.foldl recordTree acc).1 ∧ ∀ s ∈ tree.2.steps,
        s.source ∈ (ts.foldl recordTree acc).1 ∧ s.target ∈ (ts.foldl recordTree acc).1 from
    (h_run trees ([], [])).2
  intro ts
  induction ts with
  | nil => simp
  | cons t ts ih =>
    intro acc
    obtain ⟨h_sub, h_all⟩ := ih (recordTree acc t)
    obtain ⟨h_steps_sub, h_steps⟩ := foldl_recordStep_models t.2.steps (recordModel acc.1 t.1, acc.2)
    refine ⟨fun x hx => h_sub (h_steps_sub (mem_recordModel_of_mem _ hx)), ?_⟩
    intro tree h_tree
    rcases List.mem_cons.mp h_tree with rfl | h_in
    · refine ⟨h_sub (h_steps_sub (mem_recordModel_self _ _)), fun s hs => ?_⟩
      exact ⟨h_sub (h_steps s hs).1, h_sub (h_steps s hs).2⟩
    · exact h_all tree h_in

/-- A key recorded at a model is a key of a join at that model. -/
def KeyAt (trees : List (String × JoinPath)) (m k : String) : Prop :=
  ∃ tree ∈ trees, ∃ s ∈ tree.2.steps, (s.source = m ∧ s.sourceKey = k) ∨ (s.target = m ∧ s.targetKey = k)

theorem mem_of_lookup_eq_some {α β : Type} [BEq α] [LawfulBEq α] {l : List (α × β)} {a : α} {b : β}
    (h : l.lookup a = some b) : (a, b) ∈ l := by
  obtain ⟨l₁, l₂, rfl, -⟩ := List.lookup_eq_some_iff.mp h
  simp

/-- Recording a key of a join at a model keeps every recorded key one of a join at its model. -/
theorem recordKey_keyAt {trees : List (String × JoinPath)} {keys : List (String × List String)}
    {m k : String} (h_keys : ∀ p ∈ keys, ∀ k' ∈ p.2, KeyAt trees p.1 k') (h_new : KeyAt trees m k) :
    ∀ p ∈ recordKey keys m k, ∀ k' ∈ p.2, KeyAt trees p.1 k' := by
  unfold recordKey
  split
  · rename_i ks h_look
    have h_old : ∀ k' ∈ ks, KeyAt trees m k' := h_keys (m, ks) (mem_of_lookup_eq_some h_look)
    intro p h_p k' h_k'
    obtain ⟨⟨m', ks'⟩, h_mem, rfl⟩ := List.mem_map.mp h_p
    by_cases h_m : m' = m
    · subst h_m
      simp only [beq_self_eq_true, ↓reduceIte, List.mem_append, List.mem_singleton] at h_k' ⊢
      rcases h_k' with h_in | rfl
      · exact h_old k' h_in
      · exact h_new
    · simp only [beq_iff_eq, h_m, ↓reduceIte] at h_k' ⊢
      exact h_keys (m', ks') h_mem k' h_k'
  · intro p h_p k' h_k'
    rcases List.mem_append.mp h_p with h_old | h_added
    · exact h_keys p h_old k' h_k'
    · obtain rfl := List.mem_singleton.mp h_added
      obtain rfl := List.mem_singleton.mp h_k'
      exact h_new

/-- The keys recorded at a model are keys of joins of the trees at that model. -/
theorem cteLayout_keys (trees : List (String × JoinPath)) (name k : String)
    (h : k ∈ ((cteLayout trees).2.lookup name).getD []) : KeyAt trees name k := by
  -- every key recorded so far is one of a join at its model: the joins are those of the trees
  have h_steps : ∀ tree ∈ trees, ∀ (steps : List JoinStep), steps ⊆ tree.2.steps →
      ∀ acc : List String × List (String × List String), (∀ p ∈ acc.2, ∀ k' ∈ p.2, KeyAt trees p.1 k') →
      ∀ p ∈ (steps.foldl recordStep acc).2, ∀ k' ∈ p.2, KeyAt trees p.1 k' := by
    intro tree h_tree steps
    induction steps with
    | nil => intro _ acc h_acc; exact h_acc
    | cons s ss ih =>
      intro h_sub acc h_acc
      have h_s : s ∈ tree.2.steps := h_sub List.mem_cons_self
      apply ih (fun x hx => h_sub (List.mem_cons_of_mem _ hx))
      simp only [recordStep, List.foldl_cons, List.foldl_nil]
      apply recordKey_keyAt (recordKey_keyAt h_acc ⟨tree, h_tree, s, h_s, .inl ⟨rfl, rfl⟩⟩)
      exact ⟨tree, h_tree, s, h_s, .inr ⟨rfl, rfl⟩⟩
  have h_trees : ∀ ts : List (String × JoinPath), ts ⊆ trees →
      ∀ acc : List String × List (String × List String), (∀ p ∈ acc.2, ∀ k' ∈ p.2, KeyAt trees p.1 k') →
      ∀ p ∈ (ts.foldl recordTree acc).2, ∀ k' ∈ p.2, KeyAt trees p.1 k' := by
    intro ts
    induction ts with
    | nil => intro _ acc h_acc; exact h_acc
    | cons t ts ih =>
      intro h_sub acc h_acc
      apply ih (fun x hx => h_sub (List.mem_cons_of_mem _ hx))
      exact h_steps t (h_sub List.mem_cons_self) t.2.steps (List.Subset.refl _) _ h_acc
  cases h_look : (cteLayout trees).2.lookup name with
  | none => simp [h_look] at h
  | some ks =>
    rw [h_look, Option.getD_some] at h
    exact h_trees trees (List.Subset.refl _) ([], []) (by simp) (name, ks)
      (mem_of_lookup_eq_some h_look) k h

namespace QueryContext

theorem modelCtes_eq (ctx : QueryContext) (shape : Shape) :
    ctx.modelCtes shape = (cteLayout shape.trees).1.mapM (fun name => do
      let model ← ctx.graph.getModel name
      let q ← ctx.modelRows model (((cteLayout shape.trees).2.lookup name).getD [])
      pure (cteRelation name, q)) := by
  cases shape <;> rfl

/-- Each expression of the models is a model's rows, under the name of its relation. -/
theorem modelCtes_entry {ctx : QueryContext} {shape : Shape} {ctes : List (String × Query)}
    (h : ctx.modelCtes shape = .ok ctes) :
    ∀ p ∈ ctes, ∃ name ∈ (cteLayout shape.trees).1, p.1 = cteRelation name ∧
      ∃ model, ctx.graph.getModel name = .ok model ∧
        ctx.modelRows model (((cteLayout shape.trees).2.lookup name).getD []) = .ok p.2 := by
  rw [modelCtes_eq] at h
  intro p h_p
  obtain ⟨name, h_name, h_run⟩ := mapM_ok_of_mem h p h_p
  obtain ⟨model, h_model, h_rest⟩ := Except.bind_eq_ok.mp h_run
  obtain ⟨q, h_rows, h_done⟩ := Except.bind_eq_ok.mp h_rest
  cases h_done
  exact ⟨name, h_name, rfl, model, h_model, h_rows⟩

/-- Every model of the layout gets an expression. -/
theorem modelCtes_complete {ctx : QueryContext} {shape : Shape} {ctes : List (String × Query)}
    (h : ctx.modelCtes shape = .ok ctes) :
    ∀ name ∈ (cteLayout shape.trees).1, ∃ q, (cteRelation name, q) ∈ ctes := by
  rw [modelCtes_eq] at h
  intro name h_name
  obtain ⟨p, h_p, h_run⟩ := mapM_ok_of_input h name h_name
  obtain ⟨model, -, h_rest⟩ := Except.bind_eq_ok.mp h_run
  obtain ⟨q, -, h_done⟩ := Except.bind_eq_ok.mp h_rest
  cases h_done
  exact ⟨q, h_p⟩

/-- The relation of a model of the layout, seen after the expressions of the models: the
    model's rows, whose columns are computed where they stand. -/
theorem lookup_modelCtes {ctx : QueryContext} {shape : Shape} {ctes : List (String × Query)}
    (h : ctx.modelCtes shape = .ok ctes) (cat : Catalog) {name : String}
    (h_name : name ∈ (cteLayout shape.trees).1) :
    ∃ model q, ctx.graph.getModel name = .ok model ∧
      ctx.modelRows model (((cteLayout shape.trees).2.lookup name).getD []) = .ok q ∧
      (ctesCatalog cat ctes).lookup (cteRelation name) = some (q.lineage [] (cteRelation name)) := by
  obtain ⟨q, h_q⟩ := modelCtes_complete h name h_name
  obtain ⟨name', -, h_rel, model, h_model, h_rows⟩ := modelCtes_entry h _ h_q
  obtain rfl : name = name' := by simpa [cteRelation] using h_rel
  refine ⟨model, q, h_model, h_rows, lookup_ctesCatalog_of_mem cat ctes ⟨q, h_q⟩ ?_⟩
  -- every expression under that name computes the same rows, whatever it sees
  intro q' h_q' s
  obtain ⟨name'', -, h_rel', model', h_model', h_rows'⟩ := modelCtes_entry h _ h_q'
  obtain rfl : name = name'' := by simpa [cteRelation] using h_rel'
  obtain rfl : model = model' := by simpa [h_model] using h_model'
  obtain rfl : q = q' := by simpa [h_rows] using h_rows'
  rw [Query.lineage_of_raw (modelRows_raw h_rows), Query.lineage_of_raw (modelRows_raw h_rows)]

end QueryContext

-- ============================================================================
-- The joined source
-- ============================================================================

/-- The models a joined source joins: the base, then the target of each join, each once. -/
def treeModels (base : String) (path : JoinPath) : List String :=
  path.steps.foldl (fun ms s => if ms.contains s.target then ms else ms ++ [s.target]) [base]

namespace QueryContext

/-- The columns offered to the distinct base rows: the base key, the dimensions of the joined
    models, the raw values of the base's row metrics, each read from its model's rows. -/
def dedupedItems (ctx : QueryContext) (base : String) (baseModel : Model) (models : List String) :
    List SelectItem :=
  offered baseModel.primaryKey (tableCol (cteRelation base) baseModel.primaryKey) ::
    models.flatMap (fun m => (ctx.cteDimensions m).map fun dim =>
      offered dim.column (tableCol (cteRelation m) dim.column)) ++
    (ctx.rowMetricsOf base).map fun r =>
      offered (rawColumn r.metric.name) (tableCol (cteRelation base) (rawColumn r.metric.name))

/-- What a joined query is before its base rows are made distinct: the base's rows joined to the
    rows of each target, with nothing selected yet. -/
structure JoinedRows (base : String) (path : JoinPath) (q : Query) : Prop where
  ctes : q.ctes = []
  source : q.source = some (.named (cteRelation base), none)
  joins : ∀ j ∈ q.joins, ∃ s ∈ path.steps, j.source = .named (cteRelation s.target)

/-- A joined source reads the joined rows directly, or their distinct base rows. -/
theorem joinedSource_cases {ctx : QueryContext} {base : String} {path : JoinPath}
    {src : JoinedSource} (h : ctx.joinedSource base path = .ok src) :
    (JoinedRows base path src.query ∧ src.query.select = [] ∧
        src.relations = (treeModels base path).map fun m => (m, cteRelation m)) ∨
      (∃ baseModel inner, ctx.graph.getModel base = .ok baseModel ∧ ctx.rowMetricsOf base ≠ [] ∧
        src.query = { source := some (.subquery inner, some dedupedRelation) } ∧
        JoinedRows base path inner ∧ src.relations = (treeModels base path).map (fun m => (m, dedupedRelation)) ∧
        ∀ c, inner.select.find? (SelectItem.named c) =
          (ctx.dedupedItems base baseModel (treeModels base path)).find? (SelectItem.named c)) := by
  unfold joinedSource at h
  obtain ⟨q, h_q, h⟩ := Except.bind_eq_ok.mp h
  -- the joins and then the row filters keep the joined rows as they are
  have h_filtered : JoinedRows base path q ∧ q.select = [] := by
    refine foldlM_ok_invariant (fun q => JoinedRows base path q ∧ q.select = []) ?_ _ _ _ ?_ h_q
    · intro q₁ f q₂ h_inv h_step
      obtain ⟨c, -, h_done⟩ := Except.bind_eq_ok.mp h_step
      cases h_done
      exact ⟨⟨h_inv.1.ctes, h_inv.1.source, h_inv.1.joins⟩, h_inv.2⟩
    · -- each join reads the relation of a step of the path
      refine foldl_invariant (fun q => JoinedRows base path q ∧ q.select = []) ?_
        ⟨⟨rfl, rfl, by simp⟩, rfl⟩
      intro q₀ s h_s h_inv
      refine ⟨⟨h_inv.1.ctes, h_inv.1.source, ?_⟩, h_inv.2⟩
      intro j h_j
      rcases List.mem_append.mp h_j with h_old | h_new
      · exact h_inv.1.joins j h_old
      · exact ⟨s, h_s, by simp at h_new; simp [h_new]⟩
  obtain ⟨h_rows, h_sel⟩ := h_filtered
  dsimp only at h
  split at h
  · -- no join fans out, or nothing of the base is aggregated
    cases h
    exact .inl ⟨h_rows, h_sel, rfl⟩
  · rename_i h_fans
    -- the base rows are made distinct only when something of the base is aggregated
    have h_metrics : ctx.rowMetricsOf base ≠ [] := by
      intro h_nil
      simp [h_nil] at h_fans
    obtain ⟨baseModel, h_base, h⟩ := Except.bind_eq_ok.mp h
    cases h
    refine .inr ⟨baseModel, _, h_base, h_metrics, rfl, ⟨h_rows.ctes, h_rows.source, h_rows.joins⟩, rfl, ?_⟩
    intro c
    have h_named : ∀ s ∈ ctx.dedupedItems base baseModel (treeModels base path),
        offered (s.asName.getD "") s.expr = s := by
      intro s h_s
      simp only [dedupedItems, List.mem_cons, List.mem_append, List.mem_flatMap, List.mem_map] at h_s
      rcases h_s with (rfl | ⟨m, -, d, -, rfl⟩) | ⟨r, -, rfl⟩ <;> simp [offered]
    rw [← find?_addItems h_named c]
    -- the nested folds offer the same columns, one list at a time
    congr 1
    simp only [dedupedItems, List.foldl_cons, List.foldl_append, List.foldl_flatMap, List.foldl_map,
      offered, Option.getD_some, treeModels]

end QueryContext

-- ============================================================================
-- Orders and their line items, filtered on the items
-- ============================================================================

/-- Orders, each with many line items. -/
def itemsOrders : Model :=
  { name := "orders", table := some "orders", primaryKey := "order_id",
    dimensions := [{ name := "status" }],
    metrics := [{ name := "revenue", agg := some .sum, sql := some "amount" }],
    relationships := [{ name := "line_items", kind := .oneToMany, foreignKey := some "order_id",
                        primaryKey := some "order_id" }] }

/-- Line items, by sku. -/
def lineItems : Model :=
  { name := "line_items", table := some "line_items", primaryKey := "item_id",
    dimensions := [{ name := "sku" }] }

set_option maxRecDepth 4000 in
/-- A filter on the line items makes their sku a dimension of the rows, and so a column of the
    distinct rows of the orders: an order with items of both skus is kept once for each, and its
    revenue is summed twice. -/
theorem filterDimension_keys_distinct_rows :
    ((QueryContext.resolve { models := [itemsOrders, lineItems] }
        { metrics := ["orders.revenue"], dimensions := ["orders.status"],
          filters := ["line_items.sku IN ('a', 'b')"] } .duckdb "2024-06-30").toOption.bind
      fun ctx => (ctx.buildQuery.map (·.render .duckdb)).toOption) =
      some "WITH \"orders_cte\" AS (\nSELECT\n  order_id AS \"order_id\",\n  status AS \"status\",\n  amount AS \"revenue_raw\"\nFROM orders AS \"t\"\n),\n\"line_items_cte\" AS (\nSELECT\n  item_id AS \"item_id\",\n  order_id AS \"order_id\",\n  sku AS \"sku\"\nFROM line_items AS \"t\"\n)\nSELECT\n  \"deduped\".\"status\" AS \"status\",\n  SUM(\"deduped\".\"revenue_raw\") AS \"revenue\"\nFROM (\nSELECT DISTINCT\n  \"orders_cte\".\"order_id\" AS \"order_id\",\n  \"orders_cte\".\"status\" AS \"status\",\n  \"line_items_cte\".\"sku\" AS \"sku\",\n  \"orders_cte\".\"revenue_raw\" AS \"revenue_raw\"\nFROM \"orders_cte\"\nINNER JOIN \"line_items_cte\" ON \"orders_cte\".\"order_id\" = \"line_items_cte\".\"order_id\"\nWHERE \"line_items_cte\".\"sku\" IN ('a', 'b')\n) AS \"deduped\"\nGROUP BY \"deduped\".\"status\"" :=
  Option.eq_some_of_chars rfl (by decide +kernel)

end MetricLayer
