import MetricLayer.Proofs.Compile.Explain
import MetricLayer.Proofs.Sql.Conjunction
/-!
# How a query's conditions are combined

Conditions added to a query one after the other are joined with `AND`, each as it is:
`Query.addFilter` and `Query.addHaving` nest them to the left (`Sql.joinAnd`), and the clause
renders as the conditions' texts joined by ` AND ` (`Sql.render_foldl_joinAnd`). Read with
parentheses (`Sql.holdsText`), such a clause holds exactly when every condition does, provided
each binds at least as tightly as `AND` (`Sql.holds_foldl_joinAnd`).

On the rows, every condition written by a user, a filter (`QueryContext.renderFilter`) or a
segment (`QueryContext.modelRows`), becomes one through `predicate`, which trims it and puts it
between parentheses when its upper-cased text contains ` OR ` with a space on either side. A
condition that leaves no literal open and pairs its parentheses then binds as a conjunct and
means what it meant (`holdsText_predicate`) when it has no `OR` outside parentheses or has one
that test sees (`Sql.Conjoinable`); an `OR` next to a line break, a tab or a parenthesis is not
seen. On a rollup, filters become conditions as they are written, their references rewritten to
the rollup's columns, and none is put between parentheses (`Rollup.rollupQuery_where`): there the
`WHERE` holds when each filter does only for filters that have no `OR` outside parentheses.
`conditions_combine_by_conjunction` gathers the three clauses.

`rollup_filters_joined_without_parentheses` shows an `OR` lost on both paths of one model.
-/

namespace MetricLayer

open MetricLayer.Sql MetricLayer.Text

-- ============================================================================
-- Conditions joined with AND
-- ============================================================================

/-- `c` joined with `AND` to the condition there is, if any: how a query adds a condition to its
    `WHERE` and to its `HAVING`. -/
def Sql.joinAnd (acc : Option Sql.Expr) (c : Sql.Expr) : Option Sql.Expr :=
  some (match acc with | some e => e.and c | none => c)

theorem Sql.Expr.render_and (d : Dialect) (l r : Sql.Expr) :
    (l.and r).render d = l.render d ++ " AND " ++ r.render d := by
  simp [Sql.Expr.and, Sql.Expr.render, BinOp.text, String.append_assoc]

theorem Sql.Query.filter_foldl_addFilter (cs : List Sql.Expr) (q : Query) :
    (cs.foldl Query.addFilter q).filter = cs.foldl joinAnd q.filter := by
  induction cs generalizing q with
  | nil => rfl
  | cons c cs ih => rw [List.foldl_cons, ih]; rfl

theorem Sql.Query.having_foldl_addHaving (cs : List Sql.Expr) (q : Query) :
    (cs.foldl Query.addHaving q).having = cs.foldl joinAnd q.having := by
  induction cs generalizing q with
  | nil => rfl
  | cons c cs ih => rw [List.foldl_cons, ih]; rfl

/-- Conditions joined to one that is there already follow it, joined by ` AND `, in order. -/
theorem Sql.render_foldl_joinAnd_some (d : Dialect) (cs : List Sql.Expr) :
    ∀ e : Sql.Expr, (cs.foldl joinAnd (some e)).map (·.render d) =
      some (" AND ".intercalate ((e :: cs).map (·.render d))) := by
  induction cs with
  | nil => intro e; simp
  | cons c cs ih =>
    intro e
    rw [List.foldl_cons, show joinAnd (some e) c = some (e.and c) from rfl, ih]
    simp [Sql.Expr.render_and, String.append_assoc]

/-- Conditions joined from none render as their texts joined by ` AND `. -/
theorem Sql.render_foldl_joinAnd (d : Dialect) (cs : List Sql.Expr) :
    (cs.foldl joinAnd none).map (·.render d) =
      if cs = [] then none else some (" AND ".intercalate (cs.map (·.render d))) := by
  cases cs with
  | nil => rfl
  | cons c cs =>
    rw [List.foldl_cons, show joinAnd none c = some c from rfl, render_foldl_joinAnd_some]
    simp

/-- The `WHERE` clause of conditions added to a query without one renders as their texts joined
    by ` AND `. -/
theorem Sql.Query.render_filter_foldl (d : Dialect) (cs : List Sql.Expr) {q : Query}
    (h : q.filter = none) :
    (cs.foldl Query.addFilter q).filter.map (·.render d) =
      if cs = [] then none else some (" AND ".intercalate (cs.map (·.render d))) := by
  rw [Query.filter_foldl_addFilter, h, render_foldl_joinAnd]

/-- A clause that renders as texts joined by ` AND `, each binding as a conjunct, holds exactly
    when every text does. -/
theorem Sql.holds_of_render_and {α : Type} (I : List (List Char) → Bool) (d : Dialect)
    {c : Option Sql.Expr} {xs : List α} {f : α → String}
    (h_render : c.map (·.render d) =
      if xs = [] then none else some (" AND ".intercalate (xs.map f)))
    (h : ∀ x ∈ xs, ConjunctiveText (f x)) :
    c.map (fun e => holdsText I (e.render d)) =
      if xs = [] then none else some (xs.all fun x => holdsText I (f x)) := by
  have h_read : c.map (fun e => holdsText I (e.render d)) = (c.map (·.render d)).map (holdsText I) := by
    rw [Option.map_map]
    rfl
  rw [h_read, h_render]
  split
  · rfl
  · next h_ne =>
    have h_texts : ∀ t ∈ xs.map f, ConjunctiveText t := by
      intro t h_t
      obtain ⟨x, h_x, rfl⟩ := List.mem_map.mp h_t
      exact h x h_x
    rw [Option.map_some, holdsText_intercalate_and I (by simpa using h_ne) h_texts, List.all_map]
    rfl

/-- Conditions joined from none, each binding as a conjunct, hold exactly when every one of them
    does. -/
theorem Sql.holds_foldl_joinAnd (I : List (List Char) → Bool) (d : Dialect) {cs : List Sql.Expr}
    (h : ∀ c ∈ cs, ConjunctiveText (c.render d)) :
    (cs.foldl joinAnd none).map (fun e => holdsText I (e.render d)) =
      if cs = [] then none else some (cs.all fun c => holdsText I (c.render d)) :=
  holds_of_render_and I d (render_foldl_joinAnd d cs) h

-- ============================================================================
-- Conditions written by users
-- ============================================================================

/-- A condition written by a user that `predicate` makes bind as a conjunct: it leaves no literal
    open and pairs its parentheses, and either has no `OR` outside them or is seen by the
    ` OR ` test and put between parentheses. -/
structure Sql.Conjoinable (s : String) : Prop where
  closed : Closed s.toList
  balanced : Balanced (tokens s.toList)
  or_seen : (∀ p ∈ nest 0 (tokens s.toList), isTopKeyword "OR" p = false) ∨
    containsText ((trimBlank s).map Char.toUpper) " OR " = true

instance (s : String) : Decidable (Conjoinable s) :=
  decidable_of_iff (Closed s.toList ∧ Balanced (tokens s.toList) ∧
      ((∀ p ∈ nest 0 (tokens s.toList), isTopKeyword "OR" p = false) ∨
        containsText ((trimBlank s).map Char.toUpper) " OR " = true))
    ⟨fun h => ⟨h.1, h.2.1, h.2.2⟩, fun h => ⟨h.closed, h.balanced, h.or_seen⟩⟩

theorem predicate_render (s : String) (d : Dialect) :
    (predicate s).render d =
      if containsText ((trimBlank s).map Char.toUpper) " OR " then "(" ++ trimBlank s ++ ")"
      else trimBlank s := by
  by_cases h_or : containsText ((trimBlank s).map Char.toUpper) " OR " = true
  · simp [predicate, h_or, Sql.Expr.render]
  · simp [predicate, h_or, Sql.Expr.render]

/-- What `predicate` makes of a condition written by a user binds as a conjunct and means what
    the condition meant. -/
theorem predicate_conjunctive (I : List (List Char) → Bool) (d : Dialect) {s : String}
    (h : Conjoinable s) :
    ConjunctiveText ((predicate s).render d) ∧ holdsText I ((predicate s).render d) = holdsText I s := by
  obtain ⟨h_closed, h_tokens⟩ := tokens_trimBlank h.closed
  have h_balanced : Balanced (tokens (trimBlank s).toList) := by
    rw [h_tokens]
    exact h.balanced
  have h_same : holdsText I (trimBlank s) = holdsText I s := by
    simp only [holdsText, h_tokens]
  rw [predicate_render]
  split
  · exact ⟨ConjunctiveText.paren h_closed h_balanced,
      (holdsText_paren I h_closed h_balanced).trans h_same⟩
  · next h_unseen =>
    -- the test saw no ` OR `, so none stands outside parentheses
    have h_no_or : ∀ p ∈ nest 0 (tokens (trimBlank s).toList), isTopKeyword "OR" p = false := by
      rw [h_tokens]
      exact h.or_seen.resolve_right h_unseen
    exact ⟨⟨h_closed, ⟨h_balanced, h_no_or⟩⟩, h_same⟩

theorem holdsText_predicate (I : List (List Char) → Bool) (d : Dialect) {s : String}
    (h : Conjoinable s) : holdsText I ((predicate s).render d) = holdsText I s :=
  (predicate_conjunctive I d h).2

theorem all_map_predicate (I : List (List Char) → Bool) (d : Dialect) {texts : List String}
    (h : ∀ s ∈ texts, Conjoinable s) :
    ((texts.map predicate).all fun c => holdsText I (c.render d)) = texts.all (holdsText I) := by
  induction texts with
  | nil => rfl
  | cons s texts ih =>
    rw [List.map_cons, List.all_cons, List.all_cons, holdsText_predicate I d (h s List.mem_cons_self),
      ih fun s' h_s' => h s' (List.mem_cons_of_mem _ h_s')]

/-- Conditions written by users, made conditions by `predicate` and joined from none, hold
    exactly when every one of them does. -/
theorem holds_foldl_predicate (I : List (List Char) → Bool) (d : Dialect) {texts : List String}
    (h : ∀ s ∈ texts, Conjoinable s) :
    ((texts.map predicate).foldl joinAnd none).map (fun e => holdsText I (e.render d)) =
      if texts = [] then none else some (texts.all (holdsText I)) := by
  have h_each : ∀ c ∈ texts.map predicate, ConjunctiveText (c.render d) := by
    intro c h_c
    obtain ⟨s, h_s, rfl⟩ := List.mem_map.mp h_c
    exact (predicate_conjunctive I d (h s h_s)).1
  rw [holds_foldl_joinAnd I d h_each, all_map_predicate I d h]
  simp

/-- Every condition a filter is rendered to is one `predicate` made. -/
theorem QueryContext.renderFilter_predicate (ctx : QueryContext) (f : QueryFilter)
    (compiler : Option MetricCompiler) (locate : ResolvedDimension → Except Error Sql.Expr) :
    (ctx.renderFilter f compiler locate).Ensures fun c => ∃ s, c = predicate s := by
  unfold QueryContext.renderFilter
  exact CompileM.Ensures.bind _ (CompileM.Ensures.trivial _) fun _ _ =>
    CompileM.Ensures.pure ⟨_, rfl⟩

/-- A model's rows are restricted by the conditions of the model's segments, in order, each made
    a condition by `predicate`. -/
theorem QueryContext.modelRows_filter {ctx : QueryContext} {model : Model} {keys : List String}
    {q : Query} (h : ctx.modelRows model keys = .ok q) :
    q.filter = (((ctx.segments.filter (·.model == model.name)).map (·.sql)).map predicate).foldl
      joinAnd none := by
  have h_filters : ∀ q₀ : Query, q₀.filter = none →
      (((ctx.segments.filter (·.model == model.name)).foldl
        (fun q s => q.addFilter (predicate s.sql)) q₀).filter =
        (((ctx.segments.filter (·.model == model.name)).map (·.sql)).map predicate).foldl
          joinAnd none) := by
    intro q₀ h₀
    rw [← h₀, ← Query.filter_foldl_addFilter, List.map_map, List.foldl_map]
    rfl
  unfold QueryContext.modelRows at h
  split at h
  · simp only [pure_bind] at h
    rw [← Except.ok.inj h]
    exact h_filters _ rfl
  · obtain ⟨text, -, h⟩ := Except.bind_eq_ok.mp h
    simp only [pure_bind] at h
    rw [← Except.ok.inj h]
    exact h_filters _ rfl
  · simp at h

-- ============================================================================
-- The conditions of a rollup query
-- ============================================================================

/-- The `WHERE` clause of a rollup query is its filters as they are written, their references
    rewritten to the rollup's columns, joined by ` AND `: none is put between parentheses. -/
theorem Rollup.rollupQuery_where {model : Model} {p : PreAggregation} {r : Rollup.RoutingRequest}
    {table : String} {d : Dialect} {q : Query} (h : Rollup.rollupQuery model p r table d = .ok q) :
    q.filter.map (·.render d) = if r.filters = [] then none
      else some (" AND ".intercalate (r.filters.map fun f => Rollup.rollupFilter model p f d)) := by
  obtain ⟨items, groupBy, q', -, rfl, rfl⟩ := Rollup.rollupQuery_shape h
  -- each filter is one condition, its text as rewritten, added to the bare table
  have h_filters : (r.filters.foldl (fun (q : Query) f => q.addFilter (.raw (Rollup.rollupFilter model p f d)))
      ({ source := some (.rawTable table, none), select := items } : Query)).filter.map (·.render d) =
        if r.filters = [] then none
        else some (" AND ".intercalate (r.filters.map fun f => Rollup.rollupFilter model p f d)) := by
    rw [← List.foldl_map (f := fun f => Sql.Expr.raw (Rollup.rollupFilter model p f d)),
      Query.render_filter_foldl d _ rfl]
    simp [Function.comp_def, Sql.Expr.render]
  split
  · exact h_filters
  · exact h_filters

/-- The `WHERE` clause of a rollup query holds exactly when each rewritten filter does, for
    filters that bind as conjuncts. -/
theorem Rollup.rollupQuery_where_holds (I : List (List Char) → Bool) {model : Model}
    {p : PreAggregation} {r : Rollup.RoutingRequest} {table : String} {d : Dialect} {q : Query}
    (h : Rollup.rollupQuery model p r table d = .ok q)
    (h_filters : ∀ f ∈ r.filters, ConjunctiveText (Rollup.rollupFilter model p f d)) :
    q.filter.map (fun e => holdsText I (e.render d)) = if r.filters = [] then none
      else some (r.filters.all fun f => holdsText I (Rollup.rollupFilter model p f d)) :=
  holds_of_render_and I d (Rollup.rollupQuery_where h) h_filters

-- ============================================================================
-- Conditions combine by conjunction
-- ============================================================================

theorem Except.exists_ok_of_isSome {ε α : Type} {x : Except ε α} (h : x.toOption.isSome) :
    ∃ a, x = .ok a := by
  cases x with
  | error e => cases h
  | ok a => exact ⟨a, rfl⟩

/-- Conditions combine by conjunction. On the rows, the `WHERE` of a model's rows holds exactly
    when each of the model's segments does, and a `WHERE` or `HAVING` built from conditions
    written by users through `predicate`, as `renderFilter` renders every filter, holds exactly
    when each condition does: for conditions that leave no literal open, pair their parentheses
    and have no `OR` outside them unless `predicate`'s ` OR ` test sees one. On a rollup, the
    `WHERE` holds exactly when each rewritten filter does, for filters that have no `OR` outside
    parentheses. -/
theorem conditions_combine_by_conjunction (I : List (List Char) → Bool)
    {ctx : QueryContext} {model : Model} {keys : List String} {rows : Query}
    (h_rows : ctx.modelRows model keys = .ok rows)
    (h_segments : ∀ s ∈ ctx.segments, s.model = model.name → Conjoinable s.sql)
    {texts : List String} (h_texts : ∀ s ∈ texts, Conjoinable s) (d : Dialect)
    {rollupModel : Model} {p : PreAggregation} {r : Rollup.RoutingRequest} {table : String}
    {q : Query} (h_rollup : Rollup.rollupQuery rollupModel p r table d = .ok q)
    (h_filters : ∀ f ∈ r.filters, ConjunctiveText (Rollup.rollupFilter rollupModel p f d)) :
    rows.filter.map (fun e => holdsText I (e.render ctx.dialect)) =
        (if ctx.segments.filter (·.model == model.name) = [] then none
        else some ((ctx.segments.filter (·.model == model.name)).all fun s => holdsText I s.sql)) ∧
      (∀ q₀ : Query, q₀.filter = none →
        (texts.foldl (fun q s => q.addFilter (predicate s)) q₀).filter.map
          (fun e => holdsText I (e.render d)) =
        if texts = [] then none else some (texts.all (holdsText I))) ∧
      (∀ q₀ : Query, q₀.having = none →
        (texts.foldl (fun q s => q.addHaving (predicate s)) q₀).having.map
          (fun e => holdsText I (e.render d)) =
        if texts = [] then none else some (texts.all (holdsText I))) ∧
      q.filter.map (fun e => holdsText I (e.render d)) = if r.filters = [] then none
        else some (r.filters.all fun f => holdsText I (Rollup.rollupFilter rollupModel p f d)) := by
  have h_own : ∀ s ∈ (ctx.segments.filter (·.model == model.name)).map (·.sql), Conjoinable s := by
    intro s h_s
    obtain ⟨seg, h_seg, rfl⟩ := List.mem_map.mp h_s
    obtain ⟨h_mem, h_model⟩ := List.mem_filter.mp h_seg
    exact h_segments seg h_mem (beq_iff_eq.mp h_model)
  refine ⟨?_, fun q₀ h₀ => ?_, fun q₀ h₀ => ?_, Rollup.rollupQuery_where_holds I h_rollup h_filters⟩
  · rw [QueryContext.modelRows_filter h_rows, holds_foldl_predicate I ctx.dialect h_own]
    simp [List.all_map, Function.comp_def]
  · rw [← List.foldl_map, Query.filter_foldl_addFilter, h₀, holds_foldl_predicate I d h_texts]
  · rw [← List.foldl_map, Query.having_foldl_addHaving, h₀, holds_foldl_predicate I d h_texts]

-- ============================================================================
-- Revenue of two statuses but one, from the rollup and from the rows
-- ============================================================================

/-- The revenue of the orders with status `a` or `b`, but not `c`, by status, answered from the
    rollup of revenue by status, the `OR` written between parentheses. -/
def twoStatusesRouting : Rollup.RoutingRequest :=
  { metrics := ["revenue"], dimensions := [("status", none)],
    filters := ["(orders.status = 'a' OR orders.status = 'b')", "orders.status <> 'c'"],
    segments := [] }

/-- The orders' rows restricted by a segment to the orders of status `a` or `b`. -/
def twoStatusesContext : QueryContext :=
  { graph := rolledGraph, dialect := .duckdb, ungrouped := false,
    params := ⟨[], [], "2024-06-30"⟩, segments := [⟨"orders", "status = 'a' OR status = 'b'"⟩] }

theorem twoStatuses_combine_by_conjunction :
    ∃ rows q, twoStatusesContext.modelRows rolledOrders [] = .ok rows ∧
      Rollup.rollupQuery rolledOrders
        { name := "by_status", measures := ["revenue"], dimensions := ["status"] }
        twoStatusesRouting "\"orders_preagg_by_status\"" .duckdb = .ok q ∧
      (rows.filter.map (fun e => holdsText (fun _ => true) (e.render twoStatusesContext.dialect)) =
          (if twoStatusesContext.segments.filter (·.model == rolledOrders.name) = [] then none
          else some ((twoStatusesContext.segments.filter (·.model == rolledOrders.name)).all
            fun s => holdsText (fun _ => true) s.sql)) ∧
        (∀ q₀ : Query, q₀.filter = none →
          (["status = 'a' OR status = 'b'", "status <> 'c'"].foldl
              (fun q s => q.addFilter (predicate s)) q₀).filter.map
            (fun e => holdsText (fun _ => true) (e.render .duckdb)) =
          if ["status = 'a' OR status = 'b'", "status <> 'c'"] = [] then none
          else some (["status = 'a' OR status = 'b'", "status <> 'c'"].all
            (holdsText (fun _ => true)))) ∧
        (∀ q₀ : Query, q₀.having = none →
          (["status = 'a' OR status = 'b'", "status <> 'c'"].foldl
              (fun q s => q.addHaving (predicate s)) q₀).having.map
            (fun e => holdsText (fun _ => true) (e.render .duckdb)) =
          if ["status = 'a' OR status = 'b'", "status <> 'c'"] = [] then none
          else some (["status = 'a' OR status = 'b'", "status <> 'c'"].all
            (holdsText (fun _ => true)))) ∧
        q.filter.map (fun e => holdsText (fun _ => true) (e.render .duckdb)) =
          if twoStatusesRouting.filters = [] then none
          else some (twoStatusesRouting.filters.all fun f => holdsText (fun _ => true)
            (Rollup.rollupFilter rolledOrders
              { name := "by_status", measures := ["revenue"], dimensions := ["status"] } f .duckdb))) := by
  obtain ⟨rows, h_rows⟩ := Except.exists_ok_of_isSome
    (x := twoStatusesContext.modelRows rolledOrders []) (by decide +kernel)
  obtain ⟨q, h_q⟩ := Except.exists_ok_of_isSome
    (x := Rollup.rollupQuery rolledOrders
      { name := "by_status", measures := ["revenue"], dimensions := ["status"] }
      twoStatusesRouting "\"orders_preagg_by_status\"" .duckdb) (by decide +kernel)
  have h_segments : ∀ s ∈ twoStatusesContext.segments, s.model = rolledOrders.name →
      Conjoinable s.sql := by decide +kernel
  have h_texts : ∀ s ∈ ["status = 'a' OR status = 'b'", "status <> 'c'"], Conjoinable s := by
    decide +kernel
  have h_filters : ∀ f ∈ twoStatusesRouting.filters, ConjunctiveText (Rollup.rollupFilter
      rolledOrders { name := "by_status", measures := ["revenue"], dimensions := ["status"] }
      f .duckdb) := by
    decide +kernel
  exact ⟨rows, q, h_rows, h_q, conditions_combine_by_conjunction (fun _ => true) h_rows h_segments
    h_texts .duckdb h_q h_filters⟩

/-- Revenue by status of the orders with status `a` or `b`, but not `c`. -/
def twoStatuses (usePreaggregations : Bool) (either : String) : QueryRequest :=
  { metrics := ["orders.revenue"], dimensions := ["orders.status"],
    filters := [either, "orders.status <> 'c'"], usePreaggregations := some usePreaggregations }

set_option maxRecDepth 4000 in
/-- From the rollup, the two filters are joined as they are written, so the `OR` of the first
    binds looser than the `AND` that joins them; from the rows, an `OR` that follows a line break
    is not seen, with the same effect. -/
theorem rollup_filters_joined_without_parentheses :
    (({} : Graph).addModel rolledOrders >>= fun g => g.generate Settings.default
        (twoStatuses true "orders.status = 'a' OR orders.status = 'b'") "2024-06-30").toOption =
      some "SELECT\n  \"status\" AS \"status\",\n  SUM(\"revenue_raw\") AS \"revenue\"\nFROM \"orders_preagg_by_status\"\nWHERE \"status\" = 'a' OR \"status\" = 'b' AND \"status\" <> 'c'\nGROUP BY \"status\"" ∧
    (({} : Graph).addModel rolledOrders >>= fun g => g.generate Settings.default
        (twoStatuses false "orders.status = 'a'\nOR orders.status = 'b'") "2024-06-30").toOption =
      some "WITH \"orders_cte\" AS (\nSELECT\n  order_id AS \"order_id\",\n  status AS \"status\",\n  amount AS \"revenue_raw\"\nFROM orders AS \"t\"\n)\nSELECT\n  \"orders_cte\".\"status\" AS \"status\",\n  SUM(\"orders_cte\".\"revenue_raw\") AS \"revenue\"\nFROM \"orders_cte\"\nWHERE \"orders_cte\".\"status\" = 'a'\nOR \"orders_cte\".\"status\" = 'b' AND \"orders_cte\".\"status\" <> 'c'\nGROUP BY \"orders_cte\".\"status\"" :=
  ⟨Option.eq_some_of_chars rfl (by decide +kernel), Option.eq_some_of_chars rfl (by decide +kernel)⟩

end MetricLayer
