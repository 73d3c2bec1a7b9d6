import MetricLayer.Rollup.Query
import MetricLayer.Proofs.Outcome
import MetricLayer.Proofs.Sql.Lineage
/-!
# The router selects only rollups the rewriter can serve

`Rollup.route` selects a rollup only when all five of its checks pass. What they establish is
what `Rollup.rollupQuery` needs to answer from the rollup's table alone: a dimension requested
without a grain is stored, a truncated one is the rollup's time dimension and the rollup has a
grain, every requested metric is stored and can be aggregated again (an average with a stored
count), and every `model.field` reference of a filter names a stored column.

`ReadsStored p d e` says that `e` reads only what the rollup `p` stores: its dimensions, its time
column (also truncated again to a coarser grain), and the `<measure>_raw` column of each of its
measures, combined by calls, operators and literals.

Main statement: `Rollup.route_selects_servable`.
-/

namespace MetricLayer.Rollup

open MetricLayer.Sql MetricLayer.Text

/-- The expressions that read only what the rollup `p` stores, written in the dialect `d`. -/
inductive ReadsStored (p : PreAggregation) (d : Dialect) : Sql.Expr → Prop where
  /-- A stored dimension. -/
  | dimension {c : String} : c ∈ p.dimensions → ReadsStored p d (col c)
  /-- The stored time column. -/
  | time {c : String} : p.timeColumn = some c → ReadsStored p d (col c)
  /-- The stored time column truncated again to a grain. -/
  | retruncated {c : String} (g : Granularity) : p.timeColumn = some c →
      ReadsStored p d (.raw (d.dateTrunc g.name (d.quoteIdent c)))
  /-- The stored partial aggregate of a measure. -/
  | measure {x : String} : x ∈ p.measures → ReadsStored p d (col (rawColumn x))
  | lit (l : Literal) : ReadsStored p d (.lit l)
  | call {f : String} {args : List Sql.Expr} {distinct : Bool} :
      (∀ a ∈ args, ReadsStored p d a) → ReadsStored p d (.call f args distinct)
  | binary {l r : Sql.Expr} {op : BinOp} :
      ReadsStored p d l → ReadsStored p d r → ReadsStored p d (.binary l op r)

variable {model : Model} {p : PreAggregation} {r : RoutingRequest} {d : Dialect}

-- ============================================================================
-- What each check establishes
-- ============================================================================

/-- Every dimension requested without a grain is stored. -/
theorem dimensionCoverage_passed (h : (dimensionCoverage p r).passed) :
    ∀ x ∈ r.plainDimensions, x ∈ p.dimensions := by
  unfold dimensionCoverage at h
  dsimp only at h
  split at h
  · rename_i h_none
    intro x h_x
    have h_kept := List.filter_eq_nil_iff.mp (List.isEmpty_iff.mp h_none) x h_x
    simpa using h_kept
  · exact absurd h Bool.false_ne_true

/-- A rollup that serves a truncated dimension has a grain. -/
theorem granularityCompatibility_passed (h : (granularityCompatibility p r).passed) :
    ∀ x ∈ r.dimensions, x.2.isSome → p.granularity.isSome := by
  intro x h_x h_grain
  obtain ⟨g, h_g⟩ := Option.isSome_iff_exists.mp h_grain
  have h_requested : g ∈ r.dimensions.filterMap (·.2) := List.mem_filterMap.mpr ⟨x, h_x, h_g⟩
  unfold granularityCompatibility at h
  dsimp only at h
  split at h
  · rename_i h_grains
    rw [h_grains] at h_requested
    exact absurd h_requested List.not_mem_nil
  · exact absurd h Bool.false_ne_true
  · rename_i stored h_stored
    rw [h_stored]
    rfl

/-- Every requested metric is a metric of the model, stored, and can be aggregated again. -/
theorem metricCoverage_passed (h : (metricCoverage model p r).passed) :
    ∀ x ∈ r.metrics, ∃ m, model.metric? x = some m ∧ x ∈ p.measures ∧ derivable model m p = .ok () := by
  unfold metricCoverage at h
  dsimp only at h
  split at h
  · exact absurd h Bool.false_ne_true
  · rename_i h_none
    intro x h_x
    have h_fine := List.findSome?_eq_none_iff.mp h_none x h_x
    -- the first problem the check looks for is none of the three it can find
    cases h_m : model.metric? x with
    | none => simp [h_m] at h_fine
    | some m =>
      rw [h_m] at h_fine
      dsimp only at h_fine
      by_cases h_stored : p.measures.contains x
      · rw [h_stored] at h_fine
        cases h_der : derivable model m p with
        | error detail => simp [h_der] at h_fine
        | ok u => exact ⟨m, rfl, List.elem_iff.mp h_stored, h_der⟩
      · rw [Bool.not_eq_true] at h_stored
        rw [h_stored] at h_fine
        exact absurd h_fine (by simp)

/-- Every `model.field` reference of a filter reads a column the rollup stores. -/
theorem filterCompatibility_passed (h : (filterCompatibility model p r).passed) :
    ∀ f ∈ r.filters, ∀ t ∈ RefToken.scan f, ∀ owner field, splitOnce t.name "." = some (owner, field) →
      storedFilterField model p owner field = .ok () := by
  intro f h_f t h_t owner field h_split
  unfold filterCompatibility at h
  dsimp only at h
  split at h
  · exact absurd h Bool.false_ne_true
  · split at h
    · rename_i h_empty
      rw [List.isEmpty_iff.mp h_empty] at h_f
      exact absurd h_f List.not_mem_nil
    · split at h
      · exact absurd h Bool.false_ne_true
      · rename_i h_none
        have h_fine := List.findSome?_eq_none_iff.mp
          (List.findSome?_eq_none_iff.mp h_none f h_f) t h_t
        rw [h_split] at h_fine
        dsimp only at h_fine
        cases h_ok : storedFilterField model p owner field with
        | error detail => simp [h_ok] at h_fine
        | ok u => rfl

/-- Every truncated dimension is the rollup's time dimension. -/
theorem timeGrainAlignment_passed (h : (timeGrainAlignment p r).passed) :
    ∀ x ∈ r.dimensions, x.2.isSome → p.timeDimension = some x.1 := by
  intro x h_x h_grain
  unfold timeGrainAlignment at h
  dsimp only at h
  split at h
  · exact absurd h Bool.false_ne_true
  · rename_i h_none
    have h_fine := List.findSome?_eq_none_iff.mp h_none x h_x
    obtain ⟨dim, grain⟩ := x
    dsimp only at h_fine h_grain ⊢
    split at h_fine
    · rename_i h_aligned
      simp only [Bool.or_eq_true, Option.isNone_iff_eq_none, beq_iff_eq] at h_aligned
      rcases h_aligned with h_no | h_td
      · simp [h_no] at h_grain
      · exact h_td
    · exact absurd h_fine (by simp)

-- ============================================================================
-- The selected rollup passed every check
-- ============================================================================

/-- The best match is one of the candidates, with the score it was selected for. -/
theorem best_some {cs : List Candidate} {i : Nat} {s : Int} (h : best cs = some (i, s)) :
    ∃ c, cs[i]? = some c ∧ c.score = some s := by
  unfold best at h
  -- every value the fold carries names a candidate by its index, with that candidate's score
  refine foldl_invariant (fun (acc : Option (Nat × Int)) => ∀ i s, acc = some (i, s) →
      ∃ c, cs[i]? = some c ∧ c.score = some s) ?_ (by simp) i s h
  rintro acc ⟨c, j⟩ h_mem h_acc i s h_step
  have h_c : cs[j]? = some c := List.mem_zipIdx_iff_getElem?.mp h_mem
  dsimp only at h_step
  split at h_step
  · rename_i s' top h_score
    split at h_step
    · exact h_acc i s h_step
    · cases h_step
      exact ⟨c, h_c, h_score⟩
  · rename_i s' h_score
    cases h_step
    exact ⟨c, h_c, h_score⟩
  · exact h_acc i s h_step

/-- The rollup the router selects is one of the model's, and passed every check. -/
theorem route_selected_checks {i : Nat} (h : (route model r).selected = some i) :
    ∃ p, model.preAggregations[i]? = some p ∧ ∀ k ∈ checks model p r, k.passed := by
  unfold route at h
  split at h
  · simp [Decision.raw] at h
  · dsimp only at h
    split at h
    · rename_i i' s h_best
      obtain rfl : i' = i := by simpa using h
      obtain ⟨c, h_c, h_score⟩ := best_some h_best
      rw [List.getElem?_map] at h_c
      obtain ⟨p, h_p, rfl⟩ := Option.map_eq_some_iff.mp h_c
      -- a candidate has a score only when it matched, that is passed every check
      refine ⟨p, h_p, List.all_eq_true.mp ?_⟩
      dsimp only at h_score
      split at h_score
      · assumption
      · exact absurd h_score (by simp)
    · simp at h

-- ============================================================================
-- The parts of a rollup query read stored columns
-- ============================================================================

/-- The time column at any grain, when the rollup has a time dimension and a grain. -/
theorem timeColumn_reads (g : Granularity) (h_td : p.timeDimension.isSome)
    (h_grain : p.granularity.isSome) : ∃ e, timeColumn p g d = .ok e ∧ ReadsStored p d e := by
  obtain ⟨td, h_td⟩ := Option.isSome_iff_exists.mp h_td
  obtain ⟨stored, h_stored⟩ := Option.isSome_iff_exists.mp h_grain
  have h_col : p.timeColumn = some (td ++ "_" ++ stored.name) := by
    unfold PreAggregation.timeColumn
    rw [h_td, h_stored]
  unfold timeColumn
  rw [h_col, h_stored]
  by_cases h_eq : g == stored
  · exact ⟨_, by simp only [h_eq, if_true], .time h_col⟩
  · exact ⟨_, by simp only [h_eq, if_false, Bool.false_eq_true], .retruncated g h_col⟩

/-- The count an average is weighed with is a stored measure. -/
theorem countMeasure_mem {m : Metric} {c : String} (h : countMeasure model m p = some c) :
    c ∈ p.measures := by
  unfold countMeasure at h
  dsimp only at h
  simp only [Option.orElse_eq_orElse, Option.orElse_eq_or, Option.or_eq_some_iff] at h
  -- each of the four ways of finding the count looks among the stored measures
  rcases h with h | ⟨-, h | ⟨-, h | ⟨-, h⟩⟩⟩
  · split at h
    · exact List.mem_of_find?_eq_some h
    · cases h
  · split at h
    · exact List.mem_of_find?_eq_some h
    · cases h
  · exact List.mem_of_find?_eq_some h
  · exact List.mem_of_find?_eq_some h

theorem fillNulls_reads (m : Metric) {e : Sql.Expr} (h : ReadsStored p d e) :
    ReadsStored p d (m.fillNulls e) := by
  unfold Metric.fillNulls
  cases m.fillNullsWith with
  | none => exact h
  | some v =>
    refine .call fun a h_a => ?_
    simp only [List.mem_cons, List.not_mem_nil, or_false] at h_a
    rcases h_a with rfl | rfl
    · exact h
    · cases v <;> exact .lit _

/-- A stored measure that can be aggregated again is aggregated from stored columns: its own
    partial aggregates, and for an average also those of its count. -/
theorem reaggregate_reads {m : Metric} (h_der : derivable model m p = .ok ())
    (h_stored : m.name ∈ p.measures) : ∃ e, reaggregate model m p = .ok e ∧ ReadsStored p d e := by
  have h_own : ReadsStored p d (fn "SUM" [col (rawColumn m.name)]) :=
    .call fun a h_a => by
      rw [List.mem_singleton.mp h_a]
      exact .measure h_stored
  unfold derivable at h_der
  split at h_der
  · cases h_der
  · unfold reaggregate
    cases h_agg : m.agg with
    | none => simp [h_agg] at h_der
    | some agg =>
      cases agg with
      | sum => exact ⟨_, rfl, h_own⟩
      | count => exact ⟨_, rfl, h_own⟩
      | min =>
        refine ⟨_, rfl, .call fun a h_a => ?_⟩
        rw [List.mem_singleton.mp h_a]
        exact .measure h_stored
      | max =>
        refine ⟨_, rfl, .call fun a h_a => ?_⟩
        rw [List.mem_singleton.mp h_a]
        exact .measure h_stored
      | avg =>
        -- the check found a stored count to weigh the average with
        rw [h_agg] at h_der
        dsimp only at h_der
        split at h_der
        · rename_i h_some
          obtain ⟨count, h_count⟩ := Option.isSome_iff_exists.mp h_some
          have h_count_reads : ReadsStored p d (fn "SUM" [col (rawColumn count)]) :=
            .call fun a h_a => by
              rw [List.mem_singleton.mp h_a]
              exact .measure (countMeasure_mem h_count)
          refine ⟨(fn "SUM" [col (rawColumn m.name)]).div
            (nullif (fn "SUM" [col (rawColumn count)]) (litInt 0)), by simp only [h_count],
            .binary h_own (.call fun a h_a => ?_)⟩
          simp only [List.mem_cons, List.not_mem_nil, or_false] at h_a
          rcases h_a with rfl | rfl
          · exact h_count_reads
          · exact .lit _
        · cases h_der
      | countDistinct => simp [h_agg] at h_der
      | median => simp [h_agg] at h_der

/-- A filter reference the router accepts is rewritten to a stored column. -/
theorem filterColumn?_reads {t : RefToken} {owner field : String}
    (h_split : splitOnce t.name "." = some (owner, field))
    (h_ok : storedFilterField model p owner field = .ok ()) :
    ∃ e, filterColumn? model p d t = some e ∧ ReadsStored p d e := by
  unfold storedFilterField at h_ok
  split at h_ok
  · cases h_ok
  · rename_i h_owner
    split at h_ok
    · cases h_ok
    · unfold filterColumn?
      rw [h_split]
      simp only [bind, Option.bind, h_owner, if_false, Bool.false_eq_true]
      cases h_sep : splitOnce field "__" with
      | some ng =>
        obtain ⟨n, g⟩ := ng
        simp only [h_sep] at h_ok ⊢
        by_cases h_time : p.timeDimension == some n
        · rw [if_pos h_time] at h_ok ⊢
          -- the router accepted the grain: one the rollup's own grain rolls up to
          cases h_q : Granularity.ofName? g with
          | none => simp [h_q] at h_ok
          | some q =>
            cases h_stored : p.granularity with
            | none => simp [h_q, h_stored] at h_ok
            | some stored =>
              obtain ⟨e, h_e, h_reads⟩ := timeColumn_reads (d := d) q
                (by rw [beq_iff_eq.mp h_time]; rfl) (by rw [h_stored]; rfl)
              exact ⟨e, by simp [h_e, Except.toOption], h_reads⟩
        · rw [if_neg h_time] at h_ok
          simp at h_ok
      | none =>
        simp only [h_sep] at h_ok ⊢
        by_cases h_time : p.timeDimension == some field
        · rw [if_pos h_time] at h_ok
          cases h_ok
        · rw [if_neg h_time] at h_ok ⊢
          split at h_ok
          · rename_i h_dim
            simp only [Option.isNone_none, Bool.true_and] at h_dim
            exact ⟨col field, rfl, .dimension (List.elem_iff.mp h_dim)⟩
          · cases h_ok

@[simp] theorem addFilter_groupBy (q : Query) (c : Sql.Expr) : (q.addFilter c).groupBy = q.groupBy := rfl

/-- Where the checks hold, the rollup query is built, and it selects and groups by stored
    columns only. -/
theorem rollupQuery_reads (table : String)
    (h_plain : ∀ x ∈ r.plainDimensions, x ∈ p.dimensions)
    (h_grain : ∀ x ∈ r.dimensions, x.2.isSome → p.granularity.isSome)
    (h_time : ∀ x ∈ r.dimensions, x.2.isSome → p.timeDimension = some x.1)
    (h_metrics : ∀ x ∈ r.metrics, ∃ m, model.metric? x = some m ∧ x ∈ p.measures ∧
      derivable model m p = .ok ()) :
    ∃ q, rollupQuery model p r table d = .ok q ∧
      (∀ s ∈ q.select, ReadsStored p d s.expr) ∧ ∀ e ∈ q.groupBy, ReadsStored p d e := by
  unfold rollupQuery
  -- the dimensions: each adds a stored column to the select list and to the grouping
  refine Except.bind_ok_of (fun (acc : Query × List Sql.Expr) =>
      (∀ s ∈ acc.1.select, ReadsStored p d s.expr) ∧ (∀ e ∈ acc.2, ReadsStored p d e) ∧
        acc.1.groupBy = []) _
    (foldlM_ok_of_step _ r.dimensions ?_ _ ⟨by simp, by simp, rfl⟩) ?_
  · rintro ⟨q, groupBy⟩ ⟨name, grain⟩ h_mem ⟨h_sel, h_gb, h_none⟩
    cases grain with
    | some g =>
      -- a truncated dimension is the time column, read at its grain
      obtain ⟨e, h_e, h_reads⟩ := timeColumn_reads (d := d) g
        (by rw [h_time _ h_mem rfl]; rfl) (h_grain _ h_mem rfl)
      exact ⟨({ q with select := q.select ++ [⟨e, some (name ++ "__" ++ g.name)⟩] }, groupBy ++ [e]),
        by simp only [h_e]; rfl, List.forall_mem_append.mpr ⟨h_sel, List.forall_mem_singleton.mpr h_reads⟩,
        List.forall_mem_append.mpr ⟨h_gb, List.forall_mem_singleton.mpr h_reads⟩, h_none⟩
    | none =>
      -- a plain dimension is a stored column
      have h_reads : ReadsStored p d (col name) :=
        .dimension (h_plain name (List.mem_map.mpr ⟨(name, none), List.mem_filter.mpr ⟨h_mem, rfl⟩, rfl⟩))
      exact ⟨({ q with select := q.select ++ [⟨col name, some name⟩] }, groupBy ++ [col name]),
        rfl, List.forall_mem_append.mpr ⟨h_sel, List.forall_mem_singleton.mpr h_reads⟩,
        List.forall_mem_append.mpr ⟨h_gb, List.forall_mem_singleton.mpr h_reads⟩, h_none⟩
  · rintro ⟨q₁, groupBy⟩ ⟨h_sel₁, h_gb₁, h_none₁⟩
    -- the metrics: each adds its stored measure, aggregated again
    refine Except.bind_ok_of (fun (q : Query) =>
        (∀ s ∈ q.select, ReadsStored p d s.expr) ∧ q.groupBy = []) _
      (foldlM_ok_of_step _ r.metrics ?_ _ ⟨h_sel₁, h_none₁⟩) ?_
    · intro q name h_mem ⟨h_sel, h_none⟩
      obtain ⟨m, h_m, h_stored, h_der⟩ := h_metrics name h_mem
      have h_name : m.name = name := by
        have := List.find?_some h_m
        simpa using this
      obtain ⟨e, h_e, h_reads⟩ := reaggregate_reads (d := d) h_der (h_name ▸ h_stored)
      exact ⟨{ q with select := q.select ++ [⟨m.fillNulls e, some name⟩] },
        by simp only [h_m, pure_bind, h_e]; rfl,
        List.forall_mem_append.mpr ⟨h_sel, List.forall_mem_singleton.mpr (fillNulls_reads m h_reads)⟩,
        h_none⟩
    · intro q₂ ⟨h_sel₂, h_none₂⟩
      -- the filters change neither the select list nor the grouping
      have h_kept := @foldl_invariant String Query
        (fun q f => q.addFilter (.raw (rollupFilter model p f d))) r.filters _
        (fun q => q.select = q₂.select ∧ q.groupBy = []) (fun q _ _ h_q => ⟨h_q.1, h_q.2⟩)
        ⟨rfl, h_none₂⟩
      refine ⟨_, rfl, ?_, ?_⟩
      · split <;> exact fun s h_s => h_sel₂ s (h_kept.1 ▸ h_s)
      · split
        · intro e h_e
          rw [h_kept.2] at h_e
          exact absurd h_e List.not_mem_nil
        · exact h_gb₁

-- ============================================================================
-- The router never selects a rollup the rewriter cannot serve
-- ============================================================================

/-- Whenever the router selects a rollup of a model, the query reading that rollup is built, for
    any table and dialect, and reads only what the rollup stores: its select list and its
    grouping read stored columns, and every `model.field` reference of a filter is rewritten to
    a stored column. -/
theorem route_selects_servable {i : Nat} (h : (route model r).selected = some i) (table : String)
    (d : Dialect) :
    ∃ p, model.preAggregations[i]? = some p ∧ ∃ q, rollupQuery model p r table d = .ok q ∧
      (∀ s ∈ q.select, ReadsStored p d s.expr) ∧ (∀ e ∈ q.groupBy, ReadsStored p d e) ∧
      ∀ f ∈ r.filters, ∀ t ∈ RefToken.scan f, (splitOnce t.name ".").isSome →
        ∃ e, filterColumn? model p d t = some e ∧ ReadsStored p d e := by
  obtain ⟨p, h_p, h_checks⟩ := route_selected_checks h
  have h_dims : (dimensionCoverage p r).passed := h_checks _ (by simp [checks])
  have h_grains : (granularityCompatibility p r).passed := h_checks _ (by simp [checks])
  have h_metrics : (metricCoverage model p r).passed := h_checks _ (by simp [checks])
  have h_filters : (filterCompatibility model p r).passed := h_checks _ (by simp [checks])
  have h_aligned : (timeGrainAlignment p r).passed := h_checks _ (by simp [checks])
  obtain ⟨q, h_q, h_sel, h_gb⟩ := rollupQuery_reads (d := d) table
    (dimensionCoverage_passed h_dims) (granularityCompatibility_passed h_grains)
    (timeGrainAlignment_passed h_aligned) (metricCoverage_passed h_metrics)
  refine ⟨p, h_p, q, h_q, h_sel, h_gb, ?_⟩
  intro f h_f t h_t h_dotted
  obtain ⟨⟨owner, field⟩, h_split⟩ := Option.isSome_iff_exists.mp h_dotted
  exact filterColumn?_reads h_split
    (filterCompatibility_passed h_filters f h_f t h_t owner field h_split)

end MetricLayer.Rollup

namespace MetricLayer

open MetricLayer.Rollup MetricLayer.Text

/-- Revenue, average price and the count that weighs it, by status and day of creation. -/
def dailyRollup : PreAggregation :=
  { name := "daily", measures := ["revenue", "avg_price", "count_price"], dimensions := ["status"],
    timeDimension := some "created_at", granularity := some .day }

/-- Orders with their revenue and average price, rolled up daily. -/
def dailyOrders : Model :=
  { name := "orders", table := some "orders", primaryKey := "order_id",
    dimensions := [{ name := "status" }, { name := "created_at", kind := .time, granularity := some .day }],
    metrics := [{ name := "revenue", agg := some .sum, sql := some "amount" },
                { name := "avg_price", agg := some .avg, sql := some "price" },
                { name := "count_price", agg := some .count, sql := some "price" }],
    preAggregations := [dailyRollup] }

/-- Revenue and average price by status and month, from this year on. -/
def monthlyRevenue : RoutingRequest :=
  { metrics := ["revenue", "avg_price"], dimensions := [("status", none), ("created_at", some .month)],
    filters := ["orders.created_at__month >= '2024-01-01'"], segments := [] }

theorem monthlyRevenue_served :
    (route dailyOrders monthlyRevenue).selected = some 0 ∧
      ∃ p, dailyOrders.preAggregations[0]? = some p ∧
        ∃ q, rollupQuery dailyOrders p monthlyRevenue "orders_daily" .duckdb = .ok q ∧
          (∀ s ∈ q.select, ReadsStored p .duckdb s.expr) ∧ (∀ e ∈ q.groupBy, ReadsStored p .duckdb e) ∧
          ∀ f ∈ monthlyRevenue.filters, ∀ t ∈ RefToken.scan f, (splitOnce t.name ".").isSome →
            ∃ e, filterColumn? dailyOrders p .duckdb t = some e ∧ ReadsStored p .duckdb e := by
  have h_selected : (route dailyOrders monthlyRevenue).selected = some 0 := by decide +kernel
  exact ⟨h_selected, route_selects_servable h_selected "orders_daily" .duckdb⟩

end MetricLayer
