import MetricLayer.Proofs.Compile.MemoRuns
import MetricLayer.Proofs.Validation.Filters
import MetricLayer.Proofs.Graph.CycleSearch
/-!
# The models whose rows a metric reads

A metric reads rows when it aggregates them, or when it is cumulative over no metric
(`Metric.readsRows`). Following its dependencies, each resolved in the model of the metric that
names it (`Graph.Needs`), a metric reaches other metrics; it reads the rows of the models of the
metrics it reaches that read rows (`Graph.RowModel`).

Two searches find them. Checking a request, `Graph.metricModels` follows a reference with
nothing searched yet; building a query, `QueryContext.collectRowMetrics` follows a resolved
metric and records what it searched in the context, which the whole request shares. Both walk
depth first and skip a metric whose canonical name they have searched, so cyclic definitions
end.

When no model name has a dot, a canonical name stands for one metric
(`Graph.Registered.eq_of_canonical`), and what a search adds to a context (`QueryContext.Explores`)
is: searched names after the old ones, each the name of a metric reached; for every metric
searched, its dependencies resolved to searched names; and the row metrics and models of exactly
those metrics. From nothing searched, that is every metric reached, and the search fails exactly
when a metric reached names a dependency that does not resolve. The fuel, the number of metrics
and two, is enough: each nested search records a new canonical name, and there are no more
names than metrics. The check follows the same steps as the builder, so it finds the same models
(`QueryContext.collectModels_eq`).

With a dot in a model name, `a.b.x` names both metric `x` of model `a.b` and metric `b.x` of
model `a`; a search that has seen one skips the other (`dottedModels_rows_missed`).

Main statement: `Graph.metricModels_row_closure`.
-/

namespace MetricLayer

open Relation

namespace Graph

/-- A metric reads rows of its model: it reads rows, and it belongs to a model. -/
def ReadsModelRows (g : Graph) (r : ResolvedMetric) : Prop :=
  r.metric.readsRows (g.dependencies r.metric r.modelName) = true ∧ r.model.isSome

/-- `r` reads rows of model `m`: a metric that `r` reaches reads rows of `m`. -/
def RowModel (g : Graph) (r : ResolvedMetric) (m : String) : Prop :=
  ∃ x, ReflTransGen g.Needs r x ∧ g.ReadsModelRows x ∧ x.modelName = some m

/-- A metric that `r` reaches names a dependency that does not resolve. -/
def BrokenReach (g : Graph) (r : ResolvedMetric) : Prop :=
  ∃ x, ReflTransGen g.Needs r x ∧ ∃ d ∈ g.dependencies x.metric x.modelName, ∃ e,
    g.resolveMetric d x.modelName = .error e

theorem BrokenReach.head {g : Graph} {r y : ResolvedMetric} (h_needs : g.Needs r y)
    (h : g.BrokenReach y) : g.BrokenReach r := by
  obtain ⟨x, h_reach, h_dep⟩ := h
  exact ⟨x, .head h_needs h_reach, h_dep⟩

end Graph

theorem Except.Meets.imp {ε α : Type} {P P' : α → Prop} {Q Q' : ε → Prop} {x : Except ε α}
    (h_x : Except.Meets P Q x) (h_P : ∀ a, P a → P' a) (h_Q : ∀ e, Q e → Q' e) :
    Except.Meets P' Q' x := by
  cases x with
  | error e => exact h_Q e h_x
  | ok a => exact h_P a h_x

namespace QueryContext

@[simp] theorem touch_visited (ctx : QueryContext) (m : String) :
    (ctx.touch m).visited = ctx.visited := by
  unfold touch; split <;> rfl

@[simp] theorem touch_rowMetrics (ctx : QueryContext) (m : String) :
    (ctx.touch m).rowMetrics = ctx.rowMetrics := by
  unfold touch; split <;> rfl

theorem touch_models (ctx : QueryContext) (m : String) :
    (ctx.touch m).models = if ctx.models.contains m then ctx.models else ctx.models ++ [m] := by
  unfold touch; split <;> rfl

theorem mem_touch_models {ctx : QueryContext} {m n : String} :
    n ∈ (ctx.touch m).models ↔ n ∈ ctx.models ∨ n = m := by
  unfold touch
  split
  · rename_i h_has
    have h_m : m ∈ ctx.models := List.contains_iff_mem.mp h_has
    constructor
    · exact .inl
    · rintro (h | rfl)
      · exact h
      · exact h_m
  · simp

theorem touch_models_nodup {ctx : QueryContext} {m : String} (h : ctx.models.Nodup) :
    (ctx.touch m).models.Nodup := by
  unfold touch
  split
  · exact h
  · rename_i h_has
    have h_m : m ∉ ctx.models := fun h_m => h_has (List.contains_iff_mem.mpr h_m)
    exact List.concat_eq_append ▸ h.concat h_m

variable {g : Graph}

/-- `x` was searched between `ctx` and `ctx'`: a metric of the graph whose name `ctx'` has
    searched and `ctx` had not. -/
def Searched (g : Graph) (ctx ctx' : QueryContext) (x : ResolvedMetric) : Prop :=
  g.Registered x ∧ x.canonical ∈ ctx'.visited ∧ x.canonical ∉ ctx.visited

/-- What a context keeps that lets the search go on: its graph, and distinct searched names,
    each the canonical name of a metric of the graph. -/
structure Searchable (g : Graph) (ctx : QueryContext) : Prop where
  graph : ctx.graph = g
  nodup : ctx.visited.Nodup
  named : ∀ c ∈ ctx.visited, c ∈ g.metricNames

/-- No more names are searched than the graph has metrics. -/
theorem Searchable.length_le {ctx : QueryContext} (h : Searchable g ctx) :
    ctx.visited.length ≤ g.metricCount := by
  have h_le := h.nodup.length_le_of_subset h.named
  rwa [Graph.metricNames_length] at h_le

/-- Recording a new name of a metric of the graph keeps a context searchable. -/
theorem Searchable.visit {ctx ctx₂ : QueryContext} {r : ResolvedMetric} (h : Searchable g ctx)
    (h_reg : g.Registered r) (h_new : r.canonical ∉ ctx.visited) (h_graph : ctx₂.graph = ctx.graph)
    (h_visited : ctx₂.visited = ctx.visited ++ [r.canonical]) : Searchable g ctx₂ where
  graph := h_graph.trans h.graph
  nodup := by
    rw [h_visited, ← List.concat_eq_append]
    exact h.nodup.concat h_new
  named := by
    intro n h_n
    rw [h_visited, List.mem_append, List.mem_singleton] at h_n
    rcases h_n with h_n | rfl
    · exact h.named n h_n
    · exact h_reg.canonical_mem

/-- What searching `r` does first: it records `r`'s name and, when `r` reads rows of its model,
    records `r` among the row metrics and touches the model. -/
structure Visits (g : Graph) (ctx : QueryContext) (r : ResolvedMetric) (ctx' : QueryContext) :
    Prop where
  graph : ctx'.graph = ctx.graph
  visited : ctx'.visited = ctx.visited ++ [r.canonical]
  rowMetrics : ∃ new, ctx'.rowMetrics = ctx.rowMetrics ++ new ∧
    ∀ x, x ∈ new ↔ x = r ∧ g.ReadsModelRows r
  models : ∀ m, m ∈ ctx'.models ↔ m ∈ ctx.models ∨ (g.ReadsModelRows r ∧ r.modelName = some m)
  models_nodup : ctx.models.Nodup → ctx'.models.Nodup

/-- What a search adds to a context, for metrics satisfying `A`: searched names after the old
    ones, each the name of a metric of the graph satisfying `A`; for every metric searched, its
    dependencies resolved to searched names; and the row metrics and models of exactly the
    metrics searched that read rows of their model. -/
structure Explores (g : Graph) (A : ResolvedMetric → Prop) (ctx ctx' : QueryContext) : Prop where
  graph : ctx'.graph = ctx.graph
  visited : ctx.visited <+: ctx'.visited
  nodup : ctx.visited.Nodup → ctx'.visited.Nodup
  reached : ∀ c ∈ ctx'.visited, c ∉ ctx.visited → ∃ x, g.Registered x ∧ A x ∧ x.canonical = c
  closed : ∀ x, Searched g ctx ctx' x → ∀ d ∈ g.dependencies x.metric x.modelName,
    ∃ y, g.resolveMetric d x.modelName = .ok y ∧ y.canonical ∈ ctx'.visited
  rowMetrics : ∃ new, ctx'.rowMetrics = ctx.rowMetrics ++ new ∧
    ∀ x, x ∈ new ↔ Searched g ctx ctx' x ∧ g.ReadsModelRows x
  models : ∀ m, m ∈ ctx'.models ↔
    m ∈ ctx.models ∨ ∃ x, Searched g ctx ctx' x ∧ g.ReadsModelRows x ∧ x.modelName = some m
  models_nodup : ctx.models.Nodup → ctx'.models.Nodup

/-- A metric searched between `a` and `c` was searched before `b` or after it. -/
theorem searched_trans_iff {a b c : QueryContext} (h_ab : a.visited <+: b.visited)
    (h_bc : b.visited <+: c.visited) (x : ResolvedMetric) :
    Searched g a c x ↔ Searched g a b x ∨ Searched g b c x := by
  constructor
  · rintro ⟨h_reg, h_c, h_a⟩
    by_cases h_b : x.canonical ∈ b.visited
    · exact .inl ⟨h_reg, h_b, h_a⟩
    · exact .inr ⟨h_reg, h_c, h_b⟩
  · rintro (⟨h_reg, h_b, h_a⟩ | ⟨h_reg, h_c, h_b⟩)
    · exact ⟨h_reg, h_bc.subset h_b, h_a⟩
    · exact ⟨h_reg, h_c, fun h_a => h_b (h_ab.subset h_a)⟩

namespace Explores

variable {A B : ResolvedMetric → Prop}

theorem refl (A : ResolvedMetric → Prop) (ctx : QueryContext) : Explores g A ctx ctx where
  graph := rfl
  visited := List.prefix_refl _
  nodup := id
  reached := fun _ h_in h_out => absurd h_in h_out
  closed := fun _ h => absurd h.2.1 h.2.2
  rowMetrics := ⟨[], by simp, fun x => by simp [Searched]⟩
  models := fun m => by simp [Searched]
  models_nodup := id

theorem trans {a b c : QueryContext} (h_ab : Explores g A a b) (h_bc : Explores g A b c) :
    Explores g A a c where
  graph := h_bc.graph.trans h_ab.graph
  visited := h_ab.visited.trans h_bc.visited
  nodup := h_bc.nodup ∘ h_ab.nodup
  reached := by
    intro n h_c h_a
    by_cases h_b : n ∈ b.visited
    · exact h_ab.reached n h_b h_a
    · exact h_bc.reached n h_c h_b
  closed := by
    intro x h_x d h_d
    rcases (searched_trans_iff h_ab.visited h_bc.visited x).mp h_x with h_x | h_x
    · obtain ⟨y, h_y, h_in⟩ := h_ab.closed x h_x d h_d
      exact ⟨y, h_y, h_bc.visited.subset h_in⟩
    · exact h_bc.closed x h_x d h_d
  rowMetrics := by
    obtain ⟨new₁, h_eq₁, h_new₁⟩ := h_ab.rowMetrics
    obtain ⟨new₂, h_eq₂, h_new₂⟩ := h_bc.rowMetrics
    refine ⟨new₁ ++ new₂, by rw [h_eq₂, h_eq₁, List.append_assoc], fun x => ?_⟩
    rw [List.mem_append, h_new₁, h_new₂, searched_trans_iff h_ab.visited h_bc.visited]
    tauto
  models := by
    intro m
    rw [h_bc.models, h_ab.models]
    simp only [searched_trans_iff h_ab.visited h_bc.visited]
    constructor
    · rintro ((h | ⟨x, h_x, h_rows, h_name⟩) | ⟨x, h_x, h_rows, h_name⟩)
      · exact .inl h
      · exact .inr ⟨x, .inl h_x, h_rows, h_name⟩
      · exact .inr ⟨x, .inr h_x, h_rows, h_name⟩
    · rintro (h | ⟨x, h_x | h_x, h_rows, h_name⟩)
      · exact .inl (.inl h)
      · exact .inl (.inr ⟨x, h_x, h_rows, h_name⟩)
      · exact .inr ⟨x, h_x, h_rows, h_name⟩
  models_nodup := h_bc.models_nodup ∘ h_ab.models_nodup

theorem mono (h_AB : ∀ x, A x → B x) {ctx ctx' : QueryContext} (h : Explores g A ctx ctx') :
    Explores g B ctx ctx' :=
  { h with
    reached := fun n h_in h_out => by
      obtain ⟨x, h_reg, h_A, h_name⟩ := h.reached n h_in h_out
      exact ⟨x, h_reg, h_AB x h_A, h_name⟩ }

/-- A search keeps a context searchable. -/
theorem searchable {ctx ctx' : QueryContext} (h : Explores g A ctx ctx') (h_ctx : Searchable g ctx) :
    Searchable g ctx' where
  graph := h.graph.trans h_ctx.graph
  nodup := h.nodup h_ctx.nodup
  named := by
    intro n h_n
    by_cases h_old : n ∈ ctx.visited
    · exact h_ctx.named n h_old
    · obtain ⟨x, h_reg, -, rfl⟩ := h.reached n h_n h_old
      exact h_reg.canonical_mem

/-- Searching `r`, which was not searched yet, adds what its visit records and what the searches
    of its dependencies add, once each dependency resolves to a searched name. -/
theorem of_visit (h_dots : g.DotFreeModels) {ctx ctx₂ ctx' : QueryContext} {r : ResolvedMetric}
    (h_reg : g.Registered r) (h_A : A r) (h_new : r.canonical ∉ ctx.visited)
    (h_visit : Visits g ctx r ctx₂) (h_rest : Explores g A ctx₂ ctx')
    (h_deps : ∀ d ∈ g.dependencies r.metric r.modelName,
      ∃ y, g.resolveMetric d r.modelName = .ok y ∧ y.canonical ∈ ctx'.visited) :
    Explores g A ctx ctx' ∧ r.canonical ∈ ctx'.visited := by
  have h_pre : ctx.visited <+: ctx₂.visited := h_visit.visited ▸ List.prefix_append _ _
  have h_split := searched_trans_iff (g := g) h_pre h_rest.visited
  -- the visit searches `r` alone: a canonical name stands for one metric
  have h_only : ∀ x, Searched g ctx ctx₂ x ↔ x = r := by
    intro x
    constructor
    · rintro ⟨h_x, h_in, h_out⟩
      rw [h_visit.visited, List.mem_append, List.mem_singleton] at h_in
      exact Graph.Registered.eq_of_canonical h_dots h_x h_reg (h_in.resolve_left h_out)
    · rintro rfl
      exact ⟨h_reg, by simp [h_visit.visited], h_new⟩
  -- the names, the metrics searched, the row metrics and the models, then `r`'s own name
  refine ⟨Explores.mk (h_rest.graph.trans h_visit.graph) (h_pre.trans h_rest.visited) ?_ ?_ ?_ ?_
    ?_ (h_rest.models_nodup ∘ h_visit.models_nodup), ?_⟩
  · intro h_nodup
    refine h_rest.nodup ?_
    rw [h_visit.visited, ← List.concat_eq_append]
    exact h_nodup.concat h_new
  · intro n h_in h_out
    by_cases h_at : n ∈ ctx₂.visited
    · rw [h_visit.visited, List.mem_append, List.mem_singleton] at h_at
      exact ⟨r, h_reg, h_A, (h_at.resolve_left h_out).symm⟩
    · exact h_rest.reached n h_in h_at
  · intro x h_x d h_d
    rcases (h_split x).mp h_x with h_x | h_x
    · rw [h_only] at h_x
      subst h_x
      exact h_deps d h_d
    · exact h_rest.closed x h_x d h_d
  · obtain ⟨new₁, h_eq₁, h_new₁⟩ := h_visit.rowMetrics
    obtain ⟨new₂, h_eq₂, h_new₂⟩ := h_rest.rowMetrics
    refine ⟨new₁ ++ new₂, by rw [h_eq₂, h_eq₁, List.append_assoc], fun x => ?_⟩
    rw [List.mem_append, h_new₁, h_new₂, h_split, h_only]
    constructor
    · rintro (⟨rfl, h_rows⟩ | ⟨h_x, h_rows⟩)
      · exact ⟨.inl rfl, h_rows⟩
      · exact ⟨.inr h_x, h_rows⟩
    · rintro ⟨rfl | h_x, h_rows⟩
      · exact .inl ⟨rfl, h_rows⟩
      · exact .inr ⟨h_x, h_rows⟩
  · intro m
    rw [h_rest.models, h_visit.models]
    simp only [h_split, h_only]
    constructor
    · rintro ((h | ⟨h_rows, h_name⟩) | ⟨x, h_x, h_rows, h_name⟩)
      · exact .inl h
      · exact .inr ⟨r, .inl rfl, h_rows, h_name⟩
      · exact .inr ⟨x, .inr h_x, h_rows, h_name⟩
    · rintro (h | ⟨x, rfl | h_x, h_rows, h_name⟩)
      · exact .inl (.inl h)
      · exact .inl (.inr ⟨h_rows, h_name⟩)
      · exact .inr ⟨x, h_x, h_rows, h_name⟩
  · exact h_rest.visited.subset (by simp [h_visit.visited])

end Explores

/-- Searching a metric of the graph from a searchable context, with fuel for every name not
    searched yet, either adds what `Explores` says of the metrics `r` reaches and records `r`'s
    name, or fails, and then a metric `r` reaches names a dependency that does not resolve. -/
theorem collectRowMetrics_explores (h_dots : g.DotFreeModels) :
    ∀ (fuel : Nat) (ctx : QueryContext) (r : ResolvedMetric), Searchable g ctx → g.Registered r →
      g.metricCount < fuel + ctx.visited.length →
      Except.Meets (fun ctx' => Explores g (ReflTransGen g.Needs r) ctx ctx' ∧ r.canonical ∈ ctx'.visited)
        (fun _ => g.BrokenReach r) (ctx.collectRowMetrics fuel r)
  | 0, ctx, _, h_ctx, _, h_fuel => absurd h_fuel (by have := h_ctx.length_le; omega)
  | fuel + 1, ctx, r, h_ctx, h_reg, h_fuel => by
    unfold collectRowMetrics
    dsimp only
    split
    · -- searched already
      rename_i h_seen
      exact ⟨Explores.refl _ ctx, List.contains_iff_mem.mp h_seen⟩
    · rename_i h_new
      have h_new : r.canonical ∉ ctx.visited := fun h => h_new (List.contains_iff_mem.mpr h)
      rw [h_ctx.graph]
      -- the dependencies are searched in turn from what the visit leaves; each resolves to a
      -- metric `r` needs, whose search adds metrics `r` reaches
      have h_fold : ∀ ctx₂, Visits g ctx r ctx₂ →
          Except.Meets (fun ctx' => Explores g (ReflTransGen g.Needs r) ctx ctx' ∧
              r.canonical ∈ ctx'.visited) (fun _ => g.BrokenReach r)
            ((g.dependencies r.metric r.modelName).foldlM (fun c d => do
              let dr ← c.graph.resolveMetric d r.modelName
              c.collectRowMetrics fuel dr) ctx₂) := by
        intro ctx₂ h_visit
        have h_ctx₂ := h_ctx.visit h_reg h_new h_visit.graph h_visit.visited
        have h_length : ctx₂.visited.length = ctx.visited.length + 1 := by simp [h_visit.visited]
        -- after each dependency: what the searches added, and the dependencies so far resolved
        -- to searched names
        refine Except.Meets.mono (foldlM_meets (fun pre c => Explores g (ReflTransGen g.Needs r) ctx₂ c ∧
            ∀ d ∈ pre, ∃ y, g.resolveMetric d r.modelName = .ok y ∧ y.canonical ∈ c.visited)
          (fun _ => g.BrokenReach r) _ ?_ ctx₂ ⟨Explores.refl _ ctx₂, by simp⟩) ?_
        · intro pre c d h_d h_step
          have h_exp := h_step.1
          have h_pre := h_step.2
          have h_c := h_exp.searchable h_ctx₂
          have h_grown := h_exp.visited.length_le
          rw [h_c.graph]
          cases h_res : g.resolveMetric d r.modelName with
          | error e => exact ⟨r, .refl, d, h_d, e, h_res⟩
          | ok y =>
            have h_needs : g.Needs r y := ⟨d, h_d, h_res⟩
            refine Except.Meets.imp (collectRowMetrics_explores h_dots fuel c y h_c
              (Graph.resolveMetric_registered h_res) (by omega)) ?_ ?_
            · rintro c' ⟨h_y, h_in⟩
              refine ⟨h_exp.trans (h_y.mono fun x h_x => .head h_needs h_x), fun d' h_d' => ?_⟩
              rcases List.mem_append.mp h_d' with h_d' | h_d'
              · obtain ⟨y', h_y', h_in'⟩ := h_pre d' h_d'
                exact ⟨y', h_y', h_y.visited.subset h_in'⟩
              · rw [List.mem_singleton.mp h_d']
                exact ⟨y, h_res, h_in⟩
            · exact fun _ h_broken => h_broken.head h_needs
        · rintro ctx' ⟨h_exp, h_deps⟩
          exact Explores.of_visit h_dots h_reg .refl h_new h_visit h_exp h_deps
      split
      · -- `r` reads rows of its model: recorded, and the model touched
        rename_i model h_rows h_model
        have h_reads : g.ReadsModelRows r := ⟨h_rows, by simp [h_model]⟩
        refine h_fold _ ⟨by simp [h_ctx.graph], by simp, ⟨[r], rfl, fun x => ?_⟩, fun n => ?_,
          fun h => touch_models_nodup h⟩
        · simp [h_reads]
        · simp [mem_touch_models, h_reads, ResolvedMetric.modelName, h_model, eq_comm]
      · rename_i h_not
        have h_reads : ¬ g.ReadsModelRows r := by
          rintro ⟨h_rows, h_some⟩
          obtain ⟨model, h_model⟩ := Option.isSome_iff_exists.mp h_some
          exact h_not model h_rows h_model
        exact h_fold _ ⟨h_ctx.graph.symm, rfl, ⟨[], by simp, fun x => by simp [h_reads]⟩,
          fun n => by simp [h_reads], id⟩

/-- From nothing searched, the metrics a search of `r` searched are exactly those `r` reaches:
    the search only adds metrics `r` reaches, and records `r` and, for every metric it searched,
    what its dependencies resolve to. -/
theorem Explores.searched_iff (h_dots : g.DotFreeModels) {ctx ctx' : QueryContext}
    {r : ResolvedMetric} (h_exp : Explores g (ReflTransGen g.Needs r) ctx ctx')
    (h_empty : ctx.visited = []) (h_reg : g.Registered r) (h_in : r.canonical ∈ ctx'.visited)
    (x : ResolvedMetric) : Searched g ctx ctx' x ↔ ReflTransGen g.Needs r x := by
  constructor
  · rintro ⟨h_x, h_x_in, h_x_out⟩
    obtain ⟨x', h_x', h_reach, h_name⟩ := h_exp.reached _ h_x_in h_x_out
    rwa [← Graph.Registered.eq_of_canonical h_dots h_x' h_x h_name]
  · intro h_reach
    -- along every chain of dependencies, each metric is searched
    induction h_reach with
    | refl => exact ⟨h_reg, h_in, by simp [h_empty]⟩
    | tail _ h_needs ih =>
      obtain ⟨d, h_d, h_res⟩ := h_needs
      obtain ⟨y, h_y, h_y_in⟩ := h_exp.closed _ ih d h_d
      rw [h_res] at h_y
      cases h_y
      exact ⟨Graph.resolveMetric_registered h_res, h_y_in, by simp [h_empty]⟩

/-- Searching a metric of the graph from a context with nothing searched, no model and no row
    metric: the search succeeds exactly when no metric it reaches names a dependency that does not
    resolve, and then it records, without repeats, the models of the metrics reached that read
    rows, and those metrics as row metrics. -/
theorem collectRowMetrics_closure (h_dots : g.DotFreeModels) {ctx : QueryContext}
    {r : ResolvedMetric} (h_graph : ctx.graph = g)
    (h_fresh : ctx.visited = [] ∧ ctx.models = [] ∧ ctx.rowMetrics = []) (h_reg : g.Registered r) :
    ((∃ ctx', ctx.collectRowMetrics ctx.searchDepth r = .ok ctx') ↔ ¬ g.BrokenReach r) ∧
      ∀ ctx', ctx.collectRowMetrics ctx.searchDepth r = .ok ctx' →
        ctx'.models.Nodup ∧ (∀ m, m ∈ ctx'.models ↔ g.RowModel r m) ∧
        ∀ x, x ∈ ctx'.rowMetrics ↔ ReflTransGen g.Needs r x ∧ g.ReadsModelRows x := by
  obtain ⟨h_visited, h_models, h_rows⟩ := h_fresh
  have h_meets := collectRowMetrics_explores h_dots ctx.searchDepth ctx r
    ⟨h_graph, by simp [h_visited], by simp [h_visited]⟩ h_reg
    (by simp [searchDepth, h_graph, h_visited])
  -- what a successful search records
  have h_ok : ∀ ctx', ctx.collectRowMetrics ctx.searchDepth r = .ok ctx' →
      Explores g (ReflTransGen g.Needs r) ctx ctx' ∧ r.canonical ∈ ctx'.visited := by
    intro ctx' h_run
    rw [h_run] at h_meets
    exact h_meets
  have h_whole : ∀ ctx', ctx.collectRowMetrics ctx.searchDepth r = .ok ctx' →
      ∀ x, Searched g ctx ctx' x ↔ ReflTransGen g.Needs r x := fun ctx' h_run =>
    (h_ok ctx' h_run).1.searched_iff h_dots h_visited h_reg (h_ok ctx' h_run).2
  refine ⟨⟨?_, ?_⟩, fun ctx' h_run => ⟨?_, fun m => ?_, fun x => ?_⟩⟩
  · -- every metric reached is searched, so each of its dependencies resolves
    rintro ⟨ctx', h_run⟩ ⟨x, h_reach, d, h_d, e, h_err⟩
    obtain ⟨y, h_y, -⟩ := (h_ok ctx' h_run).1.closed x ((h_whole ctx' h_run x).mpr h_reach) d h_d
    rw [h_err] at h_y
    cases h_y
  · intro h_sound
    cases h_run : ctx.collectRowMetrics ctx.searchDepth r with
    | ok ctx' => exact ⟨ctx', rfl⟩
    | error e =>
      rw [h_run] at h_meets
      exact absurd h_meets h_sound
  · exact (h_ok ctx' h_run).1.models_nodup (by simp [h_models])
  · rw [(h_ok ctx' h_run).1.models, h_models]
    simp only [List.not_mem_nil, false_or, h_whole ctx' h_run, Graph.RowModel]
  · obtain ⟨new, h_eq, h_new⟩ := (h_ok ctx' h_run).1.rowMetrics
    rw [h_eq, h_rows, List.nil_append, h_new, h_whole ctx' h_run]

/-- Two folds whose steps agree through `φ`, from values satisfying an invariant that every
    successful step keeps, agree through `φ`. -/
theorem foldlM_map_eq {ε α β γ : Type} {f₁ : γ → α → Except ε γ} {f₂ : β → α → Except ε β}
    (φ : β → γ) (P : β → Prop) (h_step : ∀ b x, P b → f₁ (φ b) x = φ <$> f₂ b x)
    (h_keep : ∀ b x b', P b → f₂ b x = .ok b' → P b') :
    ∀ (xs : List α) (init : β), P init → xs.foldlM f₁ (φ init) = φ <$> xs.foldlM f₂ init
  | [], _, _ => rfl
  | x :: xs, init, h_init => by
    rw [List.foldlM_cons, List.foldlM_cons, h_step init x h_init]
    cases h_x : f₂ init x with
    | error e => rfl
    | ok b => exact foldlM_map_eq φ P h_step h_keep xs b (h_keep init x b h_init h_x)

/-- The check's search takes the builder's steps: from a searchable context, with fuel for every
    name not searched yet, following a reference finds the models and searched names that
    resolving it and searching the metric it names leave in the context. -/
theorem collectModels_eq (h_dots : g.DotFreeModels) : ∀ (fuel : Nat) (ctx : QueryContext)
    (d : String) (c : Option String), Searchable g ctx → g.metricCount < fuel + ctx.visited.length →
    g.collectModels fuel d c (ctx.models, ctx.visited) =
      (fun ctx' => (ctx'.models, ctx'.visited)) <$> (g.resolveMetric d c >>= ctx.collectRowMetrics fuel)
  | 0, ctx, _, _, h_ctx, h_fuel => absurd h_fuel (by have := h_ctx.length_le; omega)
  | fuel + 1, ctx, d, c, h_ctx, h_fuel => by
    unfold Graph.collectModels
    cases h_res : g.resolveMetric d c with
    | error e => rfl
    | ok r =>
      have h_reg := Graph.resolveMetric_registered h_res
      simp only [bind, Except.bind]
      unfold collectRowMetrics
      dsimp only
      rw [h_ctx.graph]
      by_cases h_seen : ctx.visited.contains r.canonical = true
      · rw [if_pos h_seen, if_pos h_seen]
        rfl
      rw [if_neg h_seen, if_neg h_seen]
      have h_new : r.canonical ∉ ctx.visited := fun h => h_seen (List.contains_iff_mem.mpr h)
      -- the dependencies are followed in step, from contexts the searches keep searchable
      have h_fold : ∀ ctx₂ : QueryContext, ctx₂.graph = ctx.graph →
          ctx₂.visited = ctx.visited ++ [r.canonical] →
          (g.dependencies r.metric r.modelName).foldlM
              (fun acc d => g.collectModels fuel d r.modelName acc) (ctx₂.models, ctx₂.visited) =
            (fun ctx' => (ctx'.models, ctx'.visited)) <$>
              (g.dependencies r.metric r.modelName).foldlM (fun c d => do
                let dr ← c.graph.resolveMetric d r.modelName
                c.collectRowMetrics fuel dr) ctx₂ := by
        intro ctx₂ h_graph h_visited
        refine foldlM_map_eq (fun ctx' => (ctx'.models, ctx'.visited))
          (fun c => Searchable g c ∧ g.metricCount < fuel + c.visited.length) ?_ ?_ _ ctx₂
          ⟨h_ctx.visit h_reg h_new h_graph h_visited, by simp [h_visited]; omega⟩
        · rintro c d' ⟨h_c, h_c_fuel⟩
          rw [h_c.graph]
          exact collectModels_eq h_dots fuel c d' r.modelName h_c h_c_fuel
        · rintro c d' c' ⟨h_c, h_c_fuel⟩ h_step
          rw [h_c.graph] at h_step
          obtain ⟨y, h_y, h_run⟩ := Except.bind_eq_ok.mp h_step
          have h_meets := collectRowMetrics_explores h_dots fuel c y h_c
            (Graph.resolveMetric_registered h_y) h_c_fuel
          rw [h_run] at h_meets
          exact ⟨h_meets.1.searchable h_c, by have := h_meets.1.visited.length_le; omega⟩
      -- the same model is recorded on both sides, or none
      cases h_rows : r.metric.readsRows (g.dependencies r.metric r.modelName) <;>
        cases h_model : r.model <;> dsimp only
      case true.some model =>
        rw [← h_fold _ ?_ ?_]
        · simp only [touch_models, touch_visited]
        · simp [h_ctx.graph]
        · simp
      all_goals
        rw [← h_fold _ ?_ ?_]
        · exact h_ctx.graph.symm
        · rfl

end QueryContext

namespace Graph

/-- When no model name has a dot, checking a reference and building its query find the same
    models whose rows it reads: the models of the metrics it reaches, each dependency resolved in
    the model of the metric that names it, that read rows, each once. Both fail exactly when a
    metric it reaches names a dependency that does not resolve; the builder records the metrics
    reached that read rows as row metrics. -/
theorem metricModels_row_closure {g : Graph} (h_dots : g.DotFreeModels) {reference : String}
    {context : Option String} {r : ResolvedMetric} (h_r : g.resolveMetric reference context = .ok r)
    {ctx : QueryContext} (h_graph : ctx.graph = g)
    (h_fresh : ctx.visited = [] ∧ ctx.models = [] ∧ ctx.rowMetrics = []) :
    g.metricModels reference context = (·.models) <$> ctx.collectRowMetrics ctx.searchDepth r ∧
      ((∃ models, g.metricModels reference context = .ok models) ↔ ¬ g.BrokenReach r) ∧
      (∀ models, g.metricModels reference context = .ok models →
        models.Nodup ∧ ∀ m, m ∈ models ↔ g.RowModel r m) ∧
      ∀ ctx', ctx.collectRowMetrics ctx.searchDepth r = .ok ctx' →
        ∀ x, x ∈ ctx'.rowMetrics ↔ ReflTransGen g.Needs r x ∧ g.ReadsModelRows x := by
  have h_ctx : QueryContext.Searchable g ctx := ⟨h_graph, by simp [h_fresh.1], by simp [h_fresh.1]⟩
  have h_depth : ctx.searchDepth = g.metricCount + 2 := by rw [QueryContext.searchDepth, h_graph]
  -- the check takes the builder's steps from nothing searched
  have h_eq : g.metricModels reference context =
      (·.models) <$> ctx.collectRowMetrics ctx.searchDepth r := by
    have h_same := QueryContext.collectModels_eq h_dots (g.metricCount + 2) ctx reference context
      h_ctx (by simp [h_fresh.1])
    rw [h_fresh.2.1, h_fresh.1] at h_same
    unfold metricModels
    rw [h_same, h_r, h_depth]
    simp only [bind, Except.bind]
    cases ctx.collectRowMetrics (g.metricCount + 2) r <;> rfl
  obtain ⟨h_ok_iff, h_ok⟩ := QueryContext.collectRowMetrics_closure h_dots h_graph h_fresh
    (resolveMetric_registered h_r)
  refine ⟨h_eq, ?_, fun models h_models => ?_, fun ctx' h_run => (h_ok ctx' h_run).2.2⟩
  · rw [h_eq, ← h_ok_iff]
    cases ctx.collectRowMetrics ctx.searchDepth r with
    | error e => simp [Functor.map, Except.map]
    | ok ctx' => simp [Functor.map, Except.map]
  · rw [h_eq] at h_models
    cases h_run : ctx.collectRowMetrics ctx.searchDepth r with
    | error e =>
      rw [h_run] at h_models
      cases h_models
    | ok ctx' =>
      rw [h_run] at h_models
      cases h_models
      exact ⟨(h_ok ctx' h_run).1, (h_ok ctx' h_run).2.1⟩

end Graph

open MetricLayer.Graph

/-- A context over a graph with nothing resolved and nothing searched. -/
def searchStart (g : Graph) : QueryContext :=
  { graph := g, dialect := .duckdb, ungrouped := false, params := ⟨[], [], ""⟩ }

/-- Net revenue and gross revenue are defined by each other. Following net revenue, both searches
    end, and the orders are the one model whose rows it reads, through refunds. -/
theorem netRevenue_reads_order_rows :
    loopingGraph.DotFreeModels ∧
      loopingGraph.resolveMetric "orders.net_revenue" none = .ok ⟨some loopingOrders, netRevenue⟩ ∧
      loopingGraph.metricModels "orders.net_revenue" none = .ok ["orders"] ∧
      ∀ m, m ∈ ["orders"] ↔ loopingGraph.RowModel ⟨some loopingOrders, netRevenue⟩ m := by
  have h_dots : loopingGraph.DotFreeModels := by decide
  have h_r : loopingGraph.resolveMetric (loopingOrders.name ++ "." ++ netRevenue.name) none =
      .ok ⟨some loopingOrders, netRevenue⟩ :=
    resolveMetric_qualified (by decide) (by decide) rfl rfl
  rw [show loopingOrders.name ++ "." ++ netRevenue.name = "orders.net_revenue" by decide] at h_r
  have h_some : (loopingGraph.metricModels "orders.net_revenue" none).toOption = some ["orders"] := by
    decide +kernel
  have h_models : loopingGraph.metricModels "orders.net_revenue" none = .ok ["orders"] := by
    cases h : loopingGraph.metricModels "orders.net_revenue" none with
    | error e => simp [h, Except.toOption] at h_some
    | ok models => simpa [h, Except.toOption] using h_some
  have h_start : (searchStart loopingGraph).graph = loopingGraph := rfl
  obtain ⟨-, -, h_closure, -⟩ := metricModels_row_closure h_dots h_r h_start ⟨rfl, rfl, rfl⟩
  exact ⟨h_dots, h_r, h_models, (h_closure _ h_models).2⟩

/-- The sum `b.x`, of prices. -/
def summedB : Metric := { name := "b.x", agg := some .sum, sql := some "price" }

/-- Model `a`, with the sum `b.x`. -/
def summedA : Model := { name := "a", table := some "a", primaryKey := "id", metrics := [summedB] }

/-- Model `a.b`, with a sum `x` and the ratio `s` of `x` to `a.b.x`. -/
def ratioAb : Model := { nestedAb with metrics := nestedAb.metrics ++ [xOverAbx] }

def dottedRows : Graph := { models := [summedA, ratioAb] }

/-- With a dot in a model name, `s` in model `a.b` depends on `x`, the sum of `a.b`, and on
    `a.b.x`, which resolves to the sum `b.x` of model `a`; both read rows. The first has the
    canonical name `a.b.x` too, so once it is searched the second is skipped, and the check finds
    only model `a.b`. -/
theorem dottedModels_rows_missed :
    (dottedRows.metricModels "s" (some "a.b")).toOption = some ["a.b"] ∧
      dottedRows.resolveMetric "s" (some "a.b") = .ok ⟨some ratioAb, xOverAbx⟩ ∧
      dottedRows.RowModel ⟨some ratioAb, xOverAbx⟩ "a" := by
  have h_s : dottedRows.resolveMetric xOverAbx.name (some "a.b") = .ok ⟨some ratioAb, xOverAbx⟩ :=
    resolveMetric_in_context (by decide) (by decide) rfl rfl
  -- `a.b.x`, seen from `a.b`, is the sum `b.x` of model `a`
  have h_bx : dottedRows.resolveMetric (summedA.name ++ "." ++ summedB.name) (some "a.b") =
      .ok ⟨some summedA, summedB⟩ :=
    resolveMetric_qualified (by decide) (by decide) rfl rfl
  rw [show summedA.name ++ "." ++ summedB.name = "a.b.x" by decide] at h_bx
  have h_dep : "a.b.x" ∈ dottedRows.dependencies xOverAbx (some "a.b") := by decide +kernel
  refine ⟨by decide +kernel, h_s, _, .single ⟨"a.b.x", h_dep, h_bx⟩, ⟨by decide, rfl⟩, rfl⟩

end MetricLayer
