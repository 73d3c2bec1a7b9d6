import MetricLayer.Proofs.Compile.Columns
import MetricLayer.Proofs.Graph.JoinTree
/-!
# The shapes of a built query

`QueryContext.buildQuery` puts a query together in one of a few shapes. This module says, for
each, what the query is made of, as far as reading its columns goes: its common table
expressions, the relation it reads and the relations it joins, and the first items of its
select list, which are the requested dimensions in order.

* `inlineQuery_spec`: the joined source of the base, the dimensions read from it;
* `perModelQuery_spec`: one aggregate relation per aggregated model, each a joined source with
  the dimensions first, merged with `COALESCE` over the aggregate relations;
* `windowQuery_spec`: the grouped query as the relation `base`, its dimensions read from it;
* `buildQuery_spec`: the model rows first, then one of the above.

Metric expressions are compiled in `CompileM`, which may fail and keeps a memory; what a
computation there ensures of its result is said with `CompileM.Ensures`.
-/

namespace MetricLayer

open MetricLayer.Sql

-- ============================================================================
-- What a compilation step ensures
-- ============================================================================

/-- Every successful run of `m`, from any memory, gives a result with `P`. -/
def CompileM.Ensures {α : Type} (m : CompileM α) (P : α → Prop) : Prop :=
  ∀ σ a σ', m.run.run σ = (.ok a, σ') → P a

namespace CompileM.Ensures

theorem pure {α : Type} {a : α} {P : α → Prop} (h : P a) : (Pure.pure a : CompileM α).Ensures P := by
  intro σ b σ' h_run
  simp only [ExceptT.run_pure, StateT.run_pure] at h_run
  obtain ⟨rfl, -⟩ := h_run
  exact h

theorem bind {α β : Type} {m : CompileM α} {f : α → CompileM β} (P : α → Prop) {Q : β → Prop}
    (h_m : m.Ensures P) (h_f : ∀ a, P a → (f a).Ensures Q) : (m >>= f).Ensures Q := by
  intro σ b σ' h
  simp only [ExceptT.run_bind, StateT.run_bind] at h
  cases h_run : m.run.run σ with
  | mk r σ₁ =>
    rw [h_run] at h
    cases r with
    | ok x => exact h_f x (h_m σ x σ₁ h_run) σ₁ b σ' h
    | error e =>
      -- a failed first step makes the whole computation fail
      have h_err : ((Except.error e, σ₁) : Except Error β × Memo) = (.ok b, σ') := h
      simp at h_err

/-- Nothing is known of the result of an arbitrary step. -/
theorem trivial {α : Type} (m : CompileM α) : m.Ensures fun _ => True :=
  fun _ _ _ _ => True.intro

/-- What a computation ensures, it ensures of anything weaker. -/
theorem imp {α : Type} {m : CompileM α} {P Q : α → Prop} (h_m : m.Ensures P) (h : ∀ a, P a → Q a) :
    m.Ensures Q :=
  fun σ a σ' h_run => h a (h_m σ a σ' h_run)

/-- A fold whose every step keeps a property keeps it. -/
theorem foldlM {α β : Type} {f : β → α → CompileM β} {P : β → Prop}
    (h_step : ∀ b x, P b → (f b x).Ensures P) :
    ∀ (xs : List α) (init : β), P init → (xs.foldlM f init).Ensures P := by
  intro xs
  induction xs with
  | nil => intro init h_init; exact pure h_init
  | cons x xs ih =>
    intro init h_init
    rw [List.foldlM_cons]
    exact bind P (h_step init x h_init) fun b h_b => ih b h_b

/-- A fold whose every step appends one item for the element it is at ends with the items it
    started with, then one for each element. -/
theorem foldlM_append {α β γ : Type} {f : β → α → CompileM β} (items : β → List γ) (g : α → γ)
    (h_step : ∀ b x, (f b x).Ensures fun b' => items b' = items b ++ [g x]) :
    ∀ (xs : List α) (init : β), (xs.foldlM f init).Ensures fun r => items r = items init ++ xs.map g := by
  intro xs
  induction xs with
  | nil => intro init; exact pure (by simp)
  | cons x xs ih =>
    intro init
    rw [List.foldlM_cons]
    refine bind (fun b => items b = items init ++ [g x]) (h_step init x) fun b h_b => ?_
    intro σ r σ' h_run
    rw [ih b σ r σ' h_run, h_b, List.map_cons, List.append_assoc, List.singleton_append]

theorem runFresh {α : Type} {m : CompileM α} {P : α → Prop} {a : α} (h_m : m.Ensures P)
    (h : m.runFresh = .ok a) : P a := by
  unfold CompileM.runFresh at h
  cases h_run : m.run.run {} with
  | mk r σ =>
    rw [h_run] at h
    cases h
    exact h_m {} a σ h_run

end CompileM.Ensures

namespace QueryContext

-- ============================================================================
-- The shape
-- ============================================================================

/-- The per-model shape aggregates two models or more, each on a join tree to the models the
    result is sliced by. -/
theorem shape_perModel {ctx : QueryContext} {parts : List (String × JoinPath)}
    (h : ctx.shape = .ok (.perModel parts)) :
    parts.map (·.1) = ctx.contributingModels ∧ 1 < ctx.contributingModels.length ∧
      ∀ p ∈ parts, ctx.graph.joinTree p.1 (ctx.slicingModels.filter (· != p.1)) = .ok p.2 := by
  unfold shape at h
  dsimp only at h
  split at h
  · rename_i h_many
    obtain ⟨parts', h_parts, h_done⟩ := Except.bind_eq_ok.mp h
    cases h_done
    refine ⟨mapM_ok_map ?_ h_parts, by simpa using (Bool.and_eq_true_iff.mp h_many).1, ?_⟩
    · intro m p h_p
      obtain ⟨path, -, h_done⟩ := Except.bind_eq_ok.mp h_p
      cases h_done
      rfl
    · intro p h_p
      obtain ⟨m, -, h_run⟩ := mapM_ok_of_mem h_parts p h_p
      obtain ⟨path, h_path, h_done⟩ := Except.bind_eq_ok.mp h_run
      cases h_done
      exact h_path
  · split at h
    · simp only [pure_bind] at h
      obtain ⟨path, -, h_done⟩ := Except.bind_eq_ok.mp h
      cases h_done
    · simp at h

/-- The inline shape joins its base, a model of the query, to every other model of the query. -/
theorem shape_inline {ctx : QueryContext} {base : String} {path : JoinPath}
    (h : ctx.shape = .ok (.inline base path)) :
    ctx.graph.joinTree base (ctx.models.filter (· != base)) = .ok path ∧
      (ctx.contributingModels.head? <|> ctx.models.head?) = some base := by
  unfold shape at h
  dsimp only at h
  split at h
  · obtain ⟨parts, -, h_done⟩ := Except.bind_eq_ok.mp h
    cases h_done
  · split at h
    · rename_i b h_b
      simp only [pure_bind] at h
      obtain ⟨path', h_path, h_done⟩ := Except.bind_eq_ok.mp h
      cases h_done
      exact ⟨h_path, h_b⟩
    · simp at h

-- ============================================================================
-- The grouped queries
-- ============================================================================

/-- `q` reads what `p` reads, and its select list starts with `pre`. -/
structure Grows (p : Query) (pre : List SelectItem) (q : Query) : Prop where
  ctes : q.ctes = p.ctes
  source : q.source = p.source
  joins : q.joins = p.joins
  select : ∃ rest, q.select = pre ++ rest

theorem Grows.append {p q : Query} {pre : List SelectItem} (h : Grows p pre q) (items : List SelectItem) :
    Grows p pre { q with select := q.select ++ items } := by
  obtain ⟨rest, h_rest⟩ := h.select
  exact ⟨h.ctes, h.source, h.joins, rest ++ items, by simp [h_rest]⟩

/-- The requested dimensions as a joined source gives them, in order. -/
def dimensionItems (ctx : QueryContext) (src : JoinedSource) : List SelectItem :=
  ctx.dimensions.map fun d => ⟨src.dimension d, some d.column⟩

/-- An inline query reads its joined source, the requested dimensions first. -/
theorem inlineQuery_spec {ctx : QueryContext} {base : String} {path : JoinPath} {q : Query}
    (h : ctx.inlineQuery base path = .ok q) :
    ∃ src, ctx.joinedSource base path = .ok src ∧
      Grows src.query (src.query.select ++ ctx.dimensionItems src) q := by
  unfold inlineQuery at h
  obtain ⟨src, h_src, h⟩ := Except.bind_eq_ok.mp h
  dsimp only at h
  refine ⟨src, h_src, CompileM.Ensures.runFresh ?_ h⟩
  -- metric columns are appended; grouping and conditions leave the select list as it is
  refine CompileM.Ensures.bind (Grows src.query (src.query.select ++ ctx.dimensionItems src))
    (CompileM.Ensures.foldlM ?_ _ _ ?_) fun q₁ h₁ => ?_
  · intro q₀ m h₀
    exact CompileM.Ensures.bind _ (CompileM.Ensures.trivial _) fun item _ =>
      CompileM.Ensures.pure (h₀.append [item])
  · exact ⟨rfl, rfl, rfl, [], by simp [dimensionItems, Function.comp_def]⟩
  · refine CompileM.Ensures.foldlM ?_ _ _ ?_
    · intro q₂ f h₂
      refine CompileM.Ensures.bind _ (CompileM.Ensures.trivial _) fun cond _ => CompileM.Ensures.pure ?_
      split
      · exact ⟨h₂.ctes, h₂.source, h₂.joins, h₂.select⟩
      · exact ⟨h₂.ctes, h₂.source, h₂.joins, h₂.select⟩
    · split
      · exact ⟨h₁.ctes, h₁.source, h₁.joins, h₁.select⟩
      · split
        · exact ⟨h₁.ctes, h₁.source, h₁.joins, h₁.select⟩
        · exact h₁

/-- The merged query of the per-model shape over its aggregate relations: it reads one of
    them, joins the others, and selects each dimension first, merged over all of them. -/
structure MergedQuery (ctx : QueryContext) (aggCtes : List (String × Query)) (q : Query) : Prop where
  ctes : q.ctes = aggCtes
  source : q.source = aggCtes.head?.map (fun e => (.named e.1, none))
  joins : ∀ j ∈ q.joins, ∃ e ∈ aggCtes, j.source = .named e.1
  select : ∃ rest, q.select = ctx.dimensions.map (fun d =>
    ⟨coalesce (aggCtes.map fun e => tableCol e.1 d.column), some d.column⟩) ++ rest

theorem MergedQuery.append {ctx : QueryContext} {aggCtes : List (String × Query)} {q : Query}
    (h : MergedQuery ctx aggCtes q) (items : List SelectItem) :
    MergedQuery ctx aggCtes { q with select := q.select ++ items } := by
  obtain ⟨rest, h_rest⟩ := h.select
  exact ⟨h.ctes, h.source, h.joins, rest ++ items, by simp [h_rest]⟩

/-- A per-model query: one aggregate relation for each aggregated model, which reads the model's
    joined source with the dimensions first, and the merged query over them. -/
theorem perModelQuery_spec {ctx : QueryContext} {parts : List (String × JoinPath)} {q : Query}
    (h : ctx.perModelQuery parts = .ok q) :
    ∃ aggCtes : List (String × Query),
      (∀ e ∈ aggCtes, ∃ p ∈ parts, e.1 = aggRelation p.1 ∧ ∃ src, ctx.joinedSource p.1 p.2 = .ok src ∧
        Grows src.query (src.query.select ++ ctx.dimensionItems src) e.2) ∧
      aggCtes.length = parts.length ∧ MergedQuery ctx aggCtes q := by
  unfold perModelQuery at h
  obtain ⟨⟨ctes, aggs⟩, h_fold, h⟩ := Except.bind_eq_ok.mp h
  -- each aggregated model adds one aggregate relation, named for it, over its joined source
  have h_aggs : aggs = ctes.map (·.1) ∧ ctes.length = 0 + parts.length ∧
      ∀ e ∈ ctes, ∃ p ∈ parts, e.1 = aggRelation p.1 ∧ ∃ src, ctx.joinedSource p.1 p.2 = .ok src ∧
        Grows src.query (src.query.select ++ ctx.dimensionItems src) e.2 := by
    refine foldlM_ok_count (fun n acc => acc.2 = acc.1.map (·.1) ∧ acc.1.length = n ∧
      ∀ e ∈ acc.1, ∃ p ∈ parts, e.1 = aggRelation p.1 ∧ ∃ src, ctx.joinedSource p.1 p.2 = .ok src ∧
        Grows src.query (src.query.select ++ ctx.dimensionItems src) e.2) parts ?_ 0 _ _
      ⟨rfl, rfl, by simp⟩ h_fold
    rintro n ⟨ctes₀, aggs₀⟩ ⟨model, path⟩ acc h_part ⟨h_names, h_len, h_good⟩ h_step
    obtain ⟨src, h_src, h_step⟩ := Except.bind_eq_ok.mp h_step
    obtain ⟨agg, h_agg, h_done⟩ := Except.bind_eq_ok.mp h_step
    cases h_done
    have h_grows : Grows src.query (src.query.select ++ ctx.dimensionItems src) agg := by
      refine foldlM_ok_invariant (Grows src.query (src.query.select ++ ctx.dimensionItems src))
        ?_ _ _ _ ?_ h_agg
      · intro agg₀ r agg₁ h₀ h_r
        obtain ⟨owner, -, h_r⟩ := Except.bind_eq_ok.mp h_r
        obtain ⟨e, -, h_r⟩ := Except.bind_eq_ok.mp h_r
        cases h_r
        exact h₀.append _
      · exact ⟨rfl, rfl, rfl, [], by simp [dimensionItems]⟩
    refine ⟨by simpa using h_names, by simpa using h_len, ?_⟩
    intro e h_e
    rcases List.mem_append.mp h_e with h_old | h_new
    · exact h_good e h_old
    · obtain rfl := List.mem_singleton.mp h_new
      refine ⟨(model, path), h_part, rfl, src, h_src, ?_⟩
      split
      · exact h_grows
      · exact ⟨h_grows.ctes, h_grows.source, h_grows.joins, h_grows.select⟩
  obtain ⟨rfl, h_len, h_good⟩ := h_aggs
  refine ⟨ctes, h_good, by simpa using h_len, ?_⟩
  dsimp only at h
  refine CompileM.Ensures.runFresh ?_ h
  -- metric columns are appended and metric conditions added; the rest stays
  refine CompileM.Ensures.bind (MergedQuery ctx ctes) (CompileM.Ensures.foldlM ?_ _ _ ?_)
    fun q₁ h₁ => CompileM.Ensures.foldlM ?_ _ _ h₁
  · intro q₀ m h₀
    exact CompileM.Ensures.bind _ (CompileM.Ensures.trivial _) fun item _ =>
      CompileM.Ensures.pure (h₀.append [item])
  · -- the joins of the other aggregate relations change only the joins
    refine ⟨?_, ?_, ?_, ⟨[], ?_⟩⟩
    · exact foldl_invariant (fun (acc : Query × List String) => acc.1.ctes = ctes) (fun _ _ _ h => h) rfl
    · refine (foldl_invariant (fun (acc : Query × List String) =>
        acc.1.source = (ctes.map (·.1)).head?.map fun a => (Source.named a, none)) ?_ ?_).trans ?_
      · exact fun _ _ _ h => h
      · rfl
      · simp [List.head?_map, Option.map_map, Function.comp_def]
    · refine foldl_invariant (fun (acc : Query × List String) =>
        ∀ j ∈ acc.1.joins, ∃ e ∈ ctes, j.source = .named e.1) ?_ (by simp)
      intro acc a h_a h_acc j h_j
      rcases List.mem_append.mp h_j with h_old | h_new
      · exact h_acc j h_old
      · -- the joined relation is one of the aggregate relations, with or without a condition
        obtain ⟨e, h_e, rfl⟩ := List.mem_map.mp (List.mem_of_mem_drop h_a)
        refine ⟨e, h_e, ?_⟩
        rw [List.mem_singleton.mp h_new]
        split <;> rfl
    · refine (congrArg (· ++ _) (foldl_invariant (fun (acc : Query × List String) => acc.1.select = [])
        ?_ ?_)).trans ?_
      · exact fun _ _ _ h => h
      · rfl
      · simp [Function.comp_def]
  · intro q₀ f h₀
    exact CompileM.Ensures.bind _ (CompileM.Ensures.trivial _) fun cond _ =>
      CompileM.Ensures.pure ⟨h₀.ctes, h₀.source, h₀.joins, h₀.select⟩

/-- A query with window metrics reads the grouped query as the relation `base`, and selects the
    dimensions from it first. -/
theorem windowQuery_spec {ctx : QueryContext} {grouped q : Query} (h : ctx.windowQuery grouped = .ok q) :
    Grows { ctes := grouped.ctes ++ [(baseRelation, { grouped with ctes := [] })],
            source := some (.named baseRelation, none) }
      (ctx.dimensions.map fun d => ⟨tableCol baseRelation d.column, some d.column⟩) q := by
  unfold windowQuery at h
  obtain ⟨⟨timeAlias, grain⟩, -, h⟩ := Except.bind_eq_ok.mp h
  dsimp only at h
  refine foldlM_ok_invariant _ ?_ _ _ _ ?_ h
  · -- a window metric or a plain one, each is one more column
    intro q₀ m q₁ h₀ h_m
    split at h_m
    · obtain ⟨e, -, h_m⟩ := Except.bind_eq_ok.mp h_m
      cases h_m
      exact h₀.append _
    · cases h_m
      exact h₀.append _
  · exact ⟨rfl, rfl, rfl, [], by simp⟩

-- ============================================================================
-- The built query
-- ============================================================================

/-- The last step of building: the grouped query, wrapped when there are window metrics, after
    the rows of the models. -/
theorem wrap_spec {ctx : QueryContext} {ctes : List (String × Query)} {grouped q : Query}
    (h : (do
      let q ← if ctx.hasWindowMetrics then ctx.windowQuery grouped else pure grouped
      pure { q with ctes := ctes ++ q.ctes } : Except Error Query) = .ok q) :
    ∃ top, (top = grouped ∨ ctx.windowQuery grouped = .ok top) ∧ q = { top with ctes := ctes ++ top.ctes } := by
  split at h
  · obtain ⟨top, h_top, h_done⟩ := Except.bind_eq_ok.mp h
    cases h_done
    exact ⟨top, .inr h_top, rfl⟩
  · cases h
    exact ⟨grouped, .inl rfl, rfl⟩

/-- A built query: the rows of the models of its join trees, then a grouped query of one of the
    two shapes, wrapped for window metrics when there are any. -/
theorem buildQuery_spec {ctx : QueryContext} {q : Query} (h : ctx.buildQuery = .ok q) :
    ∃ shape ctes grouped top, ctx.shape = .ok shape ∧ ctx.modelCtes shape = .ok ctes ∧
      ((∃ base path, shape = .inline base path ∧ ctx.inlineQuery base path = .ok grouped) ∨
        (∃ parts, shape = .perModel parts ∧ ctx.perModelQuery parts = .ok grouped)) ∧
      (top = grouped ∨ ctx.windowQuery grouped = .ok top) ∧
      q = { top with ctes := ctes ++ top.ctes } := by
  unfold buildQuery at h
  dsimp only at h
  split at h
  · simp at h
  · obtain ⟨shape, h_shape, h⟩ := Except.bind_eq_ok.mp h
    obtain ⟨ctes, h_ctes, h⟩ := Except.bind_eq_ok.mp h
    cases shape with
    | inline base path =>
      obtain ⟨grouped, h_grouped, h⟩ := Except.bind_eq_ok.mp h
      obtain ⟨top, h_top, rfl⟩ := wrap_spec h
      exact ⟨_, ctes, grouped, top, h_shape, h_ctes, .inl ⟨base, path, rfl, h_grouped⟩, h_top, rfl⟩
    | perModel parts =>
      obtain ⟨grouped, h_grouped, h⟩ := Except.bind_eq_ok.mp h
      obtain ⟨top, h_top, rfl⟩ := wrap_spec h
      exact ⟨_, ctes, grouped, top, h_shape, h_ctes, .inr ⟨parts, rfl, h_grouped⟩, h_top, rfl⟩

end QueryContext

end MetricLayer
