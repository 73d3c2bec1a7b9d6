import MetricLayer.Proofs.Graph.CanonicalNames
import MetricLayer.Validation.Metric
import Mathlib.Data.List.Chain
/-!
# Finding dependency cycles

Seen from a metric `m` in a context `c`, the dependencies form a graph on names
(`Graph.DependsOn`): the node of `m` has an edge to the name of each of its dependencies, and
every other node that names a metric of the graph has the edges of that metric's dependencies. A
name that resolves to no metric has no edges.

`Graph.findCycle` walks this graph depth first, marking names active while they are on the
current path and done once all they reach is explored. `Graph.MarksInv` is what holds of the
marks at every step: the active names are the path, a chain of edges from `m`; whatever a done
name reaches is done or has no edges; and no cycle passes through a done name. Meeting an
active name closes a cycle along the path; finishing the start with no such meeting leaves it
done, and then no cycle is reachable. Each nested visit puts a new name on the path, and the
names are `m`'s own and the canonical names of the graph's metrics, so the fuel the search is
given is enough.

All of it rests on canonical names standing for one metric each, which holds when no model name,
and not the context, has a dot (`Graph.DotFreeModels`).

Main statement: `Graph.findCycle_iff_cycle_reachable`.
-/

namespace MetricLayer.Graph

open Relation

@[simp] theorem lookup_mark_self (n : String) (x : Mark) (marks : List (String × Mark)) :
    ((n, x) :: marks).lookup n = some x := by
  simp

theorem lookup_mark_of_ne {n k : String} (h : n ≠ k) (x : Mark) (marks : List (String × Mark)) :
    ((k, x) :: marks).lookup n = marks.lookup n := by
  simp [List.lookup_cons, beq_eq_false_iff_ne.mpr h]

section Search

variable (g : Graph) (m : Metric) (c : Option String)

/-- The dependency edges seen from metric `m` in context `c`. The node of `m` has its own
dependencies; every other node that a reference resolves to has the resolved metric's. -/
inductive DependsOn : String → String → Prop
  | start {d : String} : d ∈ g.dependencies m c →
      DependsOn (m.canonicalIn c) (g.dependencyName d c)
  | resolved {ref : String} {ctx : Option String} {r : ResolvedMetric} {d : String} :
      g.resolveMetric ref ctx = .ok r → r.canonical ≠ m.canonicalIn c →
      d ∈ g.dependencies r.metric r.modelName →
      DependsOn r.canonical (g.dependencyName d r.modelName)

/-- A cycle of dependencies is reachable from `m`. -/
def CycleReachable : Prop :=
  ∃ n, ReflTransGen (g.DependsOn m c) (m.canonicalIn c) n ∧ TransGen (g.DependsOn m c) n n

/-- `path` is a dependency cycle reachable from `m`, written `[n, …, k, n]` with `n … k` distinct. -/
def IsCycleFrom (path : List String) : Prop :=
  ∃ n rest, path = n :: rest ++ [n] ∧ (n :: rest).Nodup ∧ List.IsChain (g.DependsOn m c) path ∧
    ReflTransGen (g.DependsOn m c) (m.canonicalIn c) n

/-- Name `n` stands for metric `x` seen in context `ctx`: it is the node of `m`, or another
name that a reference resolves to. -/
def NodeAt (n : String) (x : Metric) (ctx : Option String) : Prop :=
  (n = m.canonicalIn c ∧ x = m ∧ ctx = c) ∨
  (n ≠ m.canonicalIn c ∧ ∃ ref ctx₀ r, g.resolveMetric ref ctx₀ = .ok r ∧ r.canonical = n ∧
    r.metric = x ∧ r.modelName = ctx)

/-- A name is settled in `marks` when it is done, or has no edges. -/
def Settled (marks : List (String × Mark)) (w : String) : Prop :=
  marks.lookup w = some .done ∨ ∀ x, ¬ g.DependsOn m c w x

/-- The marks of the search while it visits the names of `path`, from the start on. -/
structure MarksInv (marks : List (String × Mark)) (path : List String) : Prop where
  /-- The names marked active are the names on the path. -/
  active_iff : ∀ n, marks.lookup n = some .active ↔ n ∈ path
  nodup : path.Nodup
  chain : List.IsChain (g.DependsOn m c) path
  start : ∀ n ∈ path.head?, n = m.canonicalIn c
  named : ∀ n ∈ path, n = m.canonicalIn c ∨ n ∈ g.metricNames
  /-- Whatever a done name reaches is settled. -/
  closed : ∀ v w, marks.lookup v = some .done → ReflTransGen (g.DependsOn m c) v w →
    g.Settled m c marks w
  /-- No cycle passes through a done name. -/
  acyclic : ∀ v, marks.lookup v = some .done → ¬ TransGen (g.DependsOn m c) v v

/-- `n` may be visited next along `path`: an edge leads to it from the path's end. -/
def Extends (path : List String) (n : String) : Prop :=
  List.IsChain (g.DependsOn m c) (path ++ [n]) ∧ (∀ x ∈ (path ++ [n]).head?, x = m.canonicalIn c) ∧
    (n = m.canonicalIn c ∨ n ∈ g.metricNames)

/-- What a visit of `n` from `marks` along `path` leaves when it finds no cycle: the invariant,
`n` done, and every name done before still done. -/
def Visited (marks : List (String × Mark)) (path : List String) (n : String)
    (marks' : List (String × Mark)) : Prop :=
  g.MarksInv m c marks' path ∧ marks'.lookup n = some .done ∧
    ∀ v, marks.lookup v = some .done → marks'.lookup v = some .done

/-- What a visit of `n`, seen in context `ctx`, keeps while it goes through `n`'s dependencies:
the invariant with `n` on the path, every name done before the visit still done, and the names
of the dependencies gone through, `pre`, settled. -/
def VisitProgress (marks : List (String × Mark)) (path : List String) (n : String)
    (ctx : Option String) (pre : List String) (marks' : List (String × Mark)) : Prop :=
  g.MarksInv m c marks' (path ++ [n]) ∧
    (∀ v, ((n, Mark.active) :: marks).lookup v = some .done → marks'.lookup v = some .done) ∧
    ∀ d ∈ pre, g.Settled m c marks' (g.dependencyName d ctx)

variable {g m c}

-- ============================================================================
-- The edges
-- ============================================================================

/-- The edges from a node are those of the dependencies of the metric it stands for. -/
theorem dependsOn_iff (h_models : g.DotFreeModels) {n w : String} {x : Metric}
    {ctx : Option String} (h : g.NodeAt m c n x ctx) :
    g.DependsOn m c n w ↔ ∃ d ∈ g.dependencies x ctx, w = g.dependencyName d ctx := by
  constructor
  · intro h_edge
    cases h_edge with
    | start h_d =>
      rcases h with ⟨-, rfl, rfl⟩ | ⟨h_ne, -⟩
      · exact ⟨_, h_d, rfl⟩
      · exact absurd rfl h_ne
    | resolved h_r h_ne h_d =>
      rcases h with ⟨h_eq, -⟩ | ⟨-, ref, ctx₀, r, h_r', h_canonical, rfl, rfl⟩
      · exact absurd h_eq h_ne
      · -- the name is the canonical name of both metrics, which are then one
        have h_same := Registered.eq_of_canonical h_models (resolveMetric_registered h_r')
          (resolveMetric_registered h_r) h_canonical
        subst h_same
        exact ⟨_, h_d, rfl⟩
  · -- rewriting is immediate where substituting the name would be slow
    rintro ⟨d, h_d, h_w⟩
    rw [h_w]
    rcases h with ⟨rfl, rfl, rfl⟩ | ⟨h_ne, ref, ctx₀, r, h_r, rfl, rfl, rfl⟩
    · exact .start h_d
    · exact .resolved h_r h_ne h_d

theorem NodeAt.context_dot_free (h_models : g.DotFreeModels) (h_c : ∀ name ∈ c, '.' ∉ name.toList)
    {n : String} {x : Metric} {ctx : Option String} (h : g.NodeAt m c n x ctx) :
    ∀ name ∈ ctx, '.' ∉ name.toList := by
  rcases h with ⟨-, -, rfl⟩ | ⟨-, ref, ctx₀, r, h_r, -, -, rfl⟩
  · exact h_c
  · exact (resolveMetric_registered h_r).modelName_dot_free h_models

/-- A dependency that resolves to nothing has no edges, unless it names `m` itself. -/
theorem not_dependsOn_of_error (h_models : g.DotFreeModels) {d n : String} {ctx : Option String}
    (h_ctx : ∀ name ∈ ctx, '.' ∉ name.toList) (h_trim : Text.trimBlank d = d) {e : Error}
    (h_err : g.resolveMetric d ctx = .error e) (h_n : n = g.dependencyName d ctx)
    (h_ne : n ≠ m.canonicalIn c) (w : String) : ¬ g.DependsOn m c n w := by
  intro h_edge
  cases h_edge with
  | start _ => exact h_ne rfl
  | resolved h_r _ _ =>
    exact dependencyName_ne_canonical h_models h_ctx h_trim h_err (resolveMetric_registered h_r)
      h_n.symm

theorem Settled.mono {marks marks' : List (String × Mark)} {w : String} (h : g.Settled m c marks w)
    (h_mono : ∀ v, marks.lookup v = some .done → marks'.lookup v = some .done) :
    g.Settled m c marks' w :=
  h.imp (h_mono w) id

/-- One more dependency settled, by marks that keep what was done. -/
theorem VisitProgress.snoc {marks marks' marks'' : List (String × Mark)} {path pre : List String}
    {n d : String} {ctx : Option String} (h : g.VisitProgress m c marks path n ctx pre marks')
    (h_inv : g.MarksInv m c marks'' (path ++ [n]))
    (h_mono : ∀ v, marks'.lookup v = some .done → marks''.lookup v = some .done)
    (h_new : g.Settled m c marks'' (g.dependencyName d ctx)) :
    g.VisitProgress m c marks path n ctx (pre ++ [d]) marks'' := by
  obtain ⟨-, h_done, h_settled⟩ := h
  refine ⟨h_inv, fun v h_v => h_mono v (h_done v h_v), ?_⟩
  intro d' h_d'
  rcases List.mem_append.mp h_d' with h_d' | h_d'
  · exact (h_settled d' h_d').mono h_mono
  · rw [List.mem_singleton.mp h_d']
    exact h_new

theorem done_of_cons_done {marks : List (String × Mark)} (n : String) :
    ∀ v, marks.lookup v = some .done → ((n, Mark.done) :: marks).lookup v = some .done := by
  intro v h_v
  by_cases h_eq : v = n
  · subst h_eq
    exact lookup_mark_self _ _ _
  · rw [lookup_mark_of_ne h_eq]
    exact h_v

-- ============================================================================
-- The invariant, step by step
-- ============================================================================

theorem MarksInv.empty : g.MarksInv m c [] [] where
  active_iff _ := by simp
  nodup := List.nodup_nil
  chain := List.IsChain.nil
  start _ h := by simp at h
  named _ h := by simp at h
  closed _ _ h := by simp at h
  acyclic _ h := by simp at h

/-- The path holds distinct names, each `m`'s or a metric's, so it is no longer than the
number of metrics and one. -/
theorem MarksInv.length_le {marks : List (String × Mark)} {path : List String}
    (h : g.MarksInv m c marks path) : path.length ≤ g.metricCount + 1 := by
  have h_sub : path ⊆ m.canonicalIn c :: g.metricNames := by
    intro n h_n
    rcases h.named n h_n with h_eq | h_mem
    · exact h_eq ▸ List.mem_cons_self
    · exact List.mem_cons_of_mem _ h_mem
  have h_le := h.nodup.length_le_of_subset h_sub
  rwa [List.length_cons, metricNames_length] at h_le

/-- Marking a fresh name active as the path's next keeps the invariant. -/
theorem MarksInv.push {marks : List (String × Mark)} {path : List String} {n : String}
    (h : g.MarksInv m c marks path) (h_fresh : marks.lookup n = none) (h_ext : g.Extends m c path n) :
    g.MarksInv m c ((n, .active) :: marks) (path ++ [n]) where
  active_iff k := by
    by_cases h_k : k = n
    · subst h_k
      simp
    · rw [lookup_mark_of_ne h_k, h.active_iff]
      simp [h_k]
  nodup := by
    refine List.nodup_append.mpr ⟨h.nodup, by simp, ?_⟩
    rintro a h_a b h_b rfl
    rw [List.mem_singleton.mp h_b] at h_a
    have h_active := (h.active_iff n).mpr h_a
    rw [h_fresh] at h_active
    cases h_active
  chain := h_ext.1
  start := h_ext.2.1
  named k h_k := by
    rcases List.mem_append.mp h_k with h_k | h_k
    · exact h.named k h_k
    · rw [List.mem_singleton.mp h_k]
      exact h_ext.2.2
  closed v w h_v h_reach := by
    have h_v_ne : v ≠ n := by
      rintro rfl
      simp at h_v
    rw [lookup_mark_of_ne h_v_ne] at h_v
    refine (h.closed v w h_v h_reach).mono fun u h_u => ?_
    have h_u_ne : u ≠ n := by
      rintro rfl
      rw [h_fresh] at h_u
      cases h_u
    rwa [lookup_mark_of_ne h_u_ne]
  acyclic v h_v := by
    have h_v_ne : v ≠ n := by
      rintro rfl
      simp at h_v
    rw [lookup_mark_of_ne h_v_ne] at h_v
    exact h.acyclic v h_v

/-- Marking the path's last name done, once its edges all lead to settled names, keeps the
invariant. -/
theorem MarksInv.finish {marks : List (String × Mark)} {path : List String} {n : String}
    (h : g.MarksInv m c marks (path ++ [n]))
    (h_succ : ∀ w, g.DependsOn m c n w → g.Settled m c marks w) :
    g.MarksInv m c ((n, .done) :: marks) path where
  active_iff k := by
    by_cases h_k : k = n
    · subst h_k
      have h_not_mem : k ∉ path := fun h_mem =>
        (List.nodup_append.mp h.nodup).2.2 k h_mem k (List.mem_singleton_self k) rfl
      simp [h_not_mem]
    · rw [lookup_mark_of_ne h_k, h.active_iff]
      simp [h_k]
  nodup := (List.nodup_append.mp h.nodup).1
  chain := h.chain.left_of_append
  start k h_k := by
    cases path with
    | nil => simp at h_k
    | cons a rest => exact h.start k (by simpa using h_k)
  named k h_k := h.named k (List.mem_append_left _ h_k)
  closed v w h_v h_reach := by
    by_cases h_v_n : v = n
    · subst h_v_n
      -- the first edge from `v` leads to a settled name
      rcases h_reach.cases_head with rfl | ⟨w₁, h_step, h_rest⟩
      · exact .inl (lookup_mark_self _ _ _)
      · rcases h_succ w₁ h_step with h_w₁ | h_w₁
        · exact (h.closed w₁ w h_w₁ h_rest).mono (done_of_cons_done v)
        · rcases h_rest.cases_head with rfl | ⟨w₂, h_step₂, -⟩
          · exact .inr h_w₁
          · exact absurd h_step₂ (h_w₁ w₂)
    · rw [lookup_mark_of_ne h_v_n] at h_v
      exact (h.closed v w h_v h_reach).mono (done_of_cons_done n)
  acyclic v h_v := by
    by_cases h_v_n : v = n
    · subst h_v_n
      intro h_cycle
      obtain ⟨w₁, h_step, h_back⟩ := TransGen.head'_iff.mp h_cycle
      -- `v` is still active in `marks`, and has an edge, so it is not settled there
      have h_active : marks.lookup v = some .active :=
        (h.active_iff v).mpr (List.mem_append_right _ (List.mem_singleton_self v))
      rcases h_succ w₁ h_step with h_w₁ | h_w₁
      · rcases h.closed w₁ v h_w₁ h_back with h_v | h_v
        · rw [h_active] at h_v
          cases h_v
        · exact h_v w₁ h_step
      · rcases h_back.cases_head with rfl | ⟨w₂, h_step₂, -⟩
        · exact h_w₁ w₁ h_step
        · exact h_w₁ w₂ h_step₂
    · rw [lookup_mark_of_ne h_v_n] at h_v
      exact h.acyclic v h_v

theorem MarksInv.extends {marks : List (String × Mark)} {path : List String} {n w : String}
    (h : g.MarksInv m c marks (path ++ [n])) (h_edge : g.DependsOn m c n w)
    (h_named : w ∈ g.metricNames) : g.Extends m c (path ++ [n]) w := by
  refine ⟨h.chain.append (List.isChain_singleton w) ?_, fun x h_x => h.start x ?_, .inr h_named⟩
  · intro x h_x y h_y
    simp only [List.getLast?_append, List.getLast?_singleton, Option.some_or,
      Option.mem_def, Option.some.injEq] at h_x
    simp only [List.head?_cons, Option.mem_def, Option.some.injEq] at h_y
    subst h_x h_y
    exact h_edge
  · simpa [List.head?_append] using h_x

/-- Meeting an active name from the path's end closes a cycle: the path from that name on. -/
theorem MarksInv.cycle {marks : List (String × Mark)} {path : List String} {n : String}
    (h : g.MarksInv m c marks path) (h_n : n ∈ path)
    (h_last : ∀ x ∈ path.getLast?, g.DependsOn m c x n) :
    g.IsCycleFrom m c (path.dropWhile (· != n) ++ [n]) := by
  obtain ⟨pre, post, rfl⟩ := List.append_of_mem h_n
  have h_pre : n ∉ pre := fun h_mem =>
    (List.nodup_append.mp h.nodup).2.2 n h_mem n List.mem_cons_self rfl
  have h_drop : (pre ++ n :: post).dropWhile (· != n) = n :: post := by
    have h_pre_ne : ∀ a ∈ pre, (a != n) = true := by
      intro a h_a
      refine bne_iff_ne.mpr ?_
      rintro rfl
      exact h_pre h_a
    rw [List.dropWhile_append_of_pos h_pre_ne]
    simp
  rw [h_drop]
  refine ⟨n, post, rfl, (List.nodup_append.mp h.nodup).2.1, ?_, ?_⟩
  · -- the path from `n` on, then the edge back to `n`
    refine h.chain.right_of_append.append (List.isChain_singleton n) ?_
    intro x h_x y h_y
    simp only [List.head?_cons, Option.mem_def, Option.some.injEq] at h_y
    subst h_y
    apply h_last
    simpa [List.getLast?_append] using h_x
  · -- the path up to `n` leads there from the start
    have h_chain : List.IsChain (g.DependsOn m c) (pre ++ [n]) := by
      have := h.chain
      rw [← List.singleton_append, ← List.append_assoc] at this
      exact this.left_of_append
    have h_reach := List.relationReflTransGen_of_exists_isChain (pre ++ [n]) h_chain (by simp)
    have h_head : (pre ++ [n]).head (by simp) = m.canonicalIn c := by
      apply h.start
      cases pre <;> simp
    simpa [h_head] using h_reach

-- ============================================================================
-- The search
-- ============================================================================

/-- A visit from marks with the invariant, of a fresh name that extends the path, with fuel for
the names still to be put on it, finds a reachable cycle or finishes the name. -/
theorem visitCycle_meets (h_models : g.DotFreeModels) (h_c : ∀ name ∈ c, '.' ∉ name.toList) :
    ∀ (fuel : Nat) {n : String} {x : Metric} {ctx : Option String}
      {marks : List (String × Mark)} {path : List String},
      g.NodeAt m c n x ctx → g.MarksInv m c marks path → marks.lookup n = none →
      g.Extends m c path n → g.metricCount + 2 ≤ fuel + path.length →
      Except.Meets (g.Visited m c marks path n) (g.IsCycleFrom m c)
        (g.visitCycle fuel n x ctx marks path) := by
  intro fuel
  induction fuel with
  | zero =>
    -- no path is long enough to leave the search without fuel
    intro n x ctx marks path _ h_inv h_fresh h_ext h_fuel
    have h_len := (h_inv.push h_fresh h_ext).length_le
    rw [List.length_append, List.length_singleton] at h_len
    omega
  | succ fuel ih =>
    intro n x ctx marks path h_node h_inv h_fresh h_ext h_fuel
    have h_pushed := h_inv.push h_fresh h_ext
    have h_ctx := h_node.context_dot_free h_models h_c
    -- the start is on the path, so it is marked through the whole visit
    have h_start_on : m.canonicalIn c ∈ path ++ [n] := by
      have h_head := h_ext.2.1
      cases h_path : path ++ [n] with
      | nil => simp at h_path
      | cons k rest =>
        rw [h_path] at h_head
        rw [h_head k rfl]
        exact List.mem_cons_self
    rw [visitCycle]
    refine Except.Meets.bind (foldlM_meets (g.VisitProgress m c marks path n ctx)
      (g.IsCycleFrom m c) _ ?_ _ ⟨h_pushed, fun _ h => h, by simp⟩) ?_
    · -- one dependency
      intro pre marks' d h_d h_progress
      have h_inv' : g.MarksInv m c marks' (path ++ [n]) := h_progress.1
      have h_edge : g.DependsOn m c n (g.dependencyName d ctx) :=
        (dependsOn_iff h_models h_node).mpr ⟨d, h_d, rfl⟩
      dsimp only
      split
      · -- an active name: the cycle along the path
        rename_i h_active
        exact h_inv'.cycle ((h_inv'.active_iff _).mp h_active) (by simpa using h_edge)
      · -- a done name
        rename_i h_done
        exact h_progress.snoc h_inv' (fun _ h => h) (.inl h_done)
      · -- a fresh name: visit the metric it resolves to, or pass a name that resolves to nothing
        rename_i h_none
        have h_ne_start : g.dependencyName d ctx ≠ m.canonicalIn c := by
          intro h_eq
          have h_active := (h_inv'.active_iff _).mpr (h_eq ▸ h_start_on)
          rw [h_none] at h_active
          cases h_active
        split
        · rename_i r h_r
          have h_name := dependencyName_of_ok h_r
          have h_visit := @ih (g.dependencyName d ctx) r.metric r.modelName marks' (path ++ [n])
            (.inr ⟨h_ne_start, d, ctx, r, h_r, h_name.symm, rfl, rfl⟩) h_inv' h_none
            (h_inv'.extends h_edge (h_name ▸ (resolveMetric_registered h_r).canonical_mem))
            (by rw [List.length_append, List.length_singleton]; omega)
          exact h_visit.mono fun marks'' ⟨h_inv'', h_done, h_mono''⟩ =>
            h_progress.snoc h_inv'' h_mono'' (.inl h_done)
        · rename_i e h_err
          exact h_progress.snoc h_inv' (fun _ h => h) (.inr (not_dependsOn_of_error h_models h_ctx
            (trimBlank_of_mem_dependencies h_d) h_err rfl h_ne_start))
    · -- all dependencies settled: finish the name
      rintro marks' ⟨h_inv', h_mono, h_settled⟩
      refine ⟨h_inv'.finish fun w h_w => ?_, lookup_mark_self _ _ _, fun v h_v => ?_⟩
      · obtain ⟨d, h_d, h_eq⟩ := (dependsOn_iff h_models h_node).mp h_w
        rw [h_eq]
        exact h_settled d h_d
      · have h_v_ne : v ≠ n := by
          rintro rfl
          rw [h_fresh] at h_v
          cases h_v
        rw [lookup_mark_of_ne h_v_ne]
        exact h_mono v (by rwa [lookup_mark_of_ne h_v_ne])

/-- The search from `m` finds a reachable cycle, or finishes with no cycle reachable. -/
theorem visitCycle_start (h_models : g.DotFreeModels) (h_c : ∀ name ∈ c, '.' ∉ name.toList) :
    Except.Meets (fun _ => ¬ g.CycleReachable m c) (g.IsCycleFrom m c)
      (g.visitCycle (g.metricCount + 2) (m.canonicalIn c) m c [] []) := by
  have h_ext : g.Extends m c [] (m.canonicalIn c) :=
    ⟨List.isChain_singleton _, by simp, .inl rfl⟩
  refine (visitCycle_meets h_models h_c _ (.inl ⟨rfl, rfl, rfl⟩) MarksInv.empty rfl h_ext
    (by simp)).mono ?_
  rintro marks ⟨h_inv, h_done, -⟩ ⟨n, h_reach, h_cycle⟩
  -- everything the start reaches is settled; a name on a cycle has an edge, so it is done
  rcases h_inv.closed _ n h_done h_reach with h_n | h_n
  · exact h_inv.acyclic n h_n h_cycle
  · obtain ⟨w, h_step, -⟩ := TransGen.head'_iff.mp h_cycle
    exact h_n w h_step

/-- A cycle that the search returns is a reachable cycle. -/
theorem IsCycleFrom.reachable {path : List String} (h : g.IsCycleFrom m c path) :
    g.CycleReachable m c := by
  obtain ⟨n, rest, rfl, -, h_chain, h_reach⟩ := h
  refine ⟨n, h_reach, ?_⟩
  -- the first edge out of `n`, then the chain back to it
  rw [List.cons_append] at h_chain
  cases h_list : rest ++ [n] with
  | nil => simp at h_list
  | cons y tail =>
    rw [h_list] at h_chain
    obtain ⟨h_first, h_tail⟩ := List.isChain_cons_cons.mp h_chain
    have h_last : (y :: tail).getLast (List.cons_ne_nil _ _) = n := by
      simp [← h_list]
    exact TransGen.head' h_first (List.relationReflTransGen_of_exists_isChain_cons tail h_tail h_last)

end Search

-- ============================================================================
-- What the checks of a metric report
-- ============================================================================

@[simp] theorem toString_string (s : String) : toString s = s := rfl

/-- A message of the checks of `m` that says it depends on itself: that it names itself, or the
cycle it is on. -/
def CycleMessage (m : Metric) (p : String) : Prop :=
  p = s!"{m.kind.label} '{m.name}' cannot reference itself" ∨
  ∃ cycle : List String,
    p = s!"{m.kind.label} '{m.name}' has circular dependency: " ++ " -> ".intercalate cycle

/-- Every message names the metric first; one that goes on otherwise than the two cycle messages
within ten characters is no cycle message. -/
theorem not_cycleMessage {m : Metric} {s : String}
    (h_self : s.toList.take 10 ≠ "' cannot r".toList)
    (h_cycle : s.toList.take 10 ≠ "' has circ".toList) :
    ¬ CycleMessage m (m.kind.label ++ (" '" ++ (m.name ++ s))) := by
  rintro (h_eq | ⟨cycle, h_eq⟩)
  · simp only [toString_string, String.append_assoc, String.append_right_inj] at h_eq
    exact h_self (by simp [h_eq])
  · simp only [toString_string, String.append_assoc, String.append_right_inj] at h_eq
    exact h_cycle (by simp [h_eq])

theorem not_cycleMessage_of_mem_shapeProblems {g : Graph} {m : Metric} {c : Option String}
    {p : String} (h : p ∈ g.shapeProblems m c) : ¬ CycleMessage m p := by
  unfold shapeProblems at h
  -- every message names the metric first; bring them all to that form once
  simp only [toString_string, String.append_assoc] at h
  split at h
  · -- a simple metric
    simp only [List.mem_append, List.mem_ite_nil_right, List.mem_singleton] at h
    rcases h with ⟨-, rfl⟩ | ⟨-, rfl⟩
    all_goals exact not_cycleMessage (by simp) (by simp)
  · -- a ratio
    simp only [List.mem_append, List.mem_ite_nil_right, List.mem_singleton] at h
    rcases h with (⟨-, rfl⟩ | ⟨-, rfl⟩) | h_operand
    · exact not_cycleMessage (by simp) (by simp)
    · exact not_cycleMessage (by simp) (by simp)
    · obtain ⟨⟨role, operand⟩, -, h_some⟩ := List.mem_filterMap.mp h_operand
      obtain ⟨reference, -, h_found⟩ := Option.bind_eq_some_iff.mp h_some
      split at h_found
      · cases h_found
        exact not_cycleMessage (by simp) (by simp)
      · cases h_found
  · -- a derived metric
    simp only [List.mem_ite_nil_right, List.mem_singleton] at h
    obtain ⟨-, rfl⟩ := h
    exact not_cycleMessage (by simp) (by simp)
  · -- a cumulative metric
    rcases List.mem_append.mp h with h | h
    · simp only [List.mem_ite_nil_right, List.mem_singleton] at h
      obtain ⟨-, rfl⟩ := h
      exact not_cycleMessage (by simp) (by simp)
    · split at h
      · rcases List.mem_append.mp h with h | h
        · split at h
          · rw [List.mem_singleton] at h
            subst h
            exact not_cycleMessage (by simp) (by simp)
          · cases h
        · simp only [List.mem_ite_nil_right, List.mem_singleton] at h
          obtain ⟨-, rfl⟩ := h
          exact not_cycleMessage (by simp) (by simp)
      · cases h
  · -- a comparison
    split at h
    · rw [List.mem_singleton] at h
      subst h
      exact not_cycleMessage (by simp) (by simp)
    · rcases List.mem_append.mp h with h | h
      · split at h
        · rw [List.mem_singleton] at h
          subst h
          exact not_cycleMessage (by simp) (by simp)
        · cases h
      · simp only [List.mem_ite_nil_left, List.mem_singleton] at h
        obtain ⟨-, rfl⟩ := h
        exact not_cycleMessage (by simp) (by simp)
  · -- a conversion
    simp only [List.mem_ite_nil_right, List.mem_singleton] at h
    obtain ⟨-, rfl⟩ := h
    exact not_cycleMessage (by simp) (by simp)

/-- The checks of a metric's dependencies report it depending on itself exactly when a
dependency is named like it, or the search finds a cycle. -/
theorem cycleMessage_dependencyProblems {g : Graph} {m : Metric} {c : Option String} :
    (∃ p ∈ g.dependencyProblems m c, CycleMessage m p) ↔
      ((g.dependencies m c).any (fun d => g.dependencyName d c == m.canonicalIn c) ∨
        ∃ path, g.findCycle m c = some path) := by
  unfold dependencyProblems
  dsimp only
  split
  · rename_i h_self
    simp only [List.mem_singleton, exists_eq_left, h_self, true_or, iff_true]
    exact .inl rfl
  · rename_i h_self
    simp only [h_self, Bool.false_eq_true, false_or]
    constructor
    · rintro ⟨p, h_p, h_msg⟩
      rcases List.mem_append.mp h_p with h_p | h_p
      · -- no message about an unknown metric reads as a cycle
        split at h_p
        · obtain ⟨d, -, rfl⟩ := List.mem_map.mp h_p
          simp only [toString_string, String.append_assoc] at h_msg
          exact absurd h_msg (not_cycleMessage (by simp) (by simp))
        · cases h_p
      · split at h_p
        · exact ⟨_, by assumption⟩
        · cases h_p
    · rintro ⟨path, h_path⟩
      refine ⟨_, List.mem_append_right _ ?_, .inr ⟨path, rfl⟩⟩
      rw [h_path]
      exact List.mem_singleton_self _

/-- `Graph.findCycle` is a sound and complete detector of the dependency cycles reachable from a
metric, when no model name and not the context has a dot: what it returns is a cycle
`[n, …, k, n]` along dependency edges with `n … k` distinct, reachable from the metric; it
returns one exactly when such a cycle exists; and the checks of the metric report a self-reference
or a circular dependency exactly then. -/
theorem findCycle_iff_cycle_reachable {g : Graph} {m : Metric} {c : Option String}
    (h_models : g.DotFreeModels) (h_context : ∀ name ∈ c, '.' ∉ name.toList) :
    (∀ path, g.findCycle m c = some path → g.IsCycleFrom m c path) ∧
    ((∃ path, g.findCycle m c = some path) ↔ g.CycleReachable m c) ∧
    ((∃ problems, g.validateMetric m c = .error (.metricInvalid m.name problems) ∧
      ∃ p ∈ problems, CycleMessage m p) ↔ g.CycleReachable m c) := by
  have h_run := visitCycle_start (m := m) h_models h_context
  have h_sound : ∀ path, g.findCycle m c = some path → g.IsCycleFrom m c path := by
    intro path h_path
    unfold findCycle at h_path
    split at h_path
    · rename_i cycle h_cycle
      cases h_path
      rw [h_cycle] at h_run
      exact h_run
    · cases h_path
  have h_found : (∃ path, g.findCycle m c = some path) ↔ g.CycleReachable m c := by
    constructor
    · rintro ⟨path, h_path⟩
      exact (h_sound path h_path).reachable
    · intro h_reach
      unfold findCycle
      split
      · exact ⟨_, rfl⟩
      · rename_i marks h_ok
        rw [h_ok] at h_run
        exact absurd h_reach h_run
  refine ⟨h_sound, h_found, ?_⟩
  -- a dependency named like the metric is an edge from its node to itself
  have h_self : (g.dependencies m c).any (fun d => g.dependencyName d c == m.canonicalIn c) →
      g.CycleReachable m c := by
    intro h_any
    obtain ⟨d, h_d, h_eq⟩ := List.any_eq_true.mp h_any
    have h_edge := DependsOn.start (g := g) (m := m) (c := c) h_d
    rw [beq_iff_eq.mp h_eq] at h_edge
    exact ⟨_, .refl, .single h_edge⟩
  constructor
  · rintro ⟨problems, h_valid, p, h_p, h_msg⟩
    -- the problems reported are the metric's problems
    have h_eq : problems = g.metricProblems m c := by
      unfold validateMetric at h_valid
      cases h_probs : g.metricProblems m c with
      | nil => simp [h_probs] at h_valid
      | cons q qs =>
        simp [h_probs] at h_valid
        exact h_valid.symm
    rw [h_eq] at h_p
    rcases List.mem_append.mp h_p with h_shape | h_dep
    · exact absurd h_msg (not_cycleMessage_of_mem_shapeProblems h_shape)
    · rcases cycleMessage_dependencyProblems.mp ⟨p, h_dep, h_msg⟩ with h_any | h_path
      · exact h_self h_any
      · exact h_found.mp h_path
  · intro h_reach
    obtain ⟨p, h_p, h_msg⟩ :=
      cycleMessage_dependencyProblems.mpr (.inr (h_found.mpr h_reach))
    have h_mem : p ∈ g.metricProblems m c := List.mem_append_right _ h_p
    refine ⟨g.metricProblems m c, ?_, p, h_mem, h_msg⟩
    unfold validateMetric
    split
    · rename_i h_nil
      rw [h_nil] at h_mem
      cases h_mem
    · rfl

end MetricLayer.Graph

namespace MetricLayer

open MetricLayer.Graph

/-- Net revenue is gross revenue less refunds, and gross revenue is net revenue plus refunds. -/
def netRevenue : Metric :=
  { name := "net_revenue", kind := .derived, sql := some "orders.gross_revenue - orders.refunds" }

def loopingOrders : Model :=
  { name := "orders", table := some "orders", primaryKey := "id",
    metrics := [{ name := "refunds", agg := some .sum, sql := some "refund_amount" },
      { name := "gross_revenue", kind := .derived, sql := some "orders.net_revenue + orders.refunds" },
      netRevenue] }

def loopingGraph : Graph := { models := [loopingOrders] }

/-- The search returns the loop through net and gross revenue, so a cycle is reachable. -/
theorem netRevenue_loop_reachable :
    loopingGraph.DotFreeModels ∧ (∀ name ∈ some "orders", '.' ∉ name.toList) ∧
      loopingGraph.CycleReachable netRevenue (some "orders") := by
  have h_models : loopingGraph.DotFreeModels := by decide
  have h_context : ∀ name ∈ some "orders", '.' ∉ name.toList := by decide
  have h_found : loopingGraph.findCycle netRevenue (some "orders") =
      some ["orders.net_revenue", "orders.gross_revenue", "orders.net_revenue"] := by
    decide +kernel
  exact ⟨h_models, h_context,
    (findCycle_iff_cycle_reachable h_models h_context).2.1.mp ⟨_, h_found⟩⟩

/-- A model named `a.b`, with a sum `x`. -/
def nestedAb : Model :=
  { name := "a.b", table := some "ab", primaryKey := "id",
    metrics := [{ name := "x", agg := some .sum, sql := some "amount" }] }

/-- Metric `b.x` of model `a`: `a.b.x` divided by itself. -/
def selfRatio : Metric :=
  { name := "b.x", kind := .ratio, numerator := some "a.b.x", denominator := some "a.b.x" }

def outerA : Model := { name := "a", table := some "a", primaryKey := "id", metrics := [selfRatio] }

def dottedGraph : Graph := { models := [nestedAb, outerA] }

/-- `x` over `a.b.x`, seen in model `a.b`. -/
def xOverAbx : Metric :=
  { name := "s", kind := .ratio, numerator := some "x", denominator := some "a.b.x" }

/-- With a dot in a model name, `a.b.x` names both the sum `x` of model `a.b` and the ratio `b.x`
of model `a`, which depends on itself. From `s` in `a.b` the search reaches `a.b.x` through the
sum, finishes it, and never follows the ratio's loop that the name also stands for. -/
theorem dottedModel_cycle_missed :
    dottedGraph.findCycle xOverAbx (some "a.b") = none ∧
      dottedGraph.CycleReachable xOverAbx (some "a.b") := by
  have h_resolved : dottedGraph.resolveMetric (outerA.name ++ "." ++ selfRatio.name) none =
      .ok ⟨some outerA, selfRatio⟩ :=
    resolveMetric_qualified (by decide) (by decide) rfl rfl
  have h_name : outerA.name ++ "." ++ selfRatio.name = "a.b.x" := by decide
  rw [h_name] at h_resolved
  -- the ratio's edge back to its own name, and the edge into that name from `s`
  have h_loop := DependsOn.resolved (m := xOverAbx) (c := some "a.b") (d := "a.b.x") h_resolved
    (by decide) (by decide +kernel)
  have h_enter := DependsOn.start (g := dottedGraph) (m := xOverAbx) (c := some "a.b")
    (d := "a.b.x") (by decide +kernel)
  have h_to : dottedGraph.dependencyName "a.b.x" (some "a.b") = "a.b.x" := by decide +kernel
  have h_back : dottedGraph.dependencyName "a.b.x" (some "a") = "a.b.x" := by decide +kernel
  have h_canonical : (⟨some outerA, selfRatio⟩ : ResolvedMetric).canonical = "a.b.x" := by decide
  simp only [ResolvedMetric.modelName, Option.map_some, h_canonical] at h_loop
  rw [h_to] at h_enter
  rw [show outerA.name = "a" from rfl, h_back] at h_loop
  exact ⟨by decide +kernel, "a.b.x", .single h_enter, .single h_loop⟩

end MetricLayer
