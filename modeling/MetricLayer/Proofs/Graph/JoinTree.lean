import MetricLayer.Graph.Join
import MetricLayer.Proofs.Outcome
/-!
# What a join tree reaches

`Graph.findPath` walks the graph's edges, so every join of a path it returns is an edge, and a
path between two different models ends at the target. `Graph.joinTree` merges such paths,
keeping each join that reaches a new model: every join of a tree is an edge of the graph, and
every target is the root or the target of one of its joins.

Main statements: `Graph.findPath_sound`, `Graph.joinTree_sound`.
-/

namespace MetricLayer.Graph

-- ============================================================================
-- The search
-- ============================================================================

/-- A path found while expanding a node is the node's path and one of its edges, to the goal. -/
theorem expand_found {goal : String} {path es : List JoinStep} {queue : List (String × List JoinStep)}
    {visited : List String} {found : List JoinStep}
    (h : expand goal path es queue visited = .inl found) :
    ∃ e ∈ es, found = path ++ [e] ∧ e.target = goal := by
  induction es generalizing queue visited with
  | nil => simp [expand] at h
  | cons e es ih =>
    unfold expand at h
    split at h
    · obtain ⟨e', h_mem, h_found⟩ := ih h
      exact ⟨e', List.mem_cons_of_mem _ h_mem, h_found⟩
    · split at h
      · rename_i h_goal
        cases h
        exact ⟨e, List.mem_cons_self, rfl, by simpa using h_goal⟩
      · obtain ⟨e', h_mem, h_found⟩ := ih h
        exact ⟨e', List.mem_cons_of_mem _ h_mem, h_found⟩

/-- Expanding a node queues, besides what was queued, the node's path extended by its edges. -/
theorem expand_queued {goal : String} {path es : List JoinStep} {queue queue' : List (String × List JoinStep)}
    {visited visited' : List String} (h : expand goal path es queue visited = .inr (queue', visited')) :
    ∀ p ∈ queue', p ∈ queue ∨ ∃ e ∈ es, p = (e.target, path ++ [e]) := by
  induction es generalizing queue visited with
  | nil =>
    simp only [expand, Sum.inr.injEq, Prod.mk.injEq] at h
    obtain ⟨rfl, -⟩ := h
    exact fun p hp => .inl hp
  | cons e es ih =>
    unfold expand at h
    split at h
    · intro p hp
      rcases ih h p hp with h_old | ⟨e', h_mem, h_eq⟩
      · exact .inl h_old
      · exact .inr ⟨e', List.mem_cons_of_mem _ h_mem, h_eq⟩
    · split at h
      · cases h
      · intro p hp
        rcases ih h p hp with h_old | ⟨e', h_mem, h_eq⟩
        · rcases List.mem_append.mp h_old with h_old | h_new
          · exact .inl h_old
          · exact .inr ⟨e, List.mem_cons_self, by simpa using h_new⟩
        · exact .inr ⟨e', List.mem_cons_of_mem _ h_mem, h_eq⟩

/-- A path the search returns is made of edges, when the queued paths are, and ends at the
    goal. -/
theorem search_sound {edges : List JoinStep} {goal : String} {fuel : Nat}
    {queue : List (String × List JoinStep)} {visited : List String} {steps : List JoinStep}
    (h : search edges goal fuel queue visited = some steps)
    (h_queue : ∀ p ∈ queue, p.2 ⊆ edges) :
    steps ⊆ edges ∧ ∃ pre e, steps = pre ++ [e] ∧ e.target = goal := by
  induction fuel generalizing queue visited with
  | zero => simp [search] at h
  | succ fuel ih =>
    match queue, h_queue with
    | [], _ => simp [search] at h
    | (node, path) :: queue, h_queue =>
      have h_path : path ⊆ edges := h_queue (node, path) List.mem_cons_self
      simp only [search] at h
      split at h
      · -- the goal is an edge of the node
        rename_i found h_found
        cases h
        obtain ⟨e, h_mem, rfl, h_target⟩ := expand_found h_found
        have h_edge : e ∈ edges := (List.mem_filter.mp h_mem).1
        exact ⟨List.append_subset.mpr ⟨h_path, List.cons_subset.mpr ⟨h_edge, List.nil_subset _⟩⟩, path, e, rfl, h_target⟩
      · rename_i queue' visited' h_next
        refine ih h fun p hp => ?_
        rcases expand_queued h_next p hp with h_old | ⟨e, h_mem, rfl⟩
        · exact h_queue p (List.mem_cons_of_mem _ h_old)
        · exact List.append_subset.mpr ⟨h_path, List.cons_subset.mpr ⟨(List.mem_filter.mp h_mem).1, List.nil_subset _⟩⟩

/-- A path between two models is made of edges of the graph; it is empty from a model to
    itself, and otherwise ends at the target. -/
theorem findPath_sound {g : Graph} {source target : String} {p : JoinPath}
    (h : g.findPath source target = .ok p) :
    p.steps ⊆ g.edges ∧
      (source = target ∧ p.steps = [] ∨ ∃ pre e, p.steps = pre ++ [e] ∧ e.target = target) := by
  unfold findPath at h
  cases h_src : g.getModel source with
  | error err => simp [h_src, bind, Except.bind] at h
  | ok _ =>
    cases h_tgt : g.getModel target with
    | error err => simp [h_src, h_tgt, bind, Except.bind] at h
    | ok _ =>
      simp only [h_src, h_tgt, bind, Except.bind] at h
      split at h
      · rename_i h_same
        cases h
        simpa using h_same
      · split at h
        · rename_i steps h_search
          cases h
          have h_start : ∀ p ∈ [(source, ([] : List JoinStep))], p.2 ⊆ g.edges := by simp
          obtain ⟨h_edges, h_end⟩ := search_sound h_search h_start
          exact ⟨h_edges, .inr h_end⟩
        · cases h

-- ============================================================================
-- Merging paths into a tree
-- ============================================================================

/-- What a tree built from `root` satisfies at every stage, as its joins and the models they
    reach. -/
structure TreeInv (edges : List JoinStep) (root : String) (acc : List JoinStep × List String) :
    Prop where
  root_reached : root ∈ acc.2
  on_edges : acc.1 ⊆ edges
  reached_by : ∀ x ∈ acc.2, x = root ∨ ∃ e ∈ acc.1, e.target = x

/-- Merging a path of edges keeps the invariant and what was reached, and reaches every target
    of the path. -/
theorem merge_path {edges : List JoinStep} {root : String} (ss : List JoinStep) (h_ss : ss ⊆ edges)
    (acc : List JoinStep × List String) (h_inv : TreeInv edges root acc) :
    let merged := ss.foldl (fun (acc : List JoinStep × List String) s =>
        let (steps, reached) := acc
        if reached.contains s.target then acc else (steps ++ [s], reached ++ [s.target])) acc
    TreeInv edges root merged ∧ acc.2 ⊆ merged.2 ∧ ∀ s ∈ ss, s.target ∈ merged.2 := by
  induction ss generalizing acc with
  | nil => exact ⟨h_inv, List.Subset.refl _, by simp⟩
  | cons s ss ih =>
    obtain ⟨steps, reached⟩ := acc
    obtain ⟨h_root, h_steps, h_reached⟩ := h_inv
    have h_s : s ∈ edges := h_ss List.mem_cons_self
    have h_rest : ss ⊆ edges := fun e he => h_ss (List.mem_cons_of_mem _ he)
    by_cases h_seen : reached.contains s.target = true
    · -- the join reaches nothing new and is dropped
      obtain ⟨h_inv', h_sub, h_all⟩ := ih h_rest (steps, reached) ⟨h_root, h_steps, h_reached⟩
      simp only [List.foldl_cons, h_seen, ↓reduceIte]
      refine ⟨h_inv', h_sub, ?_⟩
      intro s' hs'
      rcases List.mem_cons.mp hs' with rfl | h_in
      · exact h_sub (by simpa using h_seen)
      · exact h_all s' h_in
    · have h_inv_next : TreeInv edges root (steps ++ [s], reached ++ [s.target]) := by
        refine ⟨List.mem_append_left _ h_root,
          List.append_subset.mpr ⟨h_steps, List.cons_subset.mpr ⟨h_s, List.nil_subset _⟩⟩, ?_⟩
        intro x hx
        rcases List.mem_append.mp hx with h_old | h_new
        · rcases h_reached x h_old with h_root | ⟨e, he, h_target⟩
          · exact .inl h_root
          · exact .inr ⟨e, List.mem_append_left _ he, h_target⟩
        · exact .inr ⟨s, by simp, (List.mem_singleton.mp h_new).symm⟩
      obtain ⟨h_inv', h_sub, h_all⟩ := ih h_rest _ h_inv_next
      simp only [List.foldl_cons, h_seen, Bool.false_eq_true, ↓reduceIte]
      refine ⟨h_inv', fun x hx => h_sub (List.mem_append_left _ hx), ?_⟩
      intro s' hs'
      rcases List.mem_cons.mp hs' with rfl | h_in
      · exact h_sub (by simp)
      · exact h_all s' h_in

/-- A join tree is made of edges of the graph, and reaches each of its targets: every target is
    the root or the target of one of its joins. -/
theorem joinTree_sound {g : Graph} {root : String} {targets : List String} {p : JoinPath}
    (h : g.joinTree root targets = .ok p) :
    p.steps ⊆ g.edges ∧ ∀ t ∈ targets, t = root ∨ ∃ e ∈ p.steps, e.target = t := by
  unfold joinTree at h
  obtain ⟨⟨steps, reached⟩, h_fold, h_result⟩ := Except.bind_eq_ok.mp h
  cases h_result
  -- the fold keeps the invariant, never forgets a reached model, and reaches each target
  suffices h_run : ∀ (ts : List String) (acc r : List JoinStep × List String),
      TreeInv g.edges root acc →
      ts.foldlM (fun (acc : List JoinStep × List String) t => do
        let (steps, reached) := acc
        if reached.contains t then pure acc
        else
          let p ← g.findPath root t
          pure (p.steps.foldl (fun (acc : List JoinStep × List String) (s : JoinStep) =>
            let (steps, reached) := acc
            if reached.contains s.target then acc else (steps ++ [s], reached ++ [s.target]))
            (steps, reached))) acc = .ok r →
      TreeInv g.edges root r ∧ acc.2 ⊆ r.2 ∧ ∀ t ∈ ts, t ∈ r.2 by
    have h_start : TreeInv g.edges root ([], [root]) := ⟨by simp, by simp, by simp⟩
    obtain ⟨⟨-, h_edges, h_reached⟩, -, h_targets⟩ := h_run targets _ _ h_start h_fold
    exact ⟨h_edges, fun t ht => h_reached t (h_targets t ht)⟩
  intro ts
  induction ts with
  | nil =>
    intro acc r h_inv h_run
    cases h_run
    exact ⟨h_inv, List.Subset.refl _, by simp⟩
  | cons t ts ih =>
    intro acc r h_inv h_run
    rw [List.foldlM_cons] at h_run
    obtain ⟨acc', h_step, h_rest⟩ := Except.bind_eq_ok.mp h_run
    dsimp only at h_step
    split at h_step
    · -- the target was reached before
      rename_i h_seen
      have h_acc : acc' = acc := by
        simpa [pure, Except.pure, bind, Except.bind] using h_step.symm
      subst h_acc
      obtain ⟨h_inv', h_sub, h_all⟩ := ih _ _ h_inv h_rest
      refine ⟨h_inv', h_sub, ?_⟩
      intro t' ht'
      rcases List.mem_cons.mp ht' with rfl | h_in
      · exact h_sub (by simpa using h_seen)
      · exact h_all t' h_in
    · obtain ⟨path, h_path, h_merge⟩ := Except.bind_eq_ok.mp h_step
      cases h_merge
      obtain ⟨h_edges, h_ends⟩ := findPath_sound h_path
      obtain ⟨h_inv_m, h_sub_m, h_all_m⟩ := merge_path path.steps h_edges _ h_inv
      obtain ⟨h_inv', h_sub, h_all⟩ := ih _ _ h_inv_m h_rest
      refine ⟨h_inv', fun x hx => h_sub (h_sub_m hx), ?_⟩
      intro t' ht'
      rcases List.mem_cons.mp ht' with rfl | h_in
      · rcases h_ends with ⟨rfl, -⟩ | ⟨pre, e, h_eq, h_target⟩
        · exact h_sub (h_sub_m h_inv.root_reached)
        · exact h_sub (h_target ▸ h_all_m e (by simp [h_eq]))
      · exact h_all t' h_in

end MetricLayer.Graph
