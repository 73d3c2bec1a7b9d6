import MetricLayer.Proofs.Graph.ShortestPath
/-!
# Joins go both ways

Every declared relationship gives an edge from the declaring model to its target, and the join
graph also gets the reverse of each declared edge, unless that pair of models has an edge
already. So whenever an edge joins one model to another, some edge joins the other back, and
every walk can be walked backwards with as many joins. Searches between two models in the two
directions therefore succeed together and find paths of the same length, and being joinable is
an equivalence on the registered models.

Main statement: `Graph.findPath_symmetric`.
-/

namespace MetricLayer.Graph

/-- The declared edges are edges. -/
theorem declaredEdges_subset_edges (g : Graph) : g.declaredEdges ⊆ g.edges := by
  intro d h_d
  unfold edges
  exact List.mem_append_left _ h_d

/-- The pair of models of every declared edge, reversed, is the pair of some edge. -/
theorem declaredEdge_joined_back {g : Graph} {d : JoinStep} (h : d ∈ g.declaredEdges) :
    (d.target, d.source) ∈ g.edges.map fun e => (e.source, e.target) := by
  unfold edges
  dsimp only
  -- the fold's pairs are those of the declared edges and then of the edges it adds, and it adds
  -- the pair of each declared edge reversed, unless the pair is there already
  have h_result : ∀ res : List JoinStep × List (String × String),
      res.2 = g.declaredEdges.map (fun e => (e.source, e.target)) ++ res.1.map (fun e => (e.source, e.target)) →
      (d.target, d.source) ∈ res.2 →
      (d.target, d.source) ∈ (g.declaredEdges ++ res.1).map fun e => (e.source, e.target) := by
    intro res h_pairs h_mem
    rwa [List.map_append, ← h_pairs]
  refine h_result _ (foldl_invariant (fun (acc : List JoinStep × List (String × String)) =>
      acc.2 = g.declaredEdges.map (fun e => (e.source, e.target)) ++ acc.1.map (fun e => (e.source, e.target)))
      ?_ (by simp))
    (foldl_keeps (fun (d : JoinStep) (acc : List JoinStep × List (String × String)) =>
      (d.target, d.source) ∈ acc.2) ?_ ?_ _ _ d h)
  · intro acc e _ h_acc
    split
    · exact h_acc
    · simp [h_acc]
  · intro acc e
    split
    · rename_i h_there
      simpa using h_there
    · simp
  · intro acc e d' h_acc
    split
    · exact h_acc
    · exact List.mem_append_left _ h_acc

/-- Every edge is joined back: some edge goes from its target to its source. -/
theorem edges_joined_back {g : Graph} {e : JoinStep} (h : e ∈ g.edges) :
    ∃ e' ∈ g.edges, e'.source = e.target ∧ e'.target = e.source := by
  rcases mem_edges h with h_declared | ⟨d, h_d, rfl⟩
  · obtain ⟨e', h_e', h_eq⟩ := List.mem_map.mp (declaredEdge_joined_back h_declared)
    simp only [Prod.mk.injEq] at h_eq
    exact ⟨e', h_e', h_eq⟩
  · exact ⟨d, declaredEdges_subset_edges g h_d, rfl, rfl⟩

section Reverse

variable {edges : List JoinStep}

/-- Along edges that are all joined back, every walk can be walked backwards with as many
    joins. -/
theorem Walk.reverse
    (h_back : ∀ e ∈ edges, ∃ e' ∈ edges, e'.source = e.target ∧ e'.target = e.source) :
    ∀ {a b : String} {w : List JoinStep}, Walk edges a b w →
      ∃ w', Walk edges b a w' ∧ w'.length = w.length := by
  intro a b w h_w
  induction w generalizing a with
  | nil => exact ⟨[], (walk_nil.mp h_w).symm, rfl⟩
  | cons e es ih =>
    obtain ⟨h_e, rfl, h_es⟩ := walk_cons.mp h_w
    obtain ⟨w', h_w', h_len⟩ := ih h_es
    obtain ⟨e', h_e', h_src, h_tgt⟩ := h_back e h_e
    refine ⟨w' ++ [e'], walk_snoc.mpr ⟨h_src ▸ h_w', h_e', h_tgt⟩, ?_⟩
    simp [h_len]

/-- Two shortest walks between the same two models, one each way, have as many joins. -/
theorem Shortest.length_eq
    (h_back : ∀ e ∈ edges, ∃ e' ∈ edges, e'.source = e.target ∧ e'.target = e.source)
    {a b : String} {p q : List JoinStep} (h_p : Shortest edges a b p) (h_q : Shortest edges b a q) :
    p.length = q.length := by
  obtain ⟨p', h_p', h_p'_len⟩ := Walk.reverse h_back h_p.1
  obtain ⟨q', h_q', h_q'_len⟩ := Walk.reverse h_back h_q.1
  have h_le := h_p.2 q' h_q'
  have h_ge := h_q.2 p' h_p'
  omega

end Reverse

/-- Two models can be joined exactly when both are registered and some walk joins them. -/
theorem hasPath_iff {g : Graph} {a b : String} :
    g.hasPath a b ↔ g.hasModel a ∧ g.hasModel b ∧ ∃ w, Walk g.edges a b w := by
  rw [← findPath_ok_iff]
  unfold hasPath
  split
  · rename_i p h_p
    simp [h_p]
  · rename_i err h_err
    simp [h_err]

/-- A search that finds a path one way means the search the other way finds one too. -/
theorem findPath_ok_reverse {g : Graph} {a b : String} {p : JoinPath} (h : g.findPath a b = .ok p) :
    ∃ q, g.findPath b a = .ok q := by
  obtain ⟨h_a, h_b, w, h_w⟩ := findPath_ok_iff.mp ⟨p, h⟩
  obtain ⟨w', h_w', -⟩ := Walk.reverse (fun e h_e => edges_joined_back h_e) h_w
  exact findPath_ok_iff.mpr ⟨h_b, h_a, w', h_w'⟩

/-- Join paths are symmetric: a search from `a` to `b` and one from `b` to `a` both find a path
    or both fail, and the paths they find have as many joins. Being joinable is an equivalence
    on the registered models. -/
theorem findPath_symmetric (g : Graph) :
    (∀ a b, (g.findPath a b).toOption.map (·.steps.length) =
        (g.findPath b a).toOption.map (·.steps.length)) ∧
      (∀ a b, g.hasPath a b = g.hasPath b a) ∧
      Equivalence fun a b : {m // g.hasModel m} => g.hasPath a.1 b.1 := by
  have h_back : ∀ e ∈ g.edges, ∃ e' ∈ g.edges, e'.source = e.target ∧ e'.target = e.source :=
    fun e h_e => edges_joined_back h_e
  -- a walk one way is a walk the other way
  have h_joinable : ∀ a b, g.hasPath a b → g.hasPath b a := by
    intro a b h_ab
    obtain ⟨h_a, h_b, w, h_w⟩ := hasPath_iff.mp h_ab
    obtain ⟨w', h_w', -⟩ := Walk.reverse h_back h_w
    exact hasPath_iff.mpr ⟨h_b, h_a, w', h_w'⟩
  refine ⟨fun a b => ?_, fun a b => ?_, ⟨fun a => ?_, fun h => h_joinable _ _ h, fun h_ab h_bc => ?_⟩⟩
  · rcases h_ab : g.findPath a b with err | p <;> rcases h_ba : g.findPath b a with err' | q
    · rfl
    · -- a path back would give a path there
      obtain ⟨p, h_p⟩ := findPath_ok_reverse h_ba
      simp [h_p] at h_ab
    · obtain ⟨q, h_q⟩ := findPath_ok_reverse h_ab
      simp [h_q] at h_ba
    · simp only [Except.toOption, Option.map_some, Option.some.injEq]
      exact Shortest.length_eq h_back (findPath_ok_shortest h_ab) (findPath_ok_shortest h_ba)
  · exact Bool.eq_iff_iff.mpr ⟨h_joinable a b, h_joinable b a⟩
  · -- a registered model is joined to itself by the empty walk
    exact hasPath_iff.mpr ⟨a.2, a.2, [], rfl⟩
  · obtain ⟨h_a, -, w₁, h_w₁⟩ := hasPath_iff.mp h_ab
    obtain ⟨-, h_c, w₂, h_w₂⟩ := hasPath_iff.mp h_bc
    exact hasPath_iff.mpr ⟨h_a, h_c, w₁ ++ w₂, walk_append.mpr ⟨_, h_w₁, h_w₂⟩⟩

end MetricLayer.Graph
