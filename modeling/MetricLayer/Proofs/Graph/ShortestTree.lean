import MetricLayer.Proofs.Graph.ShortestPath
import Mathlib.Data.List.Nodup
import Mathlib.Data.List.Induction
/-!
# Join trees are shortest-path trees

`Graph.joinTree` joins a root to several targets. For each target not reached yet it asks for a
shortest path from the root, and keeps the joins of that path that reach a model not reached
before. The joins it returns form a tree rooted at the root (`Graph.ShortestTree`):

* every join is an edge of the graph, with that edge's keys and kind;
* the models joined are distinct, and none of them is the root;
* every join starts at the root or at a model that an earlier join reached, so each join can be
  written against relations already in the query;
* every target is the root or a model joined;
* every model of the tree is reached from the root by joins of the tree, and every chain of
  joins of the tree from the root is a shortest walk in the graph.

The last point holds although the tree merges paths found one target at a time. Every join of a
shortest walk is *tight* (`Graph.Tight`): a shortest walk to its source, followed by it, is a
shortest walk to its target. A chain of tight joins from the root is then a shortest walk,
whichever path each join came from.

Building the tree fails exactly when some target other than the root is not reached from it: it
is not registered, the root is not, or no walk joins them.

Main statement: `Graph.joinTree_shortest_tree`.
-/

namespace MetricLayer.Graph

-- ============================================================================
-- Tight joins
-- ============================================================================

section Tight

variable {edges : List JoinStep}

/-- A join is tight from `root` when a shortest walk to its source, followed by it, is a shortest
    walk to its target. -/
def Tight (edges : List JoinStep) (root : String) (e : JoinStep) : Prop :=
  ∀ w, Shortest edges root e.source w → Shortest edges root e.target (w ++ [e])

/-- No walk is shorter than staying where one is. -/
theorem shortest_nil (a : String) : Shortest edges a a [] :=
  ⟨rfl, fun _ _ => Nat.zero_le _⟩

/-- Every join of a shortest walk is tight. -/
theorem Shortest.tight {a c : String} {pre post : List JoinStep} {e : JoinStep}
    (h : Shortest edges a c (pre ++ e :: post)) : Tight edges a e := by
  obtain ⟨b, h_pre, h_rest⟩ := walk_append.mp h.1
  obtain ⟨h_e, rfl, h_post⟩ := walk_cons.mp h_rest
  intro w h_w
  -- `w` and `pre` are both shortest to the join's source: either can stand before the join
  have h_len : w.length = pre.length := by
    have h_le := h.2 (w ++ e :: post) (walk_append.mpr ⟨_, h_w.1, walk_cons.mpr ⟨h_e, rfl, h_post⟩⟩)
    have h_ge := h_w.2 pre h_pre
    simp only [List.length_append, List.length_cons] at h_le
    omega
  refine ⟨walk_snoc.mpr ⟨h_w.1, h_e, rfl⟩, fun v h_v => ?_⟩
  -- a shorter walk to the join's target would shorten the walk to `c`
  have h_le := h.2 (v ++ post) (walk_append.mpr ⟨_, h_v, h_post⟩)
  simp only [List.length_append, List.length_cons, List.length_nil] at h_le ⊢
  omega

/-- A walk along some of the edges is a walk along all of them. -/
theorem Walk.mono {steps : List JoinStep} (h_sub : steps ⊆ edges) :
    ∀ {a b : String} {w : List JoinStep}, Walk steps a b w → Walk edges a b w := by
  intro a b w h_w
  induction w generalizing a with
  | nil => exact h_w
  | cons e es ih =>
    obtain ⟨h_e, h_src, h_es⟩ := walk_cons.mp h_w
    exact walk_cons.mpr ⟨h_sub h_e, h_src, ih h_es⟩

/-- A shortest walk to `a`, continued by tight joins from `a` to `m`, is a shortest walk to
    `m`. -/
theorem Walk.shortest_of_tight {steps : List JoinStep} {root : String}
    (h_tight : ∀ s ∈ steps, Tight edges root s) :
    ∀ {a m : String} {w : List JoinStep}, Walk steps a m w →
      ∀ wa, Shortest edges root a wa → Shortest edges root m (wa ++ w) := by
  intro a m w h_w
  induction w generalizing a with
  | nil =>
    intro wa h_wa
    obtain rfl := walk_nil.mp h_w
    rwa [List.append_nil]
  | cons s w ih =>
    intro wa h_wa
    obtain ⟨h_s, rfl, h_rest⟩ := walk_cons.mp h_w
    simpa using ih h_rest (wa ++ [s]) (h_tight s h_s wa h_wa)

end Tight

-- ============================================================================
-- Join trees
-- ============================================================================

/-- A registered model is one of the graph's models by name. -/
theorem hasModel_of_mem_names {g : Graph} {name : String} (h : name ∈ g.models.map (·.name)) :
    g.hasModel name := by
  obtain ⟨m, h_m, rfl⟩ := List.mem_map.mp h
  exact List.find?_isSome.mpr ⟨m, h_m, by simp⟩

/-- The joins `steps` form a tree rooted at `root` that reaches `targets`, laid out as a
    breadth-first search from the root lays them out. -/
structure ShortestTree (g : Graph) (root : String) (targets : List String)
    (steps : List JoinStep) : Prop where
  /-- Every join is an edge of the graph, with its keys and kind. -/
  on_edges : steps ⊆ g.edges
  /-- The models joined are distinct, and none of them is the root. -/
  joined_nodup : (root :: steps.map (·.target)).Nodup
  /-- Every join starts at the root or at a model that an earlier join reached. -/
  sources_joined : ∀ pre s, pre ++ [s] <+: steps → s.source ∈ root :: pre.map (·.target)
  /-- Every target is the root or a model joined. -/
  covers : ∀ t ∈ targets, t ∈ root :: steps.map (·.target)
  /-- Every model of the tree is reached from the root by joins of the tree. -/
  chain_exists : ∀ m ∈ root :: steps.map (·.target), ∃ w, Walk steps root m w
  /-- Every chain of joins of the tree from the root is a shortest walk in the graph. -/
  chain_shortest : ∀ m w, Walk steps root m w → Shortest g.edges root m w

namespace ShortestTree

variable {g : Graph} {root : String} {targets : List String} {steps : List JoinStep}

/-- The chain of joins of a tree from its root to a model is unique: each model is joined once,
    and never the root. -/
theorem chain_unique (h : ShortestTree g root targets steps) {m : String} {w₁ w₂ : List JoinStep}
    (h₁ : Walk steps root m w₁) (h₂ : Walk steps root m w₂) : w₁ = w₂ := by
  have h_root : root ∉ steps.map (·.target) := (List.nodup_cons.mp h.joined_nodup).1
  have h_inj := List.inj_on_of_nodup_map (List.nodup_cons.mp h.joined_nodup).2
  -- the last joins of two chains to one model both join it, so they are the same join
  induction w₁ using List.reverseRecOn generalizing m w₂ with
  | nil =>
    obtain rfl := walk_nil.mp h₁
    rcases List.eq_nil_or_concat w₂ with rfl | ⟨w₂', s₂, rfl⟩
    · rfl
    · obtain ⟨-, h_s₂, h_target⟩ := walk_snoc.mp (List.concat_eq_append ▸ h₂)
      exact absurd (h_target ▸ List.mem_map_of_mem h_s₂) h_root
  | append_singleton w₁ s₁ ih =>
    obtain ⟨h_w₁, h_s₁, rfl⟩ := walk_snoc.mp h₁
    rcases List.eq_nil_or_concat w₂ with rfl | ⟨w₂', s₂, rfl⟩
    · exact absurd ((walk_nil.mp h₂) ▸ List.mem_map_of_mem h_s₁) h_root
    · obtain ⟨h_w₂, h_s₂, h_target⟩ := walk_snoc.mp (List.concat_eq_append ▸ h₂)
      obtain rfl := h_inj h_s₁ h_s₂ h_target.symm
      rw [List.concat_eq_append, ih h_w₁ h_w₂]

/-- A model of the tree other than the root is reached from it in the graph, and both are
    registered. -/
theorem reaches (h : ShortestTree g root targets steps) {m : String}
    (h_m : m ∈ root :: steps.map (·.target)) (h_ne : m ≠ root) :
    g.hasModel root ∧ g.hasModel m ∧ ∃ w, Walk g.edges root m w := by
  obtain ⟨w, h_w⟩ := h.chain_exists m h_m
  have h_walk := Walk.mono h.on_edges h_w
  have h_joined : m ∈ steps.map (·.target) := (List.mem_cons.mp h_m).resolve_left h_ne
  obtain ⟨s, h_s, rfl⟩ := List.mem_map.mp h_joined
  cases w with
  | nil => exact absurd (walk_nil.mp h_walk).symm h_ne
  | cons e es =>
    obtain ⟨h_e, h_src, -⟩ := walk_cons.mp h_walk
    exact ⟨hasModel_of_mem_names (h_src ▸ (mem_edges_names h_e).1),
      hasModel_of_mem_names (mem_edges_names (h.on_edges h_s)).2, _, h_walk⟩

end ShortestTree

-- ============================================================================
-- Merging paths
-- ============================================================================

/-- What the joins merged so far satisfy, with the models they reach: the root, then the target
    of each join in order. -/
structure MergeInv (g : Graph) (root : String) (steps : List JoinStep) (reached : List String) :
    Prop where
  reached_eq : reached = root :: steps.map (·.target)
  reached_nodup : reached.Nodup
  on_edges : steps ⊆ g.edges
  sources_joined : ∀ pre s, pre ++ [s] <+: steps → s.source ∈ root :: pre.map (·.target)
  tight : ∀ s ∈ steps, Tight g.edges root s
  chain_exists : ∀ m ∈ reached, ∃ w, Walk steps root m w

namespace MergeInv

variable {g : Graph} {root : String}

theorem start : MergeInv g root [] [root] where
  reached_eq := rfl
  reached_nodup := List.nodup_singleton _
  on_edges := List.nil_subset _
  sources_joined _ _ h := absurd (List.eq_nil_of_prefix_nil h) (by simp)
  tight _ h := absurd h List.not_mem_nil
  chain_exists m h := ⟨[], (List.mem_singleton.mp h).symm⟩

/-- A tight edge from a model reached to a model not reached may join the tree. -/
theorem add {steps : List JoinStep} {reached : List String} (h : MergeInv g root steps reached)
    {s : JoinStep} (h_edge : s ∈ g.edges) (h_tight : Tight g.edges root s)
    (h_src : s.source ∈ reached) (h_new : s.target ∉ reached) :
    MergeInv g root (steps ++ [s]) (reached ++ [s.target]) where
  reached_eq := by simp [h.reached_eq]
  reached_nodup := List.nodup_append.mpr ⟨h.reached_nodup, List.nodup_singleton _,
    fun _ h_a _ h_b h_eq => h_new (by rw [List.mem_singleton.mp h_b] at h_eq; exact h_eq ▸ h_a)⟩
  on_edges := List.append_subset.mpr ⟨h.on_edges, List.cons_subset.mpr ⟨h_edge, List.nil_subset _⟩⟩
  sources_joined pre s' h_pre := by
    rcases List.prefix_concat_iff.mp h_pre with h_eq | h_old
    · -- the join just added starts at a model reached before it
      obtain ⟨rfl, h_last⟩ := List.append_inj' h_eq rfl
      obtain rfl := List.singleton_inj.mp h_last
      rw [← h.reached_eq]
      exact h_src
    · exact h.sources_joined pre s' h_old
  tight s' h_s' := by
    rcases List.mem_append.mp h_s' with h_old | h_last
    · exact h.tight s' h_old
    · exact List.mem_singleton.mp h_last ▸ h_tight
  chain_exists m h_m := by
    have h_grow : steps ⊆ steps ++ [s] := List.subset_append_left _ _
    rcases List.mem_append.mp h_m with h_old | h_last
    · obtain ⟨w, h_w⟩ := h.chain_exists m h_old
      exact ⟨w, Walk.mono h_grow h_w⟩
    · obtain rfl := List.mem_singleton.mp h_last
      obtain ⟨w, h_w⟩ := h.chain_exists s.source h_src
      exact ⟨w ++ [s], walk_snoc.mpr ⟨Walk.mono h_grow h_w, by simp, rfl⟩⟩

/-- Merging the joins of a walk of tight edges that starts at a model reached keeps the
    invariant and what was reached, and reaches the end of the walk. -/
theorem merge_walk :
    ∀ (ss : List JoinStep) {a b : String}, Walk g.edges a b ss → (∀ s ∈ ss, Tight g.edges root s) →
      ∀ (acc : List JoinStep × List String), MergeInv g root acc.1 acc.2 → a ∈ acc.2 →
        let merged := ss.foldl (fun (acc : List JoinStep × List String) s =>
            let (steps, reached) := acc
            if reached.contains s.target then acc else (steps ++ [s], reached ++ [s.target])) acc
        MergeInv g root merged.1 merged.2 ∧ acc.2 ⊆ merged.2 ∧ b ∈ merged.2 := by
  intro ss
  induction ss with
  | nil =>
    intro a b h_w _ acc h_inv h_a
    exact ⟨h_inv, List.Subset.refl _, (walk_nil.mp h_w) ▸ h_a⟩
  | cons s ss ih =>
    intro a b h_w h_tight acc h_inv h_a
    obtain ⟨h_s, rfl, h_rest⟩ := walk_cons.mp h_w
    have h_tight_rest : ∀ s' ∈ ss, Tight g.edges root s' :=
      fun s' h_s' => h_tight s' (List.mem_cons_of_mem _ h_s')
    obtain ⟨steps, reached⟩ := acc
    dsimp only at h_inv h_a ⊢
    by_cases h_seen : reached.contains s.target = true
    · -- the join reaches nothing new and is dropped
      simp only [List.foldl_cons, h_seen, ↓reduceIte]
      exact ih h_rest h_tight_rest _ h_inv (by simpa using h_seen)
    · have h_next := h_inv.add h_s (h_tight s List.mem_cons_self) h_a (by simpa using h_seen)
      obtain ⟨h_inv', h_sub, h_b⟩ := ih h_rest h_tight_rest (steps ++ [s], reached ++ [s.target])
        h_next (by simp)
      simp only [List.foldl_cons, h_seen, Bool.false_eq_true, ↓reduceIte]
      exact ⟨h_inv', fun x h_x => h_sub (List.mem_append_left _ h_x), h_b⟩

/-- The merged joins, once every target is reached, form a shortest tree. -/
theorem shortestTree {steps : List JoinStep} {reached targets : List String}
    (h : MergeInv g root steps reached) (h_targets : ∀ t ∈ targets, t ∈ reached) :
    ShortestTree g root targets steps where
  on_edges := h.on_edges
  joined_nodup := h.reached_eq ▸ h.reached_nodup
  sources_joined := h.sources_joined
  covers t h_t := h.reached_eq ▸ h_targets t h_t
  chain_exists m h_m := h.chain_exists m (h.reached_eq ▸ h_m)
  chain_shortest m w h_w := by
    simpa using Walk.shortest_of_tight h.tight h_w [] (shortest_nil root)

end MergeInv

/-- A join tree is a shortest tree, or fails on a target other than the root that the root does
    not reach. -/
theorem joinTree_meets (g : Graph) (root : String) (targets : List String) :
    Except.Meets (fun p : JoinPath => ShortestTree g root targets p.steps)
      (fun _ => ∃ t ∈ targets, t ≠ root ∧
        ¬ (g.hasModel root ∧ g.hasModel t ∧ ∃ w, Walk g.edges root t w))
      (g.joinTree root targets) := by
  unfold joinTree
  -- the fold reaches every target it has passed, or fails on one the root does not reach
  refine Except.Meets.bind (foldlM_meets
    (fun pre acc => MergeInv g root acc.1 acc.2 ∧ ∀ t ∈ pre, t ∈ acc.2) _ targets ?_ _
    ⟨MergeInv.start, by simp⟩) ?_
  · rintro pre ⟨steps, reached⟩ t h_t ⟨h_inv, h_pre⟩
    dsimp only at h_inv h_pre ⊢
    have h_root : root ∈ reached := h_inv.reached_eq ▸ List.mem_cons_self
    split
    · -- the target was reached by an earlier path
      rename_i h_seen
      refine ⟨h_inv, fun t' h_t' => ?_⟩
      rcases List.mem_append.mp h_t' with h_old | h_last
      · exact h_pre t' h_old
      · exact List.mem_singleton.mp h_last ▸ (by simpa using h_seen)
    · rename_i h_new
      cases h_path : g.findPath root t with
      | error e =>
        refine ⟨t, h_t, fun h_eq => h_new (by simp [h_eq, h_root]), fun h_reach => ?_⟩
        obtain ⟨p, h_p⟩ := findPath_ok_iff.mpr h_reach
        rw [h_path] at h_p
        cases h_p
      | ok p =>
        have h_short := findPath_ok_shortest h_path
        have h_tight : ∀ s ∈ p.steps, Tight g.edges root s := by
          intro s h_s
          obtain ⟨pre, post, h_eq⟩ := List.mem_iff_append.mp h_s
          exact (h_eq ▸ h_short).tight
        obtain ⟨h_inv', h_sub, h_end⟩ :=
          MergeInv.merge_walk p.steps h_short.1 h_tight (steps, reached) h_inv h_root
        refine ⟨h_inv', fun t' h_t' => ?_⟩
        rcases List.mem_append.mp h_t' with h_old | h_last
        · exact h_sub (h_pre t' h_old)
        · exact List.mem_singleton.mp h_last ▸ h_end
  · rintro ⟨steps, reached⟩ ⟨h_inv, h_all⟩
    exact h_inv.shortestTree h_all

/-- A join tree is a shortest-path tree from its root: its joins are edges of the graph; the
    models joined are distinct and differ from the root; each join starts at the root or at a
    model an earlier join reached; every target is reached; and every chain of joins from the root
    is a shortest walk. Building it fails exactly when some target other than the root is not
    reached from the root: that target or the root is not registered, or no walk joins them. -/
theorem joinTree_shortest_tree (g : Graph) (root : String) (targets : List String) :
    (∀ p, g.joinTree root targets = .ok p → ShortestTree g root targets p.steps) ∧
      ((∃ e, g.joinTree root targets = .error e) ↔
        ∃ t ∈ targets, t ≠ root ∧
          ¬ (g.hasModel root ∧ g.hasModel t ∧ ∃ w, Walk g.edges root t w)) := by
  have h_meets := joinTree_meets g root targets
  refine ⟨fun p h_p => by rw [h_p] at h_meets; exact h_meets, ⟨?_, ?_⟩⟩
  · rintro ⟨e, h_e⟩
    rw [h_e] at h_meets
    exact h_meets
  · rintro ⟨t, h_t, h_ne, h_unreached⟩
    cases h_tree : g.joinTree root targets with
    | error e => exact ⟨e, rfl⟩
    | ok p =>
      rw [h_tree] at h_meets
      exact absurd (ShortestTree.reaches h_meets (h_meets.covers t h_t) h_ne) h_unreached

end MetricLayer.Graph

namespace MetricLayer

open MetricLayer.Graph

/-- A chain of many-to-one relationships `a → b → c`, and a model joined to nothing. -/
def chainGraph : Graph :=
  { models := [{ name := "a", table := some "a", primaryKey := "id",
                 relationships := [{ name := "b", kind := .manyToOne }] },
               { name := "b", table := some "b", primaryKey := "id",
                 relationships := [{ name := "c", kind := .manyToOne }] },
               { name := "c", table := some "c", primaryKey := "id" },
               { name := "island", table := some "island", primaryKey := "id" }] }

/-- The tree from `a` to `b`, `c` and `a` itself joins `b`, then `c` through `b`. -/
theorem chain_joinTree_shortest :
    chainGraph.joinTree "a" ["b", "c", "a"] =
        .ok ⟨[⟨"a", "b", "b_id", "id", .manyToOne⟩, ⟨"b", "c", "c_id", "id", .manyToOne⟩]⟩ ∧
      ShortestTree chainGraph "a" ["b", "c", "a"]
        [⟨"a", "b", "b_id", "id", .manyToOne⟩, ⟨"b", "c", "c_id", "id", .manyToOne⟩] := by
  have h_tree : chainGraph.joinTree "a" ["b", "c", "a"] =
      .ok ⟨[⟨"a", "b", "b_id", "id", .manyToOne⟩, ⟨"b", "c", "c_id", "id", .manyToOne⟩]⟩ := by
    decide +kernel
  exact ⟨h_tree, (joinTree_shortest_tree chainGraph "a" ["b", "c", "a"]).1 _ h_tree⟩

end MetricLayer
