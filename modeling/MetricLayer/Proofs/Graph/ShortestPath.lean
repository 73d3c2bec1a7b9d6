import MetricLayer.Proofs.Graph.JoinTree
import Mathlib.Data.List.Perm.Subperm
import Mathlib.Data.List.Pairwise
/-!
# Join paths are shortest

A *walk* from `a` to `b` is a list of edges, the first starting at `a`, each starting where the
previous one ended, the last ending at `b`. `Graph.findPath` answers with a shortest walk between
two registered models, or says why there is none: the first of them that is not registered, or
that no walk joins them (`Graph.PathAnswer`).

The search is breadth first. It queues each model with the walk that reached it, marks it when
it is queued, and stops as soon as an edge reaches the goal. `SearchInv` is what holds of the
queue and the marks at every step: the queued walks are shortest, and their lengths grow along
the queue by at most one in all; every model that a walk no longer than the front's reaches is
marked; and a marked model that has left the queue has the targets of all its edges marked.
The first walk to reach the goal is then a shortest one, and an empty queue means that no walk
reaches it. A model is queued at most once and every model queued is registered, so one more
step than there are models is enough fuel.

Main statement: `Graph.findPath_answers`. Later proofs use `Graph.findPath_ok_iff` and
`Graph.findPath_ok_shortest`.
-/

namespace MetricLayer.Graph

-- ============================================================================
-- Walks
-- ============================================================================

/-- `steps` walks along `edges` from `a` to `b`: each join is one of the edges, the first starts
    at `a`, each next one starts where the previous one ends, and the last ends at `b`. -/
def Walk (edges : List JoinStep) : String → String → List JoinStep → Prop
  | a, b, [] => a = b
  | a, b, e :: es => e ∈ edges ∧ e.source = a ∧ Walk edges e.target b es

/-- A walk from `a` to `b` with no more joins than any other. -/
def Shortest (edges : List JoinStep) (a b : String) (steps : List JoinStep) : Prop :=
  Walk edges a b steps ∧ ∀ w, Walk edges a b w → steps.length ≤ w.length

section Walks

variable {edges : List JoinStep}

@[simp] theorem walk_nil {a b : String} : Walk edges a b [] ↔ a = b := Iff.rfl

@[simp] theorem walk_cons {a b : String} {e : JoinStep} {es : List JoinStep} :
    Walk edges a b (e :: es) ↔ e ∈ edges ∧ e.source = a ∧ Walk edges e.target b es := Iff.rfl

/-- Two walks make one exactly when the first ends where the second starts. -/
theorem walk_append {a c : String} {w₁ w₂ : List JoinStep} :
    Walk edges a c (w₁ ++ w₂) ↔ ∃ b, Walk edges a b w₁ ∧ Walk edges b c w₂ := by
  induction w₁ generalizing a with
  | nil => simp
  | cons e es ih =>
    simp only [List.cons_append, walk_cons, ih]
    constructor
    · rintro ⟨h_e, h_src, b, h_es, h_rest⟩
      exact ⟨b, ⟨h_e, h_src, h_es⟩, h_rest⟩
    · rintro ⟨b, ⟨h_e, h_src, h_es⟩, h_rest⟩
      exact ⟨h_e, h_src, b, h_es, h_rest⟩

/-- A walk one join longer than another is that walk and one more edge. -/
theorem walk_snoc {a c : String} {w : List JoinStep} {e : JoinStep} :
    Walk edges a c (w ++ [e]) ↔ Walk edges a e.source w ∧ e ∈ edges ∧ e.target = c := by
  rw [walk_append]
  constructor
  · rintro ⟨b, h_w, h_e, rfl, h_c⟩
    exact ⟨h_w, h_e, h_c⟩
  · rintro ⟨h_w, h_e, h_c⟩
    exact ⟨e.source, h_w, h_e, rfl, h_c⟩

/-- A set of models that contains the targets of its models' edges contains the end of every
    walk that starts in it. -/
theorem Walk.mem_of_closed {S : List String}
    (h_closed : ∀ y ∈ S, ∀ e ∈ edges, e.source = y → e.target ∈ S) :
    ∀ {a b : String} {w : List JoinStep}, Walk edges a b w → a ∈ S → b ∈ S := by
  intro a b w h_w h_a
  induction w generalizing a with
  | nil => exact (walk_nil.mp h_w) ▸ h_a
  | cons e es ih =>
    obtain ⟨h_e, h_src, h_es⟩ := walk_cons.mp h_w
    exact ih h_es (h_closed a h_a e h_e h_src)

end Walks

-- ============================================================================
-- The edges join registered models
-- ============================================================================

@[simp] theorem declaredEdge_source (m : Model) (r : Relationship) (t : Model) :
    (declaredEdge m r t).source = m.name := by
  unfold declaredEdge
  split <;> rfl

@[simp] theorem declaredEdge_target (m : Model) (r : Relationship) (t : Model) :
    (declaredEdge m r t).target = t.name := by
  unfold declaredEdge
  split <;> rfl

@[simp] theorem JoinStep.reversed_source (s : JoinStep) : s.reversed.source = s.target := rfl

@[simp] theorem JoinStep.reversed_target (s : JoinStep) : s.reversed.target = s.source := rfl

/-- A registered model is one of the models, under its own name. -/
theorem model?_some {g : Graph} {name : String} {m : Model} (h : g.model? name = some m) :
    m ∈ g.models ∧ m.name = name :=
  ⟨List.mem_of_find?_eq_some h, by simpa using List.find?_some h⟩

theorem mem_names_of_hasModel {g : Graph} {name : String} (h : g.hasModel name) :
    name ∈ g.models.map (·.name) := by
  unfold hasModel at h
  obtain ⟨m, h_m⟩ := Option.isSome_iff_exists.mp h
  obtain ⟨h_mem, rfl⟩ := model?_some h_m
  exact List.mem_map_of_mem h_mem

/-- A declared edge goes from the declaring model to a registered target. -/
theorem mem_declaredEdges {g : Graph} {d : JoinStep} (h : d ∈ g.declaredEdges) :
    d.source ∈ g.models.map (·.name) ∧ d.target ∈ g.models.map (·.name) := by
  unfold declaredEdges at h
  obtain ⟨m, h_m, h_d⟩ := List.mem_flatMap.mp h
  obtain ⟨r, -, h_r⟩ := List.mem_filterMap.mp h_d
  obtain ⟨t, h_t, rfl⟩ := Option.map_eq_some_iff.mp h_r
  exact ⟨by simpa using List.mem_map_of_mem (f := (·.name)) h_m,
    by simpa using List.mem_map_of_mem (f := (·.name)) (model?_some h_t).1⟩

/-- An edge is a declared one or the reverse of a declared one. -/
theorem mem_edges {g : Graph} {e : JoinStep} (h : e ∈ g.edges) :
    e ∈ g.declaredEdges ∨ ∃ d ∈ g.declaredEdges, e = d.reversed := by
  unfold edges at h
  dsimp only at h
  rcases List.mem_append.mp h with h_declared | h_added
  · exact .inl h_declared
  · -- the fold only ever adds the reverse of the edge it is at
    refine .inr (foldl_invariant (fun (acc : List JoinStep × List (String × String)) =>
      ∀ r ∈ acc.1, ∃ d ∈ g.declaredEdges, r = d.reversed) ?_ (by simp) e h_added)
    intro acc d h_d h_acc
    split
    · exact h_acc
    · intro r h_r
      rcases List.mem_append.mp h_r with h_old | h_new
      · exact h_acc r h_old
      · exact ⟨d, h_d, List.mem_singleton.mp h_new⟩

/-- Every edge joins two registered models. -/
theorem mem_edges_names {g : Graph} {e : JoinStep} (h : e ∈ g.edges) :
    e.source ∈ g.models.map (·.name) ∧ e.target ∈ g.models.map (·.name) := by
  rcases mem_edges h with h_declared | ⟨d, h_d, rfl⟩
  · exact mem_declaredEdges h_declared
  · exact (mem_declaredEdges h_d).symm

-- ============================================================================
-- One expansion
-- ============================================================================

/-- What expanding a node along the edges `es` adds when it does not reach the goal: the models
    `new`, each queued once, with the node's walk `path` and the edge that reaches it, none
    marked before and none the goal; afterwards the target of every edge of `es` is marked. -/
structure Expansion (goal : String) (path es : List JoinStep) (visited : List String)
    (new : List (String × List JoinStep)) : Prop where
  reached : ∀ x ∈ new, ∃ e ∈ es, x = (e.target, path ++ [e])
  nodup : (new.map (·.1)).Nodup
  fresh : ∀ x ∈ new, x.1 ∉ visited
  not_goal : ∀ x ∈ new, x.1 ≠ goal
  covers : ∀ e ∈ es, e.target ∈ visited ++ new.map (·.1)

/-- An expansion that does not reach the goal queues and marks the models of an `Expansion`. -/
theorem expand_inr {goal : String} {path es : List JoinStep} {queue queue' : List (String × List JoinStep)}
    {visited visited' : List String} (h : expand goal path es queue visited = .inr (queue', visited')) :
    ∃ new, queue' = queue ++ new ∧ visited' = visited ++ new.map (·.1) ∧
      Expansion goal path es visited new := by
  induction es generalizing queue visited with
  | nil =>
    simp only [expand, Sum.inr.injEq, Prod.mk.injEq] at h
    obtain ⟨rfl, rfl⟩ := h
    exact ⟨[], by simp, by simp, ⟨by simp, by simp, by simp, by simp, by simp⟩⟩
  | cons e es ih =>
    unfold expand at h
    split at h
    · -- the target was marked: nothing is added for this edge
      rename_i h_seen
      obtain ⟨new, rfl, rfl, h_new⟩ := ih h
      refine ⟨new, rfl, rfl, ⟨?_, h_new.nodup, h_new.fresh, h_new.not_goal, ?_⟩⟩
      · intro x h_x
        obtain ⟨e', h_e', h_eq⟩ := h_new.reached x h_x
        exact ⟨e', List.mem_cons_of_mem _ h_e', h_eq⟩
      · intro e' h_e'
        rcases List.mem_cons.mp h_e' with rfl | h_in
        · exact List.mem_append_left _ (by simpa using h_seen)
        · exact h_new.covers e' h_in
    · split at h
      · cases h
      · -- the target is new and not the goal: it is queued with the walk through this edge
        rename_i h_unseen h_not_goal
        obtain ⟨new, rfl, rfl, h_new⟩ := ih h
        have h_unseen' : e.target ∉ visited := by simpa using h_unseen
        have h_not_goal' : e.target ≠ goal := by simpa using h_not_goal
        refine ⟨(e.target, path ++ [e]) :: new, by simp, by simp, ⟨?_, ?_, ?_, ?_, ?_⟩⟩
        · intro x h_x
          rcases List.mem_cons.mp h_x with rfl | h_in
          · exact ⟨e, List.mem_cons_self, rfl⟩
          · obtain ⟨e', h_e', h_eq⟩ := h_new.reached x h_in
            exact ⟨e', List.mem_cons_of_mem _ h_e', h_eq⟩
        · refine List.nodup_cons.mpr ⟨?_, h_new.nodup⟩
          intro h_in
          obtain ⟨x, h_x, h_eq⟩ := List.mem_map.mp h_in
          exact h_new.fresh x h_x (by simp [h_eq])
        · intro x h_x
          rcases List.mem_cons.mp h_x with rfl | h_in
          · exact h_unseen'
          · exact fun h_old => h_new.fresh x h_in (List.mem_append_left _ h_old)
        · intro x h_x
          rcases List.mem_cons.mp h_x with rfl | h_in
          · exact h_not_goal'
          · exact h_new.not_goal x h_in
        · intro e' h_e'
          rcases List.mem_cons.mp h_e' with rfl | h_in
          · simp
          · simpa using h_new.covers e' h_in

-- ============================================================================
-- The search invariant
-- ============================================================================

/-- What holds of a search from `source` for `goal` along `edges`, at every step. -/
structure SearchInv (edges : List JoinStep) (source goal : String)
    (queue : List (String × List JoinStep)) (visited : List String) : Prop where
  source_visited : source ∈ visited
  goal_unvisited : goal ∉ visited
  queued_visited : ∀ x ∈ queue, x.1 ∈ visited
  queued_shortest : ∀ x ∈ queue, Shortest edges source x.1 x.2
  /-- Queued walks grow in length along the queue, by at most one in all. -/
  levels : queue.Pairwise fun x y => x.2.length ≤ y.2.length ∧ y.2.length ≤ x.2.length + 1
  /-- Every model that a walk no longer than the front's reaches is marked. -/
  front_closed : ∀ x ∈ queue.head?, ∀ y w, Walk edges source y w → w.length ≤ x.2.length → y ∈ visited
  /-- A marked model that has left the queue has been expanded. -/
  expanded : ∀ y ∈ visited, y ∉ queue.map (·.1) → ∀ e ∈ edges, e.source = y → e.target ∈ visited

section Search

variable {edges : List JoinStep} {source goal : String}

/-- The search starts with the source queued and marked. -/
theorem SearchInv.start (h_ne : source ≠ goal) : SearchInv edges source goal [(source, [])] [source] where
  source_visited := List.mem_singleton_self _
  goal_unvisited := by simpa [eq_comm] using h_ne
  queued_visited := by simp
  queued_shortest := by simp [Shortest]
  levels := List.pairwise_singleton _ _
  front_closed := by
    intro x h_x y w h_w h_len
    obtain rfl := Option.mem_some_iff.mp h_x
    obtain rfl : w = [] := List.eq_nil_of_length_eq_zero (Nat.le_zero.mp h_len)
    simpa [eq_comm] using h_w
  expanded := by simp

/-- A walk one join past the front's is a shortest walk to a model that is not marked: a
    shorter walk would have marked it. -/
theorem SearchInv.shortest_snoc {node : String} {path : List JoinStep}
    {queue : List (String × List JoinStep)} {visited : List String}
    (h_inv : SearchInv edges source goal ((node, path) :: queue) visited) {e : JoinStep}
    (h_e : e ∈ edges) (h_src : e.source = node) (h_fresh : e.target ∉ visited) :
    Shortest edges source e.target (path ++ [e]) := by
  have h_path : Walk edges source node path := (h_inv.queued_shortest _ List.mem_cons_self).1
  refine ⟨walk_snoc.mpr ⟨h_src ▸ h_path, h_e, rfl⟩, fun w h_w => ?_⟩
  by_contra h_longer
  have h_len : w.length ≤ path.length := by simp at h_longer; omega
  exact h_fresh (h_inv.front_closed (node, path) rfl _ w h_w h_len)

/-- A model queued by expanding `node` is the target of one of `node`'s edges, queued with the
    front's walk and that edge. -/
theorem Expansion.walk_of_mem {node : String} {path : List JoinStep} {visited : List String}
    {new : List (String × List JoinStep)}
    (h_new : Expansion goal path (edges.filter (·.source == node)) visited new)
    {x : String × List JoinStep} (h_x : x ∈ new) :
    ∃ e ∈ edges, e.source = node ∧ x = (e.target, path ++ [e]) := by
  obtain ⟨e, h_e, h_eq⟩ := h_new.reached x h_x
  obtain ⟨h_edge, h_src⟩ := List.mem_filter.mp h_e
  exact ⟨e, h_edge, by simpa using h_src, h_eq⟩

theorem Expansion.length_of_mem {node : String} {path : List JoinStep} {visited : List String}
    {new : List (String × List JoinStep)}
    (h_new : Expansion goal path (edges.filter (·.source == node)) visited new)
    {x : String × List JoinStep} (h_x : x ∈ new) : x.2.length = path.length + 1 := by
  obtain ⟨e, -, -, rfl⟩ := h_new.walk_of_mem h_x
  simp

section Expand

variable {node : String} {path : List JoinStep} {queue new : List (String × List JoinStep)}
  {visited : List String}

/-- After an expansion every queued walk is shortest: the new ones are one join past the front's
    walk, to models that were not marked. -/
theorem SearchInv.expand_shortest (h_inv : SearchInv edges source goal ((node, path) :: queue) visited)
    (h_new : Expansion goal path (edges.filter (·.source == node)) visited new) :
    ∀ x ∈ queue ++ new, Shortest edges source x.1 x.2 := by
  intro x h_x
  rcases List.mem_append.mp h_x with h_old | h_in
  · exact h_inv.queued_shortest x (List.mem_cons_of_mem _ h_old)
  · obtain ⟨e, h_e, h_src, rfl⟩ := h_new.walk_of_mem h_in
    exact h_inv.shortest_snoc h_e h_src (h_new.fresh _ h_in)

/-- The queue keeps its order: the new walks are one longer than the front's. -/
theorem SearchInv.expand_levels (h_inv : SearchInv edges source goal ((node, path) :: queue) visited)
    (h_new : Expansion goal path (edges.filter (·.source == node)) visited new) :
    (queue ++ new).Pairwise fun x y => x.2.length ≤ y.2.length ∧ y.2.length ≤ x.2.length + 1 := by
  have h_levels := List.pairwise_cons.mp h_inv.levels
  refine List.pairwise_append.mpr ⟨h_levels.2, ?_, ?_⟩
  · exact List.pairwise_of_forall_mem_list fun x h_x y h_y => by
      rw [h_new.length_of_mem h_x, h_new.length_of_mem h_y]
      omega
  · intro x h_x y h_y
    have h_around : path.length ≤ x.2.length ∧ x.2.length ≤ path.length + 1 := h_levels.1 x h_x
    rw [h_new.length_of_mem h_y]
    omega

/-- After an expansion a marked model that has left the queue has its edges' targets marked: the
    node just expanded by the expansion, every other one as before. -/
theorem SearchInv.expand_expanded (h_inv : SearchInv edges source goal ((node, path) :: queue) visited)
    (h_new : Expansion goal path (edges.filter (·.source == node)) visited new) :
    ∀ y ∈ visited ++ new.map (·.1), y ∉ (queue ++ new).map (·.1) →
      ∀ e ∈ edges, e.source = y → e.target ∈ visited ++ new.map (·.1) := by
  intro y h_y h_left e h_e h_src
  by_cases h_node : y = node
  · -- the node just expanded: its edges' targets are all marked now
    subst h_node
    exact h_new.covers e (List.mem_filter.mpr ⟨h_e, by simp [h_src]⟩)
  · have h_old : y ∈ visited := by
      rcases List.mem_append.mp h_y with h_old | h_in
      · exact h_old
      · exact absurd (by simp only [List.map_append]; exact List.mem_append_right _ h_in) h_left
    have h_gone : y ∉ ((node, path) :: queue).map (·.1) := by
      simp only [List.map_cons, List.mem_cons, not_or]
      exact ⟨h_node, fun h_in => h_left (by simp only [List.map_append]; exact List.mem_append_left _ h_in)⟩
    exact List.mem_append_left _ (h_inv.expanded y h_old h_gone e h_e h_src)

/-- After an expansion every model that a walk no longer than the new front's reaches is marked.
    Such a walk is no longer than the old front's, or one join longer; then the model before the
    last join is at the old front's distance, marked and out of the queue, so it was expanded. -/
theorem SearchInv.expand_front_closed
    (h_inv : SearchInv edges source goal ((node, path) :: queue) visited)
    (h_new : Expansion goal path (edges.filter (·.source == node)) visited new) :
    ∀ x ∈ (queue ++ new).head?, ∀ y w, Walk edges source y w → w.length ≤ x.2.length →
      y ∈ visited ++ new.map (·.1) := by
  have h_around : ∀ x ∈ queue, path.length ≤ x.2.length ∧ x.2.length ≤ path.length + 1 :=
    (List.pairwise_cons.mp h_inv.levels).1
  have h_close : ∀ y w, Walk edges source y w → w.length ≤ path.length → y ∈ visited :=
    h_inv.front_closed (node, path) rfl
  have h_levels' := h_inv.expand_levels h_new
  intro x h_x y w h_w h_len
  obtain ⟨rest, h_queue⟩ : ∃ rest, queue ++ new = x :: rest := by
    cases h_q : queue ++ new with
    | nil => simp [h_q] at h_x
    | cons z rest =>
      rw [h_q] at h_x
      obtain rfl := Option.mem_some_iff.mp h_x
      exact ⟨rest, rfl⟩
  have h_x_mem : x ∈ queue ++ new := h_queue ▸ List.mem_cons_self
  have h_x_first : ∀ z ∈ queue ++ new, x.2.length ≤ z.2.length := by
    rw [h_queue] at h_levels'
    intro z h_z
    rw [h_queue] at h_z
    rcases List.mem_cons.mp h_z with rfl | h_in
    · exact Nat.le_refl _
    · exact ((List.pairwise_cons.mp h_levels').1 z h_in).1
  have h_x_len : x.2.length ≤ path.length + 1 := by
    rcases List.mem_append.mp h_x_mem with h_old | h_in
    · exact (h_around x h_old).2
    · exact Nat.le_of_eq (h_new.length_of_mem h_in)
  by_cases h_short : w.length ≤ path.length
  · exact List.mem_append_left _ (h_close y w h_w h_short)
  · obtain ⟨w', e, rfl⟩ : ∃ w' e, w = w' ++ [e] := by
      rcases List.eq_nil_or_concat w with rfl | ⟨w', e, rfl⟩
      · simp at h_short
      · exact ⟨w', e, by simp⟩
    obtain ⟨h_w', h_e, rfl⟩ := walk_snoc.mp h_w
    have h_w'_len : w'.length = path.length := by simp at h_short h_len; omega
    have h_prev : e.source ∈ visited := h_close _ w' h_w' (Nat.le_of_eq h_w'_len)
    -- the model before the last join is not queued: its queued walk would be too long
    have h_prev_gone : e.source ∉ (queue ++ new).map (·.1) := by
      intro h_in
      obtain ⟨z, h_z, h_eq⟩ := List.mem_map.mp h_in
      have h_min := (h_inv.expand_shortest h_new z h_z).2 w' (h_eq ▸ h_w')
      have h_far := h_x_first z h_z
      simp at h_len
      omega
    exact h_inv.expand_expanded h_new _ (List.mem_append_left _ h_prev) h_prev_gone e h_e rfl

/-- Expanding the front of the queue keeps the invariant. -/
theorem SearchInv.expand (h_inv : SearchInv edges source goal ((node, path) :: queue) visited)
    (h_new : Expansion goal path (edges.filter (·.source == node)) visited new) :
    SearchInv edges source goal (queue ++ new) (visited ++ new.map (·.1)) := by
  refine ⟨List.mem_append_left _ h_inv.source_visited, ?_, ?_, h_inv.expand_shortest h_new,
    h_inv.expand_levels h_new, h_inv.expand_front_closed h_new, h_inv.expand_expanded h_new⟩
  · intro h_goal
    rcases List.mem_append.mp h_goal with h_old | h_in
    · exact h_inv.goal_unvisited h_old
    · obtain ⟨x, h_x, h_eq⟩ := List.mem_map.mp h_in
      exact h_new.not_goal x h_x h_eq
  · intro x h_x
    rcases List.mem_append.mp h_x with h_old | h_in
    · exact List.mem_append_left _ (h_inv.queued_visited x (List.mem_cons_of_mem _ h_old))
    · exact List.mem_append_right _ (List.mem_map_of_mem h_in)

end Expand

/-- The answer a search for `goal` must give: a shortest walk to it, or none when no walk
    reaches it. -/
def SearchAnswer (edges : List JoinStep) (source goal : String) : Option (List JoinStep) → Prop
  | some steps => Shortest edges source goal steps
  | none => ∀ w, ¬ Walk edges source goal w

/-- A search whose fuel exceeds the models it may still queue and the queue gives the answer.
    The induction is on the fuel; `SearchInv.expand` carries the invariant across each step. -/
theorem search_answers {nodes : List String} (h_nodes : ∀ e ∈ edges, e.target ∈ nodes) :
    ∀ (fuel : Nat) (queue : List (String × List JoinStep)) (visited : List String),
      SearchInv edges source goal queue visited → visited.Nodup → visited ⊆ nodes →
      nodes.length - visited.length + queue.length < fuel →
      SearchAnswer edges source goal (search edges goal fuel queue visited) := by
  intro fuel
  induction fuel with
  | zero => intro _ _ _ _ _ h_fuel; omega
  | succ fuel ih =>
    intro queue visited h_inv h_nodup h_sub h_fuel
    match queue, h_inv, h_fuel with
    | [], h_inv, _ =>
      -- nothing is left to expand: the marks are closed under the edges, without the goal
      intro w h_w
      have h_closed : ∀ y ∈ visited, ∀ e ∈ edges, e.source = y → e.target ∈ visited :=
        fun y h_y => h_inv.expanded y h_y (by simp)
      exact h_inv.goal_unvisited (Walk.mem_of_closed h_closed h_w h_inv.source_visited)
    | (node, path) :: queue, h_inv, h_fuel =>
      simp only [search]
      split
      · -- an edge of the front reaches the goal
        rename_i found h_found
        obtain ⟨e, h_e, rfl, h_target⟩ := expand_found h_found
        obtain ⟨h_edge, h_src⟩ := List.mem_filter.mp h_e
        have h_src' : e.source = node := by simpa using h_src
        subst h_target
        exact h_inv.shortest_snoc h_edge h_src' h_inv.goal_unvisited
      · rename_i queue' visited' h_next
        obtain ⟨new, rfl, rfl, h_new⟩ := expand_inr h_next
        have h_nodup' : (visited ++ new.map (·.1)).Nodup :=
          List.nodup_append.mpr ⟨h_nodup, h_new.nodup, fun a h_a b h_b h_eq => by
            obtain ⟨x, h_x, rfl⟩ := List.mem_map.mp h_b
            exact h_new.fresh x h_x (h_eq ▸ h_a)⟩
        have h_sub' : visited ++ new.map (·.1) ⊆ nodes := by
          intro y h_y
          rcases List.mem_append.mp h_y with h_old | h_in
          · exact h_sub h_old
          · obtain ⟨x, h_x, rfl⟩ := List.mem_map.mp h_in
            obtain ⟨e, h_e, rfl⟩ := h_new.reached x h_x
            exact h_nodes e (List.mem_filter.mp h_e).1
        -- the new marks and the new queue entries are as many: the measure drops by one
        have h_bound := (h_nodup'.subperm h_sub').length_le
        have h_measure : nodes.length - (visited ++ new.map (·.1)).length + (queue ++ new).length < fuel := by
          simp only [List.length_append, List.length_map, List.length_cons] at h_bound h_fuel ⊢
          omega
        exact ih _ _ (h_inv.expand h_new) h_nodup' h_sub' h_measure

end Search

-- ============================================================================
-- Join paths
-- ============================================================================

/-- What a search for a join path from `a` to `b` must answer. -/
inductive PathAnswer (g : Graph) (a b : String) : Except Error JoinPath → Prop
  /-- Both models are registered, and the path is a shortest walk between them. -/
  | found (p : JoinPath) : g.hasModel a → g.hasModel b → Shortest g.edges a b p.steps →
      PathAnswer g a b (.ok p)
  | sourceMissing : g.hasModel a = false → PathAnswer g a b (.error (.modelNotFound a))
  | targetMissing : g.hasModel a → g.hasModel b = false →
      PathAnswer g a b (.error (.modelNotFound b))
  /-- Both models are registered, and no walk joins them. -/
  | unreachable : g.hasModel a → g.hasModel b → (∀ w, ¬ Walk g.edges a b w) →
      PathAnswer g a b (.error (.noPath a b))

theorem getModel_of_model? {g : Graph} {name : String} :
    g.getModel name = match g.model? name with
      | some m => .ok m
      | none => .error (.modelNotFound name) := rfl

theorem hasModel_eq_isSome {g : Graph} {name : String} : g.hasModel name = (g.model? name).isSome := rfl

/-- Looking for a path from a model that is not registered fails on it. -/
theorem findPath_of_source_missing {g : Graph} {a b : String} (h_a : g.hasModel a = false) :
    g.findPath a b = .error (.modelNotFound a) := by
  rw [hasModel_eq_isSome, Option.isSome_eq_false_iff, Option.isNone_iff_eq_none] at h_a
  simp [findPath, getModel_of_model?, h_a, bind, Except.bind]

/-- Looking for a path to a model that is not registered, from one that is, fails on it. -/
theorem findPath_of_target_missing {g : Graph} {a b : String} (h_a : g.hasModel a)
    (h_b : g.hasModel b = false) : g.findPath a b = .error (.modelNotFound b) := by
  obtain ⟨m, h_m⟩ := Option.isSome_iff_exists.mp h_a
  rw [hasModel_eq_isSome, Option.isSome_eq_false_iff, Option.isNone_iff_eq_none] at h_b
  simp [findPath, getModel_of_model?, h_m, h_b, bind, Except.bind]

/-- Between registered models the search gives a shortest walk, or fails when there is none. -/
theorem findPath_of_registered {g : Graph} {a b : String} (h_a : g.hasModel a) (h_b : g.hasModel b) :
    (∃ p, g.findPath a b = .ok p ∧ Shortest g.edges a b p.steps) ∨
      (g.findPath a b = .error (.noPath a b) ∧ ∀ w, ¬ Walk g.edges a b w) := by
  obtain ⟨ma, h_ma⟩ := Option.isSome_iff_exists.mp h_a
  obtain ⟨mb, h_mb⟩ := Option.isSome_iff_exists.mp h_b
  have h_names : a ∈ g.models.map (·.name) := mem_names_of_hasModel h_a
  simp only [findPath, getModel_of_model?, h_ma, h_mb, bind, Except.bind]
  split
  · -- a model reaches itself by the empty walk
    rename_i h_same
    exact .inl ⟨⟨[]⟩, rfl, by simpa using h_same, fun _ _ => Nat.zero_le _⟩
  · rename_i h_ne
    have h_ne' : a ≠ b := by simpa using h_ne
    -- the fuel is one more than the number of models, and the source is one of them
    have h_fuel : (g.models.map (·.name)).length - [a].length + [(a, ([] : List JoinStep))].length <
        g.models.length + 1 := by
      have := List.length_pos_of_mem h_names
      simp only [List.length_map] at this
      simp only [List.length_map, List.length_singleton]
      omega
    have h_answer := search_answers (fun e h_e => (mem_edges_names h_e).2) _ _ _
      (SearchInv.start h_ne') (by simp) (by simpa using h_names) h_fuel
    split
    · rename_i steps h_search
      rw [h_search] at h_answer
      exact .inl ⟨⟨steps⟩, rfl, h_answer⟩
    · rename_i h_search
      rw [h_search] at h_answer
      exact .inr ⟨rfl, h_answer⟩

/-- `findPath` answers as a breadth-first search must: a shortest walk along the join edges
    between two registered models; the first of the two models that is not registered; or no
    path, when no walk joins them. -/
theorem findPath_answers (g : Graph) (a b : String) : PathAnswer g a b (g.findPath a b) := by
  cases h_a : g.hasModel a with
  | false => exact findPath_of_source_missing h_a ▸ .sourceMissing h_a
  | true =>
    cases h_b : g.hasModel b with
    | false => exact findPath_of_target_missing h_a h_b ▸ .targetMissing h_a h_b
    | true =>
      rcases findPath_of_registered h_a h_b with ⟨p, h_p, h_short⟩ | ⟨h_none, h_unreachable⟩
      · exact h_p ▸ .found p h_a h_b h_short
      · exact h_none ▸ .unreachable h_a h_b h_unreachable

/-- A path is found exactly between registered models that some walk joins. -/
theorem findPath_ok_iff {g : Graph} {a b : String} :
    (∃ p, g.findPath a b = .ok p) ↔ g.hasModel a ∧ g.hasModel b ∧ ∃ w, Walk g.edges a b w := by
  constructor
  · rintro ⟨p, h_p⟩
    cases h_a : g.hasModel a
    · simp [findPath_of_source_missing h_a] at h_p
    cases h_b : g.hasModel b
    · simp [findPath_of_target_missing h_a h_b] at h_p
    rcases findPath_of_registered h_a h_b with ⟨q, h_q, h_short⟩ | ⟨h_none, -⟩
    · exact ⟨rfl, rfl, q.steps, h_short.1⟩
    · simp [h_none] at h_p
  · rintro ⟨h_a, h_b, w, h_w⟩
    rcases findPath_of_registered h_a h_b with ⟨p, h_p, -⟩ | ⟨-, h_unreachable⟩
    · exact ⟨p, h_p⟩
    · exact absurd h_w (h_unreachable w)

/-- A path that is found is a shortest walk. -/
theorem findPath_ok_shortest {g : Graph} {a b : String} {p : JoinPath} (h : g.findPath a b = .ok p) :
    Shortest g.edges a b p.steps := by
  obtain ⟨h_a, h_b, -⟩ := findPath_ok_iff.mp ⟨p, h⟩
  rcases findPath_of_registered h_a h_b with ⟨q, h_q, h_short⟩ | ⟨h_none, -⟩
  · rw [h] at h_q
    cases h_q
    exact h_short
  · simp [h_none] at h

end MetricLayer.Graph
