import MetricLayer.Rollup.Router
import Mathlib.Data.List.Induction
/-!
# The router selects the first best match

`Rollup.route` checks every rollup of a model, in the order the model declares them. A rollup
that passes its five checks is a match and gets a score; the others get none. `Rollup.best` then
walks the scored candidates and keeps the first one whose score no later candidate beats: a
later candidate replaces it only with a strictly higher score.

`Rollup.FirstBest cs i s` states that outcome on its own: candidate `i` scores `s`, no candidate
scores more, and every candidate before `i` scores less. `best_firstBest` shows that `best`
finds it, and that it finds nothing exactly when no candidate has a score; the proof follows the
fold one candidate at a time, from the right (`best_append_singleton`).

Main statement: `Rollup.route_selects_first_best`.
-/

namespace MetricLayer.Rollup

-- ============================================================================
-- The best candidate
-- ============================================================================

/-- Candidate `i` of `cs` scores `s`, no candidate scores more, and every candidate before it
    scores less. -/
def FirstBest (cs : List Candidate) (i : Nat) (s : Int) : Prop :=
  (∃ c, cs[i]? = some c ∧ c.score = some s) ∧
    ∀ j c s', cs[j]? = some c → c.score = some s' → s' ≤ s ∧ (j < i → s' < s)

/-- The choice after one more candidate: it replaces the choice so far only with a strictly
    higher score, and is chosen when nothing was. -/
theorem best_append_singleton (cs : List Candidate) (c : Candidate) :
    best (cs ++ [c]) =
      match c.score, best cs with
      | some s, some (i, top) => if top ≥ s then some (i, top) else some (cs.length, s)
      | some s, none => some (cs.length, s)
      | none, b => b := by
  unfold best
  rw [List.zipIdx_append, List.foldl_append]
  simp only [List.zipIdx_cons, List.zipIdx_nil, Nat.zero_add, List.foldl_cons, List.foldl_nil]
  rcases c.score with _ | s <;> rcases List.foldl _ none (cs.zipIdx) with _ | ⟨i, top⟩ <;> rfl

/-- A candidate of a list with one more candidate is one of the list, or the new one. -/
theorem getElem?_append_singleton {cs : List Candidate} {c c' : Candidate} {j : Nat}
    (h : (cs ++ [c])[j]? = some c') : (j < cs.length ∧ cs[j]? = some c') ∨ (j = cs.length ∧ c' = c) := by
  by_cases h_j : j < cs.length
  · rw [List.getElem?_append_left h_j] at h
    exact .inl ⟨h_j, h⟩
  · rw [List.getElem?_append_right (Nat.le_of_not_lt h_j)] at h
    obtain ⟨h_zero, h_eq⟩ := List.getElem?_eq_some_iff.mp h
    refine .inr ⟨by simp at h_zero; omega, ?_⟩
    simp at h_eq
    exact h_eq.symm

namespace FirstBest

variable {cs : List Candidate} {c : Candidate} {i : Nat} {s : Int}

theorem lt_length (h : FirstBest cs i s) : i < cs.length := by
  obtain ⟨⟨c, h_c, -⟩, -⟩ := h
  exact (List.getElem?_eq_some_iff.mp h_c).1

/-- A candidate scoring no more than the best keeps it the best. -/
theorem append_of_le (h : FirstBest cs i s) (h_c : ∀ s', c.score = some s' → s' ≤ s) :
    FirstBest (cs ++ [c]) i s := by
  have h_i := h.lt_length
  obtain ⟨⟨c₀, h_c₀, h_score⟩, h_all⟩ := h
  refine ⟨⟨c₀, by rw [List.getElem?_append_left h_i]; exact h_c₀, h_score⟩, ?_⟩
  intro j c' s' h_j h_s'
  rcases getElem?_append_singleton h_j with ⟨-, h_old⟩ | ⟨rfl, rfl⟩
  · exact h_all j c' s' h_old h_s'
  · exact ⟨h_c s' h_s', fun h_lt => absurd h_lt (by omega)⟩

/-- A candidate scoring more than every earlier one is the best. -/
theorem append_of_gt (h_c : c.score = some s) (h_cs : ∀ c' ∈ cs, ∀ s', c'.score = some s' → s' < s) :
    FirstBest (cs ++ [c]) cs.length s := by
  refine ⟨⟨c, by simp, h_c⟩, ?_⟩
  intro j c' s' h_j h_s'
  rcases getElem?_append_singleton h_j with ⟨h_lt, h_old⟩ | ⟨rfl, rfl⟩
  · have := h_cs c' (List.mem_of_getElem? h_old) s' h_s'
    exact ⟨by omega, fun _ => this⟩
  · rw [h_c] at h_s'
    cases h_s'
    exact ⟨Int.le_refl _, fun h_lt => absurd h_lt (by omega)⟩

end FirstBest

/-- `best` finds the first best candidate, and finds none exactly when no candidate has a
    score. The induction adds one candidate at a time at the end, as the fold does. -/
theorem best_firstBest (cs : List Candidate) :
    (best cs = none ↔ ∀ c ∈ cs, c.score = none) ∧
      ∀ i s, best cs = some (i, s) → FirstBest cs i s := by
  induction cs using List.reverseRecOn with
  | nil => exact ⟨by simp [best], fun i s h => by simp [best] at h⟩
  | append_singleton cs c ih =>
    obtain ⟨h_none, h_some⟩ := ih
    rw [best_append_singleton]
    rcases h_c : c.score with _ | s'
    · -- an unscored candidate changes nothing
      refine ⟨?_, fun i s h => (h_some i s h).append_of_le (by simp [h_c])⟩
      simp only [List.mem_append, List.mem_singleton]
      constructor
      · intro h c' h_c'
        rcases h_c' with h_c' | rfl
        · exact h_none.mp h c' h_c'
        · exact h_c
      · exact fun h => h_none.mpr fun c' h_c' => h c' (.inl h_c')
    · -- a scored candidate makes some choice
      have scored : ∀ {b : Option (Nat × Int)}, b.isSome →
          (b = none ↔ ∀ c' ∈ cs ++ [c], c'.score = none) :=
        fun h_b => ⟨fun h => by simp [h] at h_b, fun h => absurd (h c (by simp)) (by simp [h_c])⟩
      rcases h_b : best cs with _ | ⟨i, top⟩
      · -- the first scored candidate is the best so far
        have h_unscored := h_none.mp h_b
        refine ⟨scored (by simp), fun i s h => ?_⟩
        cases h
        exact FirstBest.append_of_gt h_c fun c' h_c' s'' h_s'' => by
          rw [h_unscored c' h_c'] at h_s''
          cases h_s''
      · have h_best := h_some i top h_b
        dsimp only
        split
        · -- a score no higher keeps the earlier candidate
          rename_i h_ge
          refine ⟨scored (by simp), fun i' s h => ?_⟩
          cases h
          exact h_best.append_of_le fun s'' h_s'' => by
            rw [h_c] at h_s''
            cases h_s''
            exact h_ge
        · -- a strictly higher score wins
          rename_i h_lt
          refine ⟨scored (by simp), fun i' s h => ?_⟩
          cases h
          exact FirstBest.append_of_gt h_c fun c' h_c' s'' h_s'' => by
            obtain ⟨j, h_j, h_get⟩ := List.getElem_of_mem h_c'
            have := (h_best.2 j c' s'' (List.getElem?_eq_some_iff.mpr ⟨h_j, h_get⟩) h_s'').1
            omega

-- ============================================================================
-- Routing
-- ============================================================================

/-- The candidate a rollup is for a request before any is selected: its checks, whether all
    passed, and its score when they did. -/
def candidateOf (model : Model) (r : RoutingRequest) (p : PreAggregation) : Candidate :=
  let ks := checks model p r
  let matched := ks.all (·.passed)
  { name := p.name, matched := matched, score := if matched then some (score p r) else none,
    selected := false, checks := ks }

/-- The router selects the first best of the candidates its rollups make. -/
theorem route_selected (model : Model) (r : RoutingRequest) :
    (route model r).selected =
      (best (model.preAggregations.map (candidateOf model r))).map (·.1) := by
  unfold route
  split
  · rename_i h_empty
    simp [Decision.raw, List.isEmpty_iff.mp h_empty, best]
  · dsimp only
    split
    · rename_i i s h_best
      rw [show best (model.preAggregations.map (candidateOf model r)) = some (i, s) from h_best]
      rfl
    · rename_i h_best
      rw [show best (model.preAggregations.map (candidateOf model r)) = none from h_best]
      rfl

/-- Candidate `j` of a decision is what rollup `j` makes, selected exactly when `j` is the
    selection. -/
theorem route_getElem? (model : Model) (r : RoutingRequest) (j : Nat) :
    (route model r).candidates[j]? = (model.preAggregations[j]?.map (candidateOf model r)).map
      fun c => { c with selected := (route model r).selected == some j } := by
  rw [route_selected]
  unfold route
  split
  · rename_i h_empty
    simp [Decision.raw, List.isEmpty_iff.mp h_empty]
  · dsimp only
    split
    · rename_i i s h_best
      rw [show best (model.preAggregations.map (candidateOf model r)) = some (i, s) from h_best]
      simp only [List.getElem?_map, List.getElem?_zipIdx, Option.map_map]
      cases model.preAggregations[j]? with
      | none => rfl
      | some p =>
        by_cases h_j : j = i
        · subst h_j
          simp [candidateOf]
        · simp [candidateOf, h_j, Ne.symm h_j]
    · rename_i h_best
      rw [show best (model.preAggregations.map (candidateOf model r)) = none from h_best]
      simp only [List.getElem?_map, Option.map_map]
      cases model.preAggregations[j]? with
      | none => rfl
      | some p => simp [candidateOf]

/-- The router selects the first best match. Its candidates are the model's rollups in
    declaration order, each with its checks, matched exactly when all five pass, and scored
    exactly when matched. A candidate is selected exactly when its index is the selection. The
    router selects a rollup exactly when some candidate matched, and then the selected candidate
    is matched, no matched candidate scores more, and every matched candidate before it scores
    less. -/
theorem route_selects_first_best (model : Model) (r : RoutingRequest) :
    (route model r).candidates.length = model.preAggregations.length ∧
      (∀ (j : Nat) (p : PreAggregation), model.preAggregations[j]? = some p →
        ∃ c : Candidate, (route model r).candidates[j]? = some c ∧
        c.name = p.name ∧ c.checks = checks model p r ∧
        c.matched = (checks model p r).all (·.passed) ∧
        c.score = (if c.matched then some (score p r) else none)) ∧
      (∀ (j : Nat) (c : Candidate), (route model r).candidates[j]? = some c →
        (c.selected = true ↔ (route model r).selected = some j)) ∧
      ((∃ i : Nat, (route model r).selected = some i) ↔
        ∃ c ∈ (route model r).candidates, c.matched) ∧
      ∀ i : Nat, (route model r).selected = some i →
        ∃ (c : Candidate) (s : Int), (route model r).candidates[i]? = some c ∧
        c.matched ∧ c.score = some s ∧
        ∀ (j : Nat) (c' : Candidate) (s' : Int), (route model r).candidates[j]? = some c' →
          c'.matched → c'.score = some s' → s' ≤ s ∧ (j < i → s' < s) := by
  -- candidate `j` is what rollup `j` makes, with its selection flag
  have h_get : ∀ (j : Nat) (c : Candidate), (route model r).candidates[j]? = some c ↔ ∃ p,
      model.preAggregations[j]? = some p ∧
        c = { candidateOf model r p with selected := (route model r).selected == some j } := by
    intro j c
    rw [route_getElem?]
    cases model.preAggregations[j]? <;> simp [eq_comm]
  -- the rollups' candidates before selection, among which `best` chooses
  have h_made : ∀ (j : Nat) (c : Candidate), (model.preAggregations.map (candidateOf model r))[j]? = some c ↔
      ∃ p, model.preAggregations[j]? = some p ∧ c = candidateOf model r p := by
    intro j c
    rw [List.getElem?_map]
    cases model.preAggregations[j]? <;> simp [eq_comm]
  have h_scored : ∀ p : PreAggregation, (candidateOf model r p).matched ↔ (candidateOf model r p).score.isSome := by
    intro p
    by_cases h : ((checks model p r).all (·.passed)) = true <;> simp [candidateOf, h]
  obtain ⟨h_none, h_some⟩ := best_firstBest (model.preAggregations.map (candidateOf model r))
  refine ⟨?_, ?_, ?_, ?_, ?_⟩
  · -- one candidate per rollup
    have h_list : (route model r).candidates = model.preAggregations.zipIdx.map fun (p, j) =>
        { candidateOf model r p with selected := (route model r).selected == some j } := by
      refine List.ext_getElem? fun j => ?_
      rw [route_getElem?, List.getElem?_map, List.getElem?_zipIdx]
      cases model.preAggregations[j]? <;> simp
    simp [h_list]
  · intro j p h_p
    exact ⟨_, (h_get j _).mpr ⟨p, h_p, rfl⟩, rfl, rfl, rfl, by simp [candidateOf]⟩
  · intro j c h_c
    obtain ⟨p, -, rfl⟩ := (h_get j c).mp h_c
    simp
  · rw [route_selected]
    constructor
    · rintro ⟨i, h_i⟩
      obtain ⟨⟨i', s⟩, h_best, rfl⟩ := Option.map_eq_some_iff.mp h_i
      obtain ⟨⟨c, h_c, h_score⟩, -⟩ := h_some i' s h_best
      obtain ⟨p, h_p, rfl⟩ := (h_made i' c).mp h_c
      exact ⟨_, List.mem_of_getElem? ((h_get i' _).mpr ⟨p, h_p, rfl⟩),
        (h_scored p).mpr (by rw [h_score]; rfl)⟩
    · rintro ⟨c, h_c, h_matched⟩
      obtain ⟨j, h_j⟩ := List.mem_iff_getElem?.mp h_c
      obtain ⟨p, h_p, rfl⟩ := (h_get j c).mp h_j
      cases h_best : best (model.preAggregations.map (candidateOf model r)) with
      | none =>
        have h_unscored := h_none.mp h_best (candidateOf model r p)
          (List.mem_of_getElem? ((h_made j _).mpr ⟨p, h_p, rfl⟩))
        have h_isSome := (h_scored p).mp h_matched
        rw [h_unscored] at h_isSome
        cases h_isSome
      | some b => exact ⟨b.1, rfl⟩
  · intro i h_i
    rw [route_selected] at h_i
    obtain ⟨⟨i', s⟩, h_best, rfl⟩ := Option.map_eq_some_iff.mp h_i
    obtain ⟨⟨c, h_c, h_score⟩, h_all⟩ := h_some i' s h_best
    obtain ⟨p, h_p, rfl⟩ := (h_made i' c).mp h_c
    refine ⟨_, s, (h_get i' _).mpr ⟨p, h_p, rfl⟩, (h_scored p).mpr (by rw [h_score]; rfl), h_score, ?_⟩
    intro j c' s' h_c' _ h_s'
    obtain ⟨p', h_p', rfl⟩ := (h_get j c').mp h_c'
    exact h_all j _ s' ((h_made j _).mpr ⟨p', h_p', rfl⟩) h_s'

/-- Orders with two rollups that store the same: revenue by status. -/
def twinRollups : Model :=
  { name := "orders", primaryKey := "id", dimensions := [{ name := "status" }],
    metrics := [{ name := "revenue", agg := some .sum, sql := some "amount" }],
    preAggregations := [{ name := "first", measures := ["revenue"], dimensions := ["status"] },
      { name := "second", measures := ["revenue"], dimensions := ["status"] }] }

/-- Of two rollups that serve a query equally well, the first declared is selected. -/
example :
    (route twinRollups
      { metrics := ["revenue"], dimensions := [("status", none)],
        filters := [], segments := [] }).selected = some 0 := by
  decide +kernel

end MetricLayer.Rollup
