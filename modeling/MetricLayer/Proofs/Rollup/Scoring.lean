import MetricLayer.Proofs.Rollup.Selection
/-!
# The router prefers exact rollups

`Rollup.score` adds two parts. The dimension part (`dimensionScore`) gives 1000 to a rollup that
stores exactly the request's plain dimensions other than its time dimension, and takes 10 for
each stored dimension outside them. The grain part gives 100 when the requested grain is the
stored one, and otherwise takes 5 per level between them (`grainScore`); with six levels that is
at most 25.

So a rollup with an exact set of stored dimensions scores at least 975, and one that stores a
dimension the request does not ask for scores at most 90, whatever the grains. Since the router
selects a match with the highest score, it never selects the second while the first matches.

Main statement: `Rollup.exact_rollup_outscores_extra`.
-/

namespace MetricLayer.Rollup

open MetricLayer.Text

/-- Every grain is between level 1 (year) and level 6 (hour). -/
theorem Granularity.level_bounds (g : Granularity) : 1 ≤ g.level ∧ g.level ≤ 6 := by
  cases g <;> decide

/-- The dimension part of a score: 1000 when the rollup stores exactly the plain dimensions other
than its time dimension, less 10 for each stored dimension outside them. -/
def dimensionScore (p : PreAggregation) (r : RoutingRequest) : Int :=
  let queryDims := r.plainDimensions.filter fun x => p.timeDimension != some x
  let extra : Int := (p.dimensions.filter fun x => !queryDims.contains x).length
  let exact := extra == 0 && queryDims.all fun x => p.dimensions.contains x
  (if exact then 1000 else 0) - extra * 10

/-- The grain part of a score: 100 for the requested grain itself, else 5 less per level between
the requested and the stored grain; nothing when either is missing. -/
def grainScore (p : PreAggregation) (r : RoutingRequest) : Int :=
  match r.granularityFor p, p.granularity with
  | some q, some stored =>
    if q == stored then 100 else -((((q.level : Int) - (stored.level : Int)).natAbs : Int) * 5)
  | _, _ => 0

theorem score_eq_add (p : PreAggregation) (r : RoutingRequest) :
    score p r = dimensionScore p r + grainScore p r := by
  unfold score dimensionScore grainScore
  cases r.granularityFor p <;> cases p.granularity
  all_goals dsimp only
  · omega
  · omega
  · omega
  · split <;> omega

/-- The grain part is between -25 and 100: levels differ by at most 5. -/
theorem grainScore_bounds (p : PreAggregation) (r : RoutingRequest) :
    -25 ≤ grainScore p r ∧ grainScore p r ≤ 100 := by
  unfold grainScore
  split
  · rename_i q stored _ _
    have h_q := Granularity.level_bounds q
    have h_stored := Granularity.level_bounds stored
    split <;> omega
  · omega

/-- A rollup storing exactly the plain dimensions other than its time dimension gets the full
1000. -/
theorem dimensionScore_of_exact {p : PreAggregation} {r : RoutingRequest}
    (h : ∀ x, x ∈ p.dimensions ↔ x ∈ r.plainDimensions ∧ p.timeDimension ≠ some x) :
    dimensionScore p r = 1000 := by
  have h_none : p.dimensions.filter (fun x => !(r.plainDimensions.filter
      fun y => p.timeDimension != some y).contains x) = [] := by
    refine List.filter_eq_nil_iff.mpr fun x h_x => ?_
    obtain ⟨h_plain, h_td⟩ := (h x).mp h_x
    simpa [List.mem_filter] using And.intro h_plain h_td
  have h_all : (r.plainDimensions.filter fun y => p.timeDimension != some y).all
      (fun x => p.dimensions.contains x) = true := by
    simp only [List.all_eq_true, List.mem_filter, bne_iff_ne, ne_eq, List.contains_iff_mem]
    exact fun x ⟨h_plain, h_td⟩ => (h x).mpr ⟨h_plain, h_td⟩
  unfold dimensionScore
  simp only [h_none, h_all, List.length_nil]
  rfl

/-- A rollup that stores a dimension the request does not ask for without a grain loses at
least 10 and misses the 1000. -/
theorem dimensionScore_of_extra {p : PreAggregation} {r : RoutingRequest} {x : String}
    (h_x : x ∈ p.dimensions) (h_plain : x ∉ r.plainDimensions) : dimensionScore p r ≤ -10 := by
  have h_extra : x ∈ p.dimensions.filter (fun y => !(r.plainDimensions.filter
      fun z => p.timeDimension != some z).contains y) := by
    refine List.mem_filter.mpr ⟨h_x, ?_⟩
    have h_out : x ∉ r.plainDimensions.filter fun z => p.timeDimension != some z :=
      fun h => h_plain (List.mem_filter.mp h).1
    rw [Bool.not_eq_true', Bool.eq_false_iff, ne_eq, List.contains_iff_mem]
    exact h_out
  have h_pos := List.length_pos_of_mem h_extra
  unfold dimensionScore
  dsimp only
  split
  · rename_i h_exact
    simp only [Bool.and_eq_true, beq_iff_eq] at h_exact
    omega
  · omega

/-- A rollup storing exactly the request's plain dimensions other than its time dimension
scores more than any rollup storing a dimension the request does not ask for, whatever the
grains of both and of the request. So while the exact rollup matches, the router selects no
rollup of the other kind. -/
theorem exact_rollup_outscores_extra (model : Model) (r : RoutingRequest) (p q : PreAggregation)
    (h_exact : ∀ x, x ∈ p.dimensions ↔ x ∈ r.plainDimensions ∧ p.timeDimension ≠ some x)
    (h_extra : ∃ x ∈ q.dimensions, x ∉ r.plainDimensions)
    (h_p : p ∈ model.preAggregations) (h_checks : (checks model p r).all (·.passed) = true) :
    score q r < score p r ∧
      ∀ j, model.preAggregations[j]? = some q → (route model r).selected ≠ some j := by
  have h_lt : score q r < score p r := by
    obtain ⟨x, h_x, h_plain⟩ := h_extra
    have h_pg := grainScore_bounds p r
    have h_qg := grainScore_bounds q r
    rw [score_eq_add, score_eq_add]
    have h_pd := dimensionScore_of_exact h_exact
    have h_qd := dimensionScore_of_extra h_x h_plain
    omega
  refine ⟨h_lt, fun j h_q h_sel => ?_⟩
  -- the selected candidate scores at least as much as every scored one, `p`'s included
  rw [route_selected] at h_sel
  obtain ⟨⟨i, s⟩, h_best, h_i⟩ := Option.map_eq_some_iff.mp h_sel
  cases h_i
  obtain ⟨⟨c, h_c, h_s⟩, h_all⟩ := (best_firstBest _).2 i s h_best
  rw [List.getElem?_map, h_q] at h_c
  cases h_c
  have h_qs : score q r = s := by
    unfold candidateOf at h_s
    dsimp only at h_s
    split at h_s
    · exact Option.some.inj h_s
    · cases h_s
  obtain ⟨k, h_k⟩ := List.mem_iff_getElem?.mp h_p
  have h_ps : score p r ≤ s := by
    refine (h_all k (candidateOf model r p) (score p r) ?_ ?_).1
    · rw [List.getElem?_map, h_k]
      rfl
    · simp [candidateOf, h_checks]
  omega

/-- Revenue by status, stored hourly. -/
def hourlyByStatus : PreAggregation :=
  { name := "hourly", measures := ["revenue"], dimensions := ["status"],
    timeDimension := some "created_at", granularity := some .hour }

/-- Revenue by status and region, stored monthly. -/
def monthlyByRegion : PreAggregation :=
  { name := "monthly_by_region", measures := ["revenue"], dimensions := ["status", "region"],
    timeDimension := some "created_at", granularity := some .month }

/-- Orders with a status, a region and a creation time, and both rollups. -/
def statusRollups : Model :=
  { name := "orders", primaryKey := "id", table := some "orders",
    dimensions := [{ name := "status" }, { name := "region" },
      { name := "created_at", kind := .time, granularity := some .day }],
    metrics := [{ name := "revenue", agg := some .sum, sql := some "amount" }],
    preAggregations := [hourlyByStatus, monthlyByRegion] }

/-- Yearly revenue by status. -/
def yearlyByStatus : RoutingRequest :=
  { metrics := ["revenue"], dimensions := [("status", none), ("created_at", some .year)],
    filters := [], segments := [] }

/-- For yearly revenue by status, the hourly rollup is exact but five levels finer than asked;
the monthly one is nearer in grain but stores the region too. The hourly one wins. -/
theorem hourly_rollup_preferred_to_monthly_by_region :
    (∀ x, x ∈ hourlyByStatus.dimensions ↔
        x ∈ yearlyByStatus.plainDimensions ∧ hourlyByStatus.timeDimension ≠ some x) ∧
      (∃ x ∈ monthlyByRegion.dimensions, x ∉ yearlyByStatus.plainDimensions) ∧
      (checks statusRollups hourlyByStatus yearlyByStatus).all (·.passed) = true ∧
      score monthlyByRegion yearlyByStatus < score hourlyByStatus yearlyByStatus ∧
      (route statusRollups yearlyByStatus).selected ≠ some 1 := by
  have h_plain : yearlyByStatus.plainDimensions = ["status"] := by decide
  have h_exact : ∀ x, x ∈ hourlyByStatus.dimensions ↔
      x ∈ yearlyByStatus.plainDimensions ∧ hourlyByStatus.timeDimension ≠ some x := by
    intro x
    rw [h_plain]
    constructor
    · intro h
      rw [List.mem_singleton.mp h]
      decide
    · exact fun h => h.1
  have h_extra : ∃ x ∈ monthlyByRegion.dimensions, x ∉ yearlyByStatus.plainDimensions :=
    ⟨"region", by decide, by rw [h_plain]; decide⟩
  have h_checks : (checks statusRollups hourlyByStatus yearlyByStatus).all (·.passed) = true := by
    decide +kernel
  obtain ⟨h_lt, h_never⟩ := exact_rollup_outscores_extra statusRollups yearlyByStatus
    hourlyByStatus monthlyByRegion h_exact h_extra (by decide) h_checks
  exact ⟨h_exact, h_extra, h_checks, h_lt, h_never 1 rfl⟩

end MetricLayer.Rollup
