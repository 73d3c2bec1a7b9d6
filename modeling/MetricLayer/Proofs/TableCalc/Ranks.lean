import Mathlib
import MetricLayer.Proofs.TableCalc.Frames
import MetricLayer.Proofs.Decimal.Integers
/-!
# Ranks

`ranks` sorts the row positions by value, largest first (`descendingOrder`, a stable merge sort
on `!(a < b)`), then walks them keeping the rank while the value repeats (`==`) and taking the
position plus one when it changes. Given any integer key that orders the values as `<` does and
tells them apart as `==` does, the walk gives every row its competition rank: one more than the
number of rows with a larger key (`ranks_eq_competition`). The invariant of the walk is
`foldl_rankStep`: after a prefix of the sorted rows it holds the rank of the last row read.

Away from NaN, `floatKey` is such a key, so on doubles none of which is NaN a row's rank is one
more than the number of larger doubles (`ranks_eq_of_not_nan`). Integers are ranked by the
doubles nearest to them, which are never NaN (`ranks_map_ofInt`); up to `2^53` in magnitude
these keep the order of the integers, so there the ranks are the integers' competition ranks
(`rank_by_nearest_doubles`). Past `2^53` two integers with one nearest double tie, as `2^53`
and `2^53 + 1` do (`rank_ties_integers_with_one_double`).
-/
namespace MetricLayer.TableCalc

open Formula Decimal

/-- One step of the walk over the rows in descending order: the rank stays while the value
repeats and becomes the position plus one otherwise. -/
def rankStep (values : List Float) (acc : Int × Option Float × List (Nat × Int))
    (entry : Nat × Nat) : Int × Option Float × List (Nat × Int) :=
  let v := values.getD entry.1 0
  let rank := if acc.2.1 == some v then acc.1 else entry.2 + 1
  (rank, some v, (entry.1, rank) :: acc.2.2)

theorem ranks_eq (values : List Float) :
    ranks values = (List.range values.length).map fun row =>
      match (((descendingOrder values).zipIdx.foldl (rankStep values) (1, none, [])).2.2.find?
        (·.1 == row)) with
      | some (_, r) => .int r
      | none => .null := rfl

theorem rankStep_eq (values : List Float) (rank : Int) (previous : Option Float)
    (out : List (Nat × Int)) (row position : Nat) :
    rankStep values (rank, previous, out) (row, position) =
      let r := if previous == some (values.getD row 0) then rank else position + 1
      (r, some (values.getD row 0), (row, r) :: out) := rfl

/-- The competition rank of row `r` among `rows` keyed by `k`: one more than the number of rows
with a larger key. -/
def competitionRank (k : Nat → Int) (rows : List Nat) (r : Nat) : Nat :=
  1 + rows.countP fun r' => k r < k r'

/-- Looking a row up among rows paired with their ranks finds its own rank. -/
theorem find?_ranked (order : List Nat) (rank : Nat → Int) {r : Nat} (h_r : r ∈ order) :
    (order.map fun z => (z, rank z)).reverse.find? (·.1 == r) = some (r, rank r) := by
  have h_some : ((order.map fun z => (z, rank z)).reverse.find? (·.1 == r)).isSome :=
    List.find?_isSome.mpr ⟨(r, rank r), by simpa using h_r, by simp⟩
  obtain ⟨p, h_p⟩ := Option.isSome_iff_exists.mp h_some
  have h_mem := List.mem_of_find?_eq_some h_p
  have h_fst := List.find?_some h_p
  simp only [List.mem_reverse, List.mem_map] at h_mem
  obtain ⟨z, -, rfl⟩ := h_mem
  simp only [beq_iff_eq] at h_fst
  rw [h_p, h_fst]

/-- The rows in descending order are the rows. -/
theorem descendingOrder_perm (values : List Float) :
    (descendingOrder values).Perm (List.range values.length) :=
  List.mergeSort_perm _ _

section Keys

variable {values : List Float} {k : Nat → Int}

/-- The rows in descending order are sorted by key, largest first. -/
theorem descendingOrder_sorted (h_lt : ∀ a b, values.getD a 0 < values.getD b 0 ↔ k a < k b) :
    (descendingOrder values).Pairwise fun a b => k b ≤ k a := by
  have h_le : ∀ a b, (!decide (values.getD a 0 < values.getD b 0)) = true ↔ k b ≤ k a := by
    intro a b
    rw [Bool.not_eq_true', decide_eq_false_iff_not, h_lt, not_lt]
  have h_sorted := List.pairwise_mergeSort
    (fun a b c (h_ab : (!decide (values.getD a 0 < values.getD b 0)) = true) h_bc => by
      rw [h_le] at h_ab h_bc ⊢
      omega)
    (fun a b => by
      rw [Bool.or_eq_true, h_le, h_le]
      omega)
    (List.range values.length)
  exact h_sorted.imp fun h => (h_le _ _).mp h

/-- After the walk has read a prefix `l` of a key-sorted order of the rows, it holds the rank of
the last row read (1 before any), that row's value, and every row read with its rank. -/
theorem foldl_rankStep (h_eq : ∀ a b, (values.getD a 0 == values.getD b 0) = true ↔ k a = k b)
    {order : List Nat} (h_sorted : order.Pairwise fun a b => k b ≤ k a) :
    ∀ l rest, order = l ++ rest →
      l.zipIdx.foldl (rankStep values) (1, none, []) =
        ((l.getLast?.map fun y => (competitionRank k order y : Int)).getD 1,
          l.getLast?.map (values.getD · 0),
          (l.map fun r => (r, (competitionRank k order r : Int))).reverse) := by
  intro l
  induction l using List.reverseRecOn with
  | nil => intro _ _; rfl
  | append_singleton l x ih =>
    intro rest h_split
    rw [List.append_assoc, List.singleton_append] at h_split
    rw [List.zipIdx_append, List.foldl_append, ih (x :: rest) h_split, Nat.zero_add,
      List.zipIdx_cons, List.zipIdx_nil, List.foldl_cons, List.foldl_nil, rankStep_eq]
    simp only [List.getLast?_concat, Option.map_some, Option.getD_some, List.map_append,
      List.map_singleton, List.reverse_append, List.reverse_singleton, List.singleton_append]
    subst h_split
    obtain ⟨h_sorted_l, h_sorted_rest, h_across⟩ := List.pairwise_append.mp h_sorted
    have h_after : (rest.countP fun z => k x < k z) = 0 :=
      List.countP_eq_zero.mpr fun z h_z => by
        simpa using (List.pairwise_cons.mp h_sorted_rest).1 z h_z
    -- the rank of `x` counts the rows read before it that have a larger key
    have h_rank : (competitionRank k (l ++ x :: rest) x : Int) =
        1 + (l.countP fun z => k x < k z) := by
      simp [competitionRank, List.countP_append, h_after]
    -- a row with a smaller key than every row read so far gets its position plus one
    have h_new : (∀ z ∈ l, k x < k z) →
        (l.length : Int) + 1 = competitionRank k (l ++ x :: rest) x := by
      intro h_all
      rw [h_rank, List.countP_eq_length.mpr fun z h_z => by simpa using h_all z h_z]
      omega
    cases h_last : l.getLast? with
    | none =>
      have h_nil : l = [] := List.getLast?_eq_none_iff.mp h_last
      have h_first : ((none : Option Float) == some (values.getD x 0)) = false := rfl
      simp only [Option.map_none, h_first, Bool.false_eq_true, if_false]
      rw [h_new (by simp [h_nil])]
    | some y =>
      obtain ⟨l', rfl⟩ := List.getLast?_eq_some_iff.mp h_last
      have h_y : k x ≤ k y := h_across y (by simp) x List.mem_cons_self
      rw [Option.map_some, Option.map_some, Option.getD_some, Option.some_beq_some]
      by_cases h_key : k y = k x
      · -- a tie keeps the rank of the row before
        have h_same : competitionRank k (l' ++ [y] ++ x :: rest) y =
            competitionRank k (l' ++ [y] ++ x :: rest) x := by
          simp only [competitionRank, h_key]
        rw [if_pos ((h_eq y x).mpr h_key), h_same]
      · have h_beq : (values.getD y 0 == values.getD x 0) = false := by
          rw [← Bool.not_eq_true, h_eq y x]
          exact h_key
        rw [h_beq, if_neg Bool.false_ne_true, h_new fun z h_z => ?_]
        rcases List.mem_append.mp h_z with h_z | h_z
        · have := (List.pairwise_append.mp h_sorted_l).2.2 z h_z y (by simp)
          omega
        · rw [List.mem_singleton.mp h_z]
          omega

/-- With keys that order the values as `<` does and tell equal values as `==` does, the walk
gives every row its competition rank. -/
theorem ranks_eq_competition (h_lt : ∀ a b, values.getD a 0 < values.getD b 0 ↔ k a < k b)
    (h_eq : ∀ a b, (values.getD a 0 == values.getD b 0) = true ↔ k a = k b) :
    ranks values = (List.range values.length).map fun r =>
      .int (competitionRank k (List.range values.length) r) := by
  rw [ranks_eq, foldl_rankStep h_eq (descendingOrder_sorted h_lt) _ [] (List.append_nil _).symm]
  refine List.map_congr_left fun r h_r => ?_
  have h_mem : r ∈ descendingOrder values := (descendingOrder_perm values).mem_iff.mpr h_r
  simp only [find?_ranked _ _ h_mem, competitionRank, (descendingOrder_perm values).countP_eq]

end Keys

theorem map_getD_range {α : Type} (l : List α) (d : α) :
    (List.range l.length).map (l.getD · d) = l := by
  refine List.ext_getElem (by simp) fun i _ h_i => ?_
  rw [List.getElem_map, List.getElem_range, List.getD_eq_getElem _ _ h_i]

/-- On doubles none of which is NaN, `ranks` is competition ranking: a row's rank is one more
than the number of rows with a larger value, so tied rows share a rank and the next value
skips the tied places. -/
theorem ranks_eq_of_not_nan {values : List Float} (h_num : ∀ x ∈ values, x.isNaN = false) :
    ranks values = values.map fun x => .int (1 + (values.countP fun y => x < y : Nat)) := by
  -- a position past the end reads the default `0`, which is not NaN either
  have h_getD : ∀ a, (values.getD a 0).isNaN = false := by
    intro a
    rw [List.getD_eq_getElem?_getD]
    cases h_a : values[a]? with
    | none => decide
    | some x => exact h_num x (List.mem_of_getElem? h_a)
  have h_lt : ∀ a b, values.getD a 0 < values.getD b 0 ↔
      floatKey (values.getD a 0) < floatKey (values.getD b 0) :=
    fun a b => lt_iff_floatKey (h_getD a) (h_getD b)
  have h_eq : ∀ a b, (values.getD a 0 == values.getD b 0) = true ↔
      floatKey (values.getD a 0) = floatKey (values.getD b 0) :=
    fun a b => beq_iff_floatKey (h_getD a) (h_getD b)
  rw [ranks_eq_competition h_lt h_eq]
  conv_rhs => rw [← map_getD_range values 0]
  simp only [List.map_map, List.countP_map]
  refine List.map_congr_left fun r _ => ?_
  simp only [Function.comp_apply, competitionRank]
  congr 3
  refine List.countP_congr fun r' _ => ?_
  simp only [Function.comp_apply, decide_eq_true_eq]
  exact (h_lt r r').symm

/-- Integers are ranked by the doubles nearest to them, none of which is NaN. -/
theorem ranks_map_ofInt (vs : List Int) :
    ranks (vs.map ofInt) =
      vs.map fun v => .int (1 + (vs.countP fun v' => ofInt v < ofInt v' : Nat)) := by
  have h_num : ∀ x ∈ vs.map ofInt, x.isNaN = false := by
    simp only [List.mem_map]
    rintro _ ⟨v, -, rfl⟩
    exact ofInt_isNaN_eq_false v
  rw [ranks_eq_of_not_nan h_num, List.map_map]
  simp only [Function.comp_def, List.countP_map]

/-- The Rank calculation over a column that reads as integers ranks the rows by the doubles
nearest to their values: a row's rank is one more than the number of rows whose value converts
to a larger double. Where every value is at most `2^53` in magnitude the conversion keeps the
order of the integers, and the ranks are competition ranks under that order. -/
theorem rank_by_nearest_doubles {f : Frame} {name field : String} {vs : List Int}
    (h_ints : f.numbers name field = .ok (vs.map .int)) :
    applyStep f name (.rank field) =
      .ok (vs.map fun v => .int (1 + (vs.countP fun v' => ofInt v < ofInt v' : Nat))) ∧
    ((∀ v ∈ vs, v.natAbs ≤ 2 ^ 53) → applyStep f name (.rank field) =
      .ok (vs.map fun v => .int (1 + (vs.countP fun v' => v < v' : Nat)))) := by
  have h_doubles : applyStep f name (.rank field) =
      .ok (vs.map fun v => .int (1 + (vs.countP fun v' => ofInt v < ofInt v' : Nat))) := by
    rw [applyStep, h_ints]
    show Except.ok (ranks ((vs.map Number.int).map Number.toFloat)) = _
    rw [List.map_map]
    exact congrArg Except.ok (ranks_map_ofInt vs)
  refine ⟨h_doubles, fun h_small => ?_⟩
  rw [h_doubles]
  refine congrArg Except.ok (List.map_congr_left fun v h_v => ?_)
  -- the doubles of two values compare as the values do
  have h_count : (vs.countP fun v' => ofInt v < ofInt v') = vs.countP fun v' => v < v' :=
    List.countP_congr fun v' h_v' => by
      simp only [decide_eq_true_eq]
      exact ofInt_lt_ofInt_iff (h_small v h_v) (h_small v' h_v')
  rw [h_count]

theorem rank_by_nearest_doubles_ties :
    Frame.numbers ⟨["v"], [[.int 3], [.text "5"], [.null], [.int 3]]⟩ "r" "v" =
      .ok ([3, 5, 0, 3].map .int) ∧
    applyStep ⟨["v"], [[.int 3], [.text "5"], [.null], [.int 3]]⟩ "r" (.rank "v") =
      .ok ([3, 5, 0, 3].map fun v =>
        .int (1 + ([3, 5, 0, 3].countP fun v' => ofInt v < ofInt v' : Nat))) ∧
    ((∀ v ∈ [3, 5, 0, 3], Int.natAbs v ≤ 2 ^ 53) →
      applyStep ⟨["v"], [[.int 3], [.text "5"], [.null], [.int 3]]⟩ "r" (.rank "v") =
        .ok ([3, 5, 0, 3].map fun v =>
          .int (1 + ([3, 5, 0, 3].countP fun v' => v < v' : Nat)))) := by
  have h_ints : Frame.numbers ⟨["v"], [[.int 3], [.text "5"], [.null], [.int 3]]⟩ "r" "v" =
      .ok ([3, 5, 0, 3].map .int) := rfl
  exact ⟨h_ints, rank_by_nearest_doubles h_ints⟩

/-- `2^53 + 1` and `2^53` convert to one double, so the Rank calculation ties them at rank 1,
though the first is the larger integer. -/
theorem rank_ties_integers_with_one_double :
    (9007199254740992 : Int) < 9007199254740993 ∧
    process [Calculation.mk "r" .rank none none (some "v") [] [] none none]
      [[.int 9007199254740993], [.int 9007199254740992]] ["v"] =
      .ok ([[.int 9007199254740993, .int 1], [.int 9007199254740992, .int 1]], ["v", "r"]) := by
  -- the sort is well-founded recursion, so the ranks are computed through their closed form
  have h_ranks : ranks ([9007199254740993, 9007199254740992].map ofInt) = [.int 1, .int 1] := by
    rw [ranks_map_ofInt]
    rfl
  have h_plan : (Calculation.mk "r" .rank none none (some "v") [] [] none none).plan =
      .ok (.rank "v") := rfl
  have h_empty : process [] [[.int 9007199254740993], [.int 9007199254740992]] ["v"] =
      .ok ([[.int 9007199254740993], [.int 9007199254740992]], ["v"]) := rfl
  have h_apply : applyStep ⟨["v"], [[.int 9007199254740993], [.int 9007199254740992]]⟩ "r"
      (.rank "v") = .ok [.int 1, .int 1] := by
    show Except.ok (ranks ([9007199254740993, 9007199254740992].map ofInt)) = _
    rw [h_ranks]
  refine ⟨by decide, ?_⟩
  rw [← List.nil_append [Calculation.mk "r" .rank none none (some "v") [] [] none none],
    process_append_singleton [] h_plan, h_empty]
  simp only [Except.ok_bind, h_apply]
  rfl

end MetricLayer.TableCalc
