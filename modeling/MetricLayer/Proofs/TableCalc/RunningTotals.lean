import Mathlib
import MetricLayer.Proofs.TableCalc.Frames
/-!
# Running totals

`runningTotals` adds a column's numbers in row order with `addNum`: two integers give their
exact sum while it fits in 64 bits and a double otherwise, and a double with anything gives a
double. Each row reports the total of the rows up to it (`runningTotals_eq`), so over a column
that reads as integers a row holds the exact partial sum as long as every partial sum up to it
fits (`runningTotal_ints_of_fits`), and a double from the first partial sum that overflows on,
even where a later sum fits again (`runningTotal_ints_of_not_fits`). Together:
`runningTotals_exact_until_overflow`; `runningTotal_stays_float_after_overflow` is the column
`2^63 - 1, 1, -1`.
-/
namespace MetricLayer.TableCalc

open Formula Decimal

/-- The total after adding `values` in order, from zero. -/
def runningTotal (values : List Number) : Number := values.foldl addNum (.int 0)

/-- Two integers add exactly when the sum fits in 64 bits, as doubles otherwise. -/
theorem addNum_int_int (a b : Int) :
    addNum (.int a) (.int b) =
      if fitsI64 (a + b) then .int (a + b) else .float (ofInt a + ofInt b) :=
  rfl

/-- A double plus anything is a double. -/
theorem addNum_float (x : Float) (b : Number) : addNum (.float x) b = .float (x + b.toFloat) := rfl

theorem runningTotal_append_singleton (values : List Number) (v : Number) :
    runningTotal (values ++ [v]) = addNum (runningTotal values) v := by
  simp [runningTotal]

/-- The fold of `runningTotals` carries the total of what it has read and appends one cell
per value. -/
theorem foldl_runningTotals (values : List Number) (t : Number) (out : List Cell) :
    values.foldl (fun (acc : Number × List Cell) v =>
        (addNum acc.1 v, acc.2 ++ [Cell.ofNum (addNum acc.1 v)])) (t, out) =
      (values.foldl addNum t, (values.foldl (fun (acc : Number × List Cell) v =>
        (addNum acc.1 v, acc.2 ++ [Cell.ofNum (addNum acc.1 v)])) (t, out)).2) := by
  induction values generalizing t out with
  | nil => rfl
  | cons v vs ih => simp only [List.foldl_cons]; rw [ih]

theorem runningTotals_append_singleton (values : List Number) (v : Number) :
    runningTotals (values ++ [v]) =
      runningTotals values ++ [Cell.ofNum (runningTotal (values ++ [v]))] := by
  simp only [runningTotals, List.foldl_append, List.foldl_cons, List.foldl_nil]
  rw [foldl_runningTotals, runningTotal_append_singleton, runningTotal]

/-- Each row's running total is the total of the values up to and including it. -/
theorem runningTotals_eq (values : List Number) :
    runningTotals values =
      (List.range values.length).map fun i => Cell.ofNum (runningTotal (values.take (i + 1))) := by
  induction values using List.reverseRecOn with
  | nil => rfl
  | append_singleton vs v ih =>
    rw [runningTotals_append_singleton, ih, List.length_append, List.length_singleton,
      List.range_succ, List.map_append, List.map_singleton, List.take_of_length_le (by simp)]
    congr 1
    refine List.map_congr_left fun i h_i => ?_
    rw [List.take_append_of_le_length (by simp at h_i; omega)]

/-- Integers add up exactly while every partial sum fits in 64 bits. -/
theorem runningTotal_ints_of_fits {vs : List Int}
    (h : ∀ j < vs.length, fitsI64 (vs.take (j + 1)).sum = true) :
    runningTotal (vs.map .int) = .int vs.sum := by
  induction vs using List.reverseRecOn with
  | nil => rfl
  | append_singleton vs v ih =>
    have h_prefix : ∀ j < vs.length, fitsI64 (vs.take (j + 1)).sum = true := fun j h_j => by
      simpa [List.take_append_of_le_length (show j + 1 ≤ vs.length by omega)] using
        h j (by simp; omega)
    have h_last : fitsI64 (vs.sum + v) = true := by
      simpa [List.take_of_length_le] using h vs.length (by simp)
    rw [List.map_append, List.map_singleton, runningTotal_append_singleton, ih h_prefix,
      addNum_int_int, if_pos h_last, List.sum_append, List.sum_singleton]

/-- From the first partial sum that does not fit in 64 bits on, the total is a double. -/
theorem runningTotal_ints_of_not_fits {vs : List Int}
    (h : ∃ j < vs.length, fitsI64 (vs.take (j + 1)).sum = false) :
    ∃ x, runningTotal (vs.map .int) = .float x := by
  induction vs using List.reverseRecOn with
  | nil => simp at h
  | append_singleton vs v ih =>
    rw [List.map_append, List.map_singleton, runningTotal_append_singleton]
    by_cases h_earlier : ∃ j < vs.length, fitsI64 (vs.take (j + 1)).sum = false
    · -- an earlier partial sum overflowed: the total is already a double, and stays one
      obtain ⟨x, h_x⟩ := ih h_earlier
      exact ⟨_, by rw [h_x, addNum_float]⟩
    · -- the total so far is exact, and adding the last value overflows
      simp only [not_exists, not_and, Bool.not_eq_false] at h_earlier
      have h_last : fitsI64 (vs.sum + v) = false := by
        obtain ⟨j, h_j, h_fail⟩ := h
        have h_j_eq : j = vs.length := by
          by_contra h_ne
          have := h_earlier j (by simp at h_j; omega)
          rw [List.take_append_of_le_length (by simp at h_j; omega)] at h_fail
          simp_all
        subst h_j_eq
        simpa [List.take_of_length_le] using h_fail
      rw [runningTotal_ints_of_fits h_earlier, addNum_int_int, if_neg (by simp [h_last])]
      exact ⟨_, rfl⟩

/-- The cell a running total over integers reports at row `i`: the total of the first `i + 1`
values. -/
theorem getElem?_runningTotals_ints {vs : List Int} {i : Nat} (h_i : i < vs.length) :
    (runningTotals (vs.map .int))[i]? =
      some (Cell.ofNum (runningTotal ((vs.take (i + 1)).map .int))) := by
  rw [runningTotals_eq, List.getElem?_map, List.getElem?_range (by simpa using h_i),
    Option.map_some, List.map_take]

/-- Running totals of a column that reads as integers (Int cells, NULL as zero, integer text):
row `i` holds the exact sum of rows `0..=i` as an integer as long as every partial sum up to it
fits in 64 bits; from the first partial sum that does not fit on, every row holds a double. -/
theorem runningTotals_exact_until_overflow {f : Frame} {name field : String} {vs : List Int}
    (h_ints : f.numbers name field = .ok (vs.map .int)) :
    ∃ cells, applyStep f name (.runningTotal field) = .ok cells ∧
      cells.length = f.rows.length ∧
      ∀ i < cells.length,
        ((∀ j ≤ i, fitsI64 (vs.take (j + 1)).sum = true) →
          cells[i]? = some (.int (vs.take (i + 1)).sum)) ∧
        ((∃ j ≤ i, fitsI64 (vs.take (j + 1)).sum = false) →
          ∃ x, cells[i]? = some (.float x)) := by
  have h_rows : vs.length = f.rows.length := by simpa using length_numbers h_ints
  refine ⟨runningTotals (vs.map .int), by simp [applyStep, h_ints], ?_, fun i h_i => ?_⟩
  · rw [length_runningTotals, List.length_map, h_rows]
  · have h_i' : i < vs.length := by simpa [length_runningTotals] using h_i
    -- the first `i + 1` values of the column are themselves a column of integers
    have h_take : ∀ j ≤ i, (vs.take (i + 1)).take (j + 1) = vs.take (j + 1) := fun j h_j => by
      rw [List.take_take, Nat.min_eq_left (by omega)]
    have h_len : (vs.take (i + 1)).length = i + 1 := by simp; omega
    rw [getElem?_runningTotals_ints h_i']
    constructor
    · intro h_fit
      have h_exact : runningTotal ((vs.take (i + 1)).map .int) = .int (vs.take (i + 1)).sum :=
        runningTotal_ints_of_fits fun j h_j => by
          rw [h_take j (by omega)]
          exact h_fit j (by omega)
      rw [h_exact]
      rfl
    · rintro ⟨j, h_j, h_fail⟩
      have h_over : ∃ x, runningTotal ((vs.take (i + 1)).map .int) = .float x :=
        runningTotal_ints_of_not_fits ⟨j, by omega, by rw [h_take j h_j]; exact h_fail⟩
      obtain ⟨x, h_x⟩ := h_over
      exact ⟨x, by rw [h_x]; rfl⟩

/-- A column of an integer, a NULL and integer text. -/
theorem runningTotals_exact_until_overflow_mixed_cells :
    Frame.numbers ⟨["v"], [[.int 10], [.null], [.text "20"]]⟩ "t" "v" =
      .ok ([10, 0, 20].map .int) ∧
    ∃ cells, applyStep ⟨["v"], [[.int 10], [.null], [.text "20"]]⟩ "t" (.runningTotal "v") =
        .ok cells ∧
      cells.length = [[Cell.int 10], [.null], [.text "20"]].length ∧
      ∀ i < cells.length,
        ((∀ j ≤ i, fitsI64 ([10, 0, 20].take (j + 1)).sum = true) →
          cells[i]? = some (.int ([10, 0, 20].take (i + 1)).sum)) ∧
        ((∃ j ≤ i, fitsI64 ([10, 0, 20].take (j + 1)).sum = false) →
          ∃ x, cells[i]? = some (.float x)) := by
  have h_ints : Frame.numbers ⟨["v"], [[.int 10], [.null], [.text "20"]]⟩ "t" "v" =
      .ok ([10, 0, 20].map .int) := rfl
  exact ⟨h_ints, runningTotals_exact_until_overflow h_ints⟩

/-- The running total of `2^63 - 1`, `1` and `-1` overflows at the second row and stays a double
at the third, whose sum fits again. -/
theorem runningTotal_stays_float_after_overflow :
    fitsI64 (9223372036854775807 + 1 + -1) = true ∧
    ∃ x y, process [Calculation.mk "t" .runningTotal none none (some "v") [] [] none none]
      [[.int 9223372036854775807], [.int 1], [.int (-1)]] ["v"] =
      .ok ([[.int 9223372036854775807, .int 9223372036854775807], [.int 1, .float x],
        [.int (-1), .float y]], ["v", "t"]) :=
  ⟨by decide, _, _, rfl⟩

end MetricLayer.TableCalc
