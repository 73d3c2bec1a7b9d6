import MetricLayer.Time.Relative
import MetricLayer.Validation.Metric
import MetricLayer.Compile.Builder
import MetricLayer.Proofs.Outcome
import MetricLayer.Proofs.Formula.Integers
/-!
# Amounts of time in 64 bits

Counts of periods are 64-bit integers, and every product or negation of them is checked:
past the range the result is `overflow`. This module says where that can happen.

A relative-date phrase reads `last N` for `N` from `0` to `2^63 - 1` (`parse_inRange`). Its first
day moves back `N` days, `7N` days for weeks, or `N` months, `3N` for quarters. `7N` and `3N` can
leave the 64-bit range (`RelativeDate.Overflows`). Then the first day, the range, and the rewrite
of a filter that compares a column with the phrase fail with `overflow`, and nothing else makes
any of them fail (`relativeDate_errors_iff_overflows`). `lastWeeks_max_overflows` is the filter
`d >= 'last 9223372036854775807 weeks'`.

A period-over-period comparison that passes its check looks back a non-zero amount. Its lag in
rows is that amount times the positive number of rows one unit spans at the grain
(`TimeUnit.lagRows`), so it has the offset's sign: a negative offset passes and gives a negative
lag (`dayAhead_lag_negative`). A rolling window may hold any 64-bit amount. A cumulative metric
that passes validation has a window that reads, and no period-to-date grain beside it, so its
frame is the interval of that amount (`comparison_and_window_amounts`). Each of these is
computed exactly while it fits in 64 bits.
-/

namespace MetricLayer

open MetricLayer.Decimal MetricLayer.Formula MetricLayer.Text

/-! ## Checked amounts -/

namespace Amount

theorem check_of_fits {i : Int} (h : fitsI64 i = true) : check i = .ok i := by
  simp [check, h]

theorem check_of_not_fits {i : Int} (h : fitsI64 i = false) : check i = .error .overflow := by
  simp [check, h]

end Amount

/-- An outcome that fails with `overflow` under `P` and has a value otherwise fails exactly under
`P`, and only with `overflow`. -/
theorem Except.eq_error_iff_of_cases {α : Type} {x : Except Error α} {P : Prop}
    (h_fail : P → x = .error .overflow) (h_ok : ¬ P → ∃ a, x = .ok a) (e : Error) :
    x = .error e ↔ e = .overflow ∧ P := by
  by_cases h_P : P
  · rw [h_fail h_P]
    simp [h_P, eq_comm]
  · obtain ⟨a, h_a⟩ := h_ok h_P
    simp [h_a, h_P]

/-- What `readI64?` reads fits in 64 bits. -/
theorem readI64?_fits {s : String} {n : Int} (h : readI64? s = some n) : fitsI64 n = true := by
  unfold readI64? at h
  split at h
  rename_i neg body _
  split at h
  · cases h
  · dsimp only at h
    generalize (if neg = true then -Int.ofNat (digitsValue body) else Int.ofNat (digitsValue body)) = v at h
    split at h
    · rename_i h_fits
      cases h
      exact h_fits
    · cases h

/-- A 64-bit integer written with digits alone is not negative. -/
theorem readI64?_of_digits {s : String} {n : Int} (h_digits : ∀ c ∈ s.toList, c.isDigit = true)
    (h : readI64? s = some n) : 0 ≤ n ∧ n ≤ i64Max := by
  refine ⟨?_, ((fitsI64_iff n).mp (readI64?_fits h)).2⟩
  unfold readI64? at h
  split at h
  rename_i neg body h_sign
  -- a text of digits starts with no sign
  have h_neg : neg = false := by
    split at h_sign
    · rename_i rest h_s
      simpa using h_digits '-' (by simp [h_s])
    all_goals
      cases h_sign
      rfl
  subst h_neg
  simp only [Bool.false_eq_true, if_false] at h
  split at h
  · cases h
  · split at h
    · cases h
      exact Int.natCast_nonneg _
    · cases h

/-- The amount of a window is a 64-bit integer. -/
theorem parseWindow_fits {w : String} {a : Int} {u : TimeUnit} (h : parseWindow w = .ok (a, u)) :
    fitsI64 a = true := by
  unfold parseWindow at h
  split at h
  · split at h
    · rename_i a' h_a
      obtain ⟨u', -, h_eq⟩ := Except.bind_eq_ok.mp h
      cases h_eq
      exact readI64?_fits h_a
    · cases h
  · cases h

/-! ## Intervals -/

namespace TimeUnit

/-- How many of its interval unit one unit is: three months for a quarter, itself otherwise. -/
def intervalFactor : TimeUnit → Int
  | quarter => 3
  | _ => 1

/-- The unit an interval is written in: months for quarters, the unit itself otherwise. -/
def intervalUnit : TimeUnit → TimeUnit
  | quarter => month
  | u => u

/-- Quarters are counted as three times as many months. -/
theorem intervalParts_quarter {n : Int} (h : fitsI64 (n * 3) = true) :
    quarter.intervalParts n = .ok (n * 3, "month") := by
  simp only [intervalParts, Amount.mul, Amount.check_of_fits h]
  rfl

theorem intervalParts_quarter_overflow {n : Int} (h : fitsI64 (n * 3) = false) :
    quarter.intervalParts n = .error .overflow := by
  simp only [intervalParts, Amount.mul, Amount.check_of_not_fits h]
  rfl

/-- Every other unit is counted as it is. -/
theorem intervalParts_of_ne {u : TimeUnit} (h : u ≠ quarter) (n : Int) :
    u.intervalParts n = .ok (n, u.name) := by
  cases u with
  | quarter => exact absurd rfl h
  | _ => rfl

/-- An interval counts its unit's share of its interval unit, exactly while that fits in
64 bits. -/
theorem intervalParts_of_fits {u : TimeUnit} {n : Int} (h : fitsI64 (n * u.intervalFactor) = true) :
    u.intervalParts n = .ok (n * u.intervalFactor, u.intervalUnit.name) := by
  cases u
  case quarter => exact intervalParts_quarter h
  all_goals simpa [intervalFactor, intervalUnit] using intervalParts_of_ne (by decide) n

end TimeUnit

/-- Dates move by every amount whose size fits in 64 bits, in every dialect. -/
theorem Dialect.dateAdd_ok (d : Dialect) (e : String) {a : Int} (unit : String)
    (h : fitsI64 a.natAbs = true) : ∃ s, d.dateAdd e a unit = .ok s := by
  have h_abs : Amount.abs a = .ok |a| := by
    rw [Amount.abs, Amount.check_of_fits h, Int.natCast_natAbs]
  have h_abs' : Amount.abs |a| = .ok |a| := by
    rw [Amount.abs, Int.natAbs_abs, Amount.check_of_fits h, Int.natCast_natAbs]
  cases d <;> simp [Dialect.dateAdd, Dialect.intervalLiteral, Dialect.quotedInterval, h_abs, h_abs',
    bind, Except.bind, pure, Except.pure]

/-! ## Relative dates -/

namespace RelativeDate

/-- The amounts a phrase can carry: `last N` counts from `0` to `2^63 - 1` periods, and a
calendar period is shifted by at most one. -/
def InRange : RelativeDate → Prop
  | .lastN n _ => 0 ≤ n ∧ n ≤ i64Max
  | .period s _ => -1 ≤ s ∧ s ≤ 1
  | _ => True

/-- A phrase whose first day lies more than `2^63 - 1` days or months back: `last N weeks`, which
goes back `7N` days, and `last N quarters`, which goes back `3N` months. -/
def Overflows : RelativeDate → Prop
  | .lastN n .week => i64Max < n * 7
  | .lastN n .quarter => i64Max < n * 3
  | _ => False

theorem readLastN_inRange {rest : String} {r : RelativeDate} (h : readLastN rest = some r) :
    r.InRange := by
  simp only [readLastN] at h
  split at h
  case h_2 => cases h
  case h_1 digits unitText _ =>
  split at h
  case isTrue => cases h
  case isFalse h_digits =>
  simp only [Bool.or_eq_true, Bool.not_eq_true', not_or, Bool.not_eq_false,
    List.all_eq_true] at h_digits
  split at h
  case h_2 => cases h
  case h_1 u n _ h_n =>
  obtain ⟨v, -, rfl⟩ := Option.map_eq_some_iff.mp h
  exact readI64?_of_digits h_digits.2 h_n

/-- Every phrase `parse` reads carries amounts in range. -/
theorem parse_inRange {phrase : String} {r : RelativeDate} (h : parse phrase = some r) :
    r.InRange := by
  simp only [parse] at h
  generalize toLowerText (trimBlank phrase) = p at h
  split at h
  · cases h; trivial
  split at h
  · cases h; trivial
  split at h
  · cases h; trivial
  split at h
  · -- `last N units`
    rename_i r' h_last
    cases h
    split at h_last
    · exact readLastN_inRange h_last
    · cases h_last
  · -- `this|last|next unit`: a shift of `0`, `-1` or `1`
    split at h
    · split at h
      · rename_i s unit h_shift _
        cases h
        split at h_shift
        · cases h_shift; exact ⟨by decide, by decide⟩
        split at h_shift
        · cases h_shift; exact ⟨by decide, by decide⟩
        split at h_shift
        · cases h_shift; exact ⟨by decide, by decide⟩
        · cases h_shift
      · cases h
    · cases h

/-- The first day of a phrase whose amounts stay in 64 bits has a text in every dialect. -/
theorem startSql_ok {r : RelativeDate} (h_r : r.InRange) (h : ¬ r.Overflows) (d : Dialect) :
    ∃ s, r.startSql d = .ok s := by
  have h_max : i64Max = 9223372036854775807 := rfl
  cases r with
  | today => exact ⟨_, rfl⟩
  | yesterday => exact d.dateAdd_ok _ _ (by decide)
  | tomorrow => exact d.dateAdd_ok _ _ (by decide)
  | lastN n u =>
    obtain ⟨h_0, h_n⟩ := h_r
    rw [h_max] at h_n
    have h_neg : Amount.neg n = .ok (-n) := Amount.check_of_fits (by rw [fitsI64_iff]; omega)
    cases u with
    | day =>
      rw [startSql, h_neg]
      exact d.dateAdd_ok _ _ (by rw [fitsI64_iff]; omega)
    | week =>
      have h_7 : ¬ 9223372036854775807 < n * 7 := h
      have h_mul : Amount.mul (-n) 7 = .ok (-n * 7) :=
        Amount.check_of_fits (by rw [fitsI64_iff]; omega)
      simp only [startSql, h_neg, h_mul, bind, Except.bind]
      exact d.dateAdd_ok _ _ (by rw [fitsI64_iff]; omega)
    | quarter =>
      -- back from the start of this quarter, in months
      have h_3 : ¬ 9223372036854775807 < n * 3 := h
      have h_parts := TimeUnit.intervalParts_quarter (n := n) (by rw [fitsI64_iff]; omega)
      have h_neg3 : Amount.neg (n * 3) = .ok (-(n * 3)) :=
        Amount.check_of_fits (by rw [fitsI64_iff]; omega)
      simp only [startSql, h_parts, h_neg3, bind, Except.bind]
      exact d.dateAdd_ok _ _ (by rw [fitsI64_iff]; omega)
    | month | year =>
      simp only [startSql, TimeUnit.intervalParts_of_ne (u := .month) nofun,
        TimeUnit.intervalParts_of_ne (u := .year) nofun, h_neg, bind, Except.bind]
      exact d.dateAdd_ok _ _ (by rw [fitsI64_iff]; omega)
  | period s u =>
    obtain ⟨h_lo, h_hi⟩ := h_r
    simp only [startSql]
    split
    · exact ⟨_, rfl⟩
    · -- a shift of one period, three months for a quarter
      by_cases h_u : u = .quarter
      · subst h_u
        have h_parts := TimeUnit.intervalParts_quarter (n := s) (by rw [fitsI64_iff]; omega)
        simp only [h_parts, bind, Except.bind]
        exact d.dateAdd_ok _ _ (by rw [fitsI64_iff]; omega)
      · simp only [TimeUnit.intervalParts_of_ne h_u, bind, Except.bind]
        exact d.dateAdd_ok _ _ (by rw [fitsI64_iff]; omega)

/-- A phrase whose amounts leave 64 bits has no first day: computing it overflows. -/
theorem startSql_overflow {r : RelativeDate} (h_r : r.InRange) (h : r.Overflows) (d : Dialect) :
    r.startSql d = .error .overflow := by
  have h_max : i64Max = 9223372036854775807 := rfl
  cases r with
  | lastN n u =>
    obtain ⟨h_0, h_n⟩ := h_r
    rw [h_max] at h_n
    have h_neg : Amount.neg n = .ok (-n) := Amount.check_of_fits (by rw [fitsI64_iff]; omega)
    cases u with
    | week =>
      have h_7 : 9223372036854775807 < n * 7 := h
      have h_mul : Amount.mul (-n) 7 = .error .overflow := by
        refine Amount.check_of_not_fits (Bool.eq_false_iff.mpr fun h_fits => ?_)
        rw [fitsI64_iff] at h_fits
        omega
      simp only [startSql, h_neg, h_mul, bind, Except.bind]
    | quarter =>
      have h_3 : 9223372036854775807 < n * 3 := h
      have h_parts := TimeUnit.intervalParts_quarter_overflow (n := n)
        (Bool.eq_false_iff.mpr fun h_fits => by rw [fitsI64_iff] at h_fits; omega)
      simp only [startSql, h_parts, bind, Except.bind]
    | day | month | year => exact h.elim
  | today | yesterday | tomorrow | period => exact h.elim

/-- The range of a phrase starts at its first day and ends at a day that always has a text, so
it fails exactly when the first day does. -/
theorem toRange_ok {r : RelativeDate} (h_r : r.InRange) (h : ¬ r.Overflows) (column : String)
    (d : Dialect) : ∃ s, r.toRange column d = .ok s := by
  obtain ⟨start, h_start⟩ := startSql_ok h_r h d
  simp only [toRange, h_start, bind, Except.bind]
  cases r with
  | period k u =>
    -- the end is one period after the first day
    by_cases h_u : u = .quarter
    · subst h_u
      simp only [TimeUnit.intervalParts_quarter (n := 1) (by decide)]
      obtain ⟨stop, h_stop⟩ := d.dateAdd_ok start (a := 1 * 3) "month" (by decide)
      exact ⟨_, by simp only [h_stop]; rfl⟩
    · simp only [TimeUnit.intervalParts_of_ne h_u]
      obtain ⟨stop, h_stop⟩ := d.dateAdd_ok start (a := 1) u.name (by decide)
      exact ⟨_, by simp only [h_stop]; rfl⟩
  | lastN n u => cases u <;> exact ⟨_, rfl⟩
  | today | yesterday | tomorrow => exact ⟨_, rfl⟩

theorem toRange_overflow {r : RelativeDate} (h_r : r.InRange) (h : r.Overflows) (column : String)
    (d : Dialect) : r.toRange column d = .error .overflow := by
  simp only [toRange, startSql_overflow h_r h d, bind, Except.bind]

end RelativeDate

/-- A filter that compares a column with a phrase whose amounts leave 64 bits, with an operator
the rewrite expands, has no rewrite. -/
theorem expandRelativeDates_overflow {F column op value : String} {r : RelativeDate}
    (h_split : splitComparison (trimBlank F) = some (column, op, value))
    (h_parse : RelativeDate.parse value = some r) (h_op : op = ">=" ∨ op = ">" ∨ op = "=")
    (h : r.Overflows) (d : Dialect) : expandRelativeDates F d = .error .overflow := by
  have h_r := RelativeDate.parse_inRange h_parse
  simp only [expandRelativeDates, h_split, h_parse]
  rcases h_op with rfl | rfl | rfl
  all_goals simp [RelativeDate.startSql_overflow h_r h d, RelativeDate.toRange_overflow h_r h,
    bind, Except.bind]

theorem expandRelativeDates_ok {F : String} (d : Dialect)
    (h : ¬ ∃ column op value r, splitComparison (trimBlank F) = some (column, op, value) ∧
      RelativeDate.parse value = some r ∧ (op = ">=" ∨ op = ">" ∨ op = "=") ∧ r.Overflows) :
    ∃ out, expandRelativeDates F d = .ok out := by
  unfold expandRelativeDates
  split
  · exact ⟨_, rfl⟩
  rename_i column op value h_split
  split
  · exact ⟨_, rfl⟩
  rename_i r h_parse
  have h_r := RelativeDate.parse_inRange h_parse
  split
  · -- `>=` and `>`: the first day
    rename_i h_op
    have h_op' : op = ">=" ∨ op = ">" := by simpa using h_op
    have h_ok : ¬ r.Overflows := fun h_over =>
      h ⟨column, op, value, r, h_split, h_parse, h_op'.elim .inl (.inr ∘ .inl), h_over⟩
    obtain ⟨start, h_start⟩ := RelativeDate.startSql_ok h_r h_ok d
    exact ⟨_, by simp only [h_start, bind, Except.bind]; rfl⟩
  split
  · -- `=`: the range
    rename_i h_op
    have h_ok : ¬ r.Overflows := fun h_over =>
      h ⟨column, op, value, r, h_split, h_parse, .inr (.inr (by simpa using h_op)), h_over⟩
    exact RelativeDate.toRange_ok h_r h_ok column d
  · exact ⟨_, rfl⟩

/-- Relative dates fail only past 64 bits. For every phrase `parse` reads, the first day and the
range fail exactly when the phrase goes back more than `2^63 - 1` days or months, and then with
`overflow`. The rewrite of a filter fails exactly when the filter compares a column with such a
phrase by `>=`, `>` or `=`. -/
theorem relativeDate_errors_iff_overflows (d : Dialect) :
    (∀ phrase r, RelativeDate.parse phrase = some r → ∀ column e,
      (r.startSql d = .error e ↔ e = .overflow ∧ r.Overflows) ∧
      (r.toRange column d = .error e ↔ e = .overflow ∧ r.Overflows)) ∧
    ∀ F e, expandRelativeDates F d = .error e ↔ e = .overflow ∧
      ∃ column op value r, splitComparison (trimBlank F) = some (column, op, value) ∧
        RelativeDate.parse value = some r ∧ (op = ">=" ∨ op = ">" ∨ op = "=") ∧ r.Overflows := by
  refine ⟨fun phrase r h_parse column e => ?_, fun F => ?_⟩
  · have h_r := RelativeDate.parse_inRange h_parse
    exact ⟨Except.eq_error_iff_of_cases (fun h => RelativeDate.startSql_overflow h_r h d)
        (fun h => RelativeDate.startSql_ok h_r h d) e,
      Except.eq_error_iff_of_cases (fun h => RelativeDate.toRange_overflow h_r h column d)
        (fun h => RelativeDate.toRange_ok h_r h column d) e⟩
  · refine Except.eq_error_iff_of_cases ?_ (expandRelativeDates_ok d)
    rintro ⟨column, op, value, r, h_split, h_parse, h_op, h⟩
    exact expandRelativeDates_overflow h_split h_parse h_op h d

/-- `last 9223372036854775807 weeks` goes back seven times `2^63 - 1` days: the rewrite of a filter
on it overflows. -/
theorem lastWeeks_max_overflows :
    expandRelativeDates "d >= 'last 9223372036854775807 weeks'" .duckdb = .error .overflow := by
  decide +kernel

/-! ## Comparison offsets and rolling windows -/

namespace TimeUnit

/-- Rows of a result grouped at `grain` that one unit spans, as a look-back counts them: without
a grain, twelve monthly rows for a year and one row for any other unit. -/
def lagRows (u : TimeUnit) : Option Granularity → Int
  | some g => u.rowsPerUnit g
  | none => if u = year then 12 else 1

theorem lagRows_pos (u : TimeUnit) (grain : Option Granularity) : 0 < u.lagRows grain := by
  cases grain with
  | some g => cases u <;> cases g <;> decide
  | none => cases u <;> decide

end TimeUnit

namespace TimeComparison

/-- A comparison that passes its check looks back a non-zero amount: its own offset, which may
not be zero, or its type's default of one period. -/
theorem offsetInterval_ne_zero {c : TimeComparison} (h : c.validate = .ok ()) :
    c.offsetInterval.1 ≠ 0 := by
  unfold validate at h
  unfold offsetInterval
  split at h
  · cases h
  · cases h
  · rename_i h_zero _
    split
    · rename_i a u h_a _
      exact fun h_0 => h_zero (h_0 ▸ h_a)
    · cases c.type <;> decide

/-- The look-back in rows is the amount times the rows one unit spans, while that fits in
64 bits. -/
theorem lagOffset_of_fits (c : TimeComparison) (grain : Option Granularity)
    (h : fitsI64 (c.offsetInterval.1 * c.offsetInterval.2.lagRows grain) = true) :
    c.lagOffset grain = .ok (c.offsetInterval.1 * c.offsetInterval.2.lagRows grain) := by
  unfold lagOffset
  generalize c.offsetInterval = p at h ⊢
  obtain ⟨a, u⟩ := p
  cases grain with
  | some g => exact Amount.check_of_fits h
  | none =>
    by_cases h_u : u = .year
    · subst h_u
      exact Amount.check_of_fits h
    · simp only [TimeUnit.lagRows, h_u, if_false, Int.mul_one] at h ⊢
      simp [h_u]

/-- The look-back as an interval counts the offset in the interval unit, three months to a
quarter, while that fits in 64 bits. -/
theorem sqlOffset_of_fits (c : TimeComparison) (d : Dialect)
    (h : fitsI64 (c.offsetInterval.1 * c.offsetInterval.2.intervalFactor) = true) :
    c.sqlOffset d = d.intervalLiteral (c.offsetInterval.1 * c.offsetInterval.2.intervalFactor)
      c.offsetInterval.2.intervalUnit.name := by
  unfold sqlOffset
  generalize c.offsetInterval = p at h ⊢
  obtain ⟨a, u⟩ := p
  simp only [TimeUnit.intervalParts_of_fits h, bind, Except.bind]

end TimeComparison

/-- A metric that passes validation has no problem with the fields of its kind. -/
theorem Graph.shapeProblems_of_validateMetric {g : Graph} {m : Metric} {context : Option String}
    (h : g.validateMetric m context = .ok ()) : g.shapeProblems m context = [] := by
  unfold Graph.validateMetric Graph.metricProblems at h
  split at h
  · rename_i h_nil
    exact (List.append_eq_nil_iff.mp h_nil).1
  · cases h

/-- A cumulative metric that passes validation has a window that reads, and no period-to-date
grain beside it. -/
theorem Graph.window_of_validateMetric {g : Graph} {m : Metric} {context : Option String} {w : String}
    (h : g.validateMetric m context = .ok ()) (h_kind : m.kind = .cumulative) (h_w : m.window = some w) :
    (∃ a u, parseWindow w = .ok (a, u)) ∧ m.grainToDate = none := by
  have h_shape := Graph.shapeProblems_of_validateMetric h
  simp only [Graph.shapeProblems, h_kind, h_w, List.append_eq_nil_iff] at h_shape
  obtain ⟨-, h_parse, h_grain⟩ := h_shape
  refine ⟨?_, ?_⟩
  · split at h_parse
    · cases h_parse
    · rename_i p h_p
      exact ⟨p.1, p.2, h_p⟩
  · simpa using h_grain

/-- A rolling window runs a range frame from the window's interval before each row to the row. -/
theorem QueryContext.cumulativeExpression_window (ctx : QueryContext) {m : Metric} {w : String}
    {a : Int} {u : TimeUnit} (h_grain : m.grainToDate = none) (h_w : m.window = some w)
    (h_parse : parseWindow w = .ok (a, u)) (h_fits : fitsI64 (a * u.intervalFactor) = true)
    {i : String} (h_i : ctx.dialect.intervalLiteral (a * u.intervalFactor) u.intervalUnit.name = .ok (some i))
    (input order : Sql.Expr) (series : List Sql.Expr) :
    ∃ running, ctx.cumulativeExpression m input order series =
      .ok (.window running series [order] (some ⟨.range, .intervalPreceding i, .currentRow⟩)) := by
  simp only [QueryContext.cumulativeExpression, h_grain, h_w, h_parse,
    TimeUnit.intervalParts_of_fits h_fits, h_i, bind, Except.bind]
  exact ⟨_, rfl⟩

/-- Look-backs and windows count exact amounts of any sign. A comparison that passes its check
lags a non-zero number of rows with the sign of its offset: the offset times the rows one unit
spans at the grain. Its interval counts the offset in months for quarters. A cumulative metric
that passes validation reads its window as a 64-bit amount, and its frame is the interval of that
amount, in months for quarters. Each is computed exactly while it fits in 64 bits. -/
theorem comparison_and_window_amounts :
    (∀ c : TimeComparison, c.validate = .ok () → ∀ grain,
      c.offsetInterval.1 * c.offsetInterval.2.lagRows grain ≠ 0 ∧
      (0 < c.offsetInterval.1 * c.offsetInterval.2.lagRows grain ↔ 0 < c.offsetInterval.1) ∧
      (fitsI64 (c.offsetInterval.1 * c.offsetInterval.2.lagRows grain) = true →
        c.lagOffset grain = .ok (c.offsetInterval.1 * c.offsetInterval.2.lagRows grain)) ∧
      ∀ d, fitsI64 (c.offsetInterval.1 * c.offsetInterval.2.intervalFactor) = true →
        c.sqlOffset d = d.intervalLiteral (c.offsetInterval.1 * c.offsetInterval.2.intervalFactor)
          c.offsetInterval.2.intervalUnit.name) ∧
    ∀ (g : Graph) m context w, g.validateMetric m context = .ok () → m.kind = .cumulative →
      m.window = some w → ∃ a u, parseWindow w = .ok (a, u) ∧ fitsI64 a = true ∧
        ∀ (ctx : QueryContext) input order series i, fitsI64 (a * u.intervalFactor) = true →
          ctx.dialect.intervalLiteral (a * u.intervalFactor) u.intervalUnit.name = .ok (some i) →
          ∃ running, ctx.cumulativeExpression m input order series =
            .ok (.window running series [order] (some ⟨.range, .intervalPreceding i, .currentRow⟩)) := by
  refine ⟨fun c h_valid grain => ?_, fun g m context w h_valid h_kind h_w => ?_⟩
  · have h_a := TimeComparison.offsetInterval_ne_zero h_valid
    have h_rows := c.offsetInterval.2.lagRows_pos grain
    refine ⟨Int.mul_ne_zero h_a (Int.ne_of_gt h_rows), ?_, c.lagOffset_of_fits grain,
      fun d => c.sqlOffset_of_fits d⟩
    -- a positive number of rows keeps the offset's sign
    exact ⟨fun h_pos => Int.pos_of_mul_pos_left h_pos h_rows, fun h_pos => Int.mul_pos h_pos h_rows⟩
  · obtain ⟨⟨a, u, h_parse⟩, h_grain⟩ := Graph.window_of_validateMetric h_valid h_kind h_w
    exact ⟨a, u, h_parse, parseWindow_fits h_parse, fun ctx input order series _ h_fits h_i =>
      ctx.cumulativeExpression_window h_grain h_w h_parse h_fits h_i input order series⟩

/-- A comparison one day forward passes its check, and lags `-1` rows: a negative count. -/
theorem dayAhead_lag_negative :
    ({ type := .dod, metric := "orders.revenue", offset := some (-1), offsetUnit := some .day } :
        TimeComparison).validate = .ok () ∧
      ({ type := .dod, metric := "orders.revenue", offset := some (-1), offsetUnit := some .day } :
        TimeComparison).lagOffset none = .ok (-1) := by
  decide

end MetricLayer
