import MetricLayer.Proofs.Rollup.Servable
import Mathlib.Logic.Function.Iterate
/-!
# Re-truncating timestamps

A rollup stores its time dimension truncated to a grain, and the rewriter truncates that stored
column again to the grain a query asks for. `Granularity.canRollUpTo` says when that is allowed.
This module gives truncation its calendar meaning and shows the relation is exactly the safe one.

Dates are those of the proleptic Gregorian calendar and carry the proof of their own validity;
a timestamp is a date with a time of day to the microsecond. `Timestamp.truncate` is calendar
truncation as `DATE_TRUNC` computes it: to the hour, the day, the Monday that starts the week, the
first of the month, of the quarter and of the year. Weeks are found through day numbers
(`Date.toDays`, days since 1970-01-01, a Thursday): the start of a week is reached by stepping
back one day at a time (`Date.prev`), and each step lowers the day number by one
(`Date.toDays_prev`).

Main statement: `Granularity.canRollUpTo_iff_retruncation`: data stored at grain `s` can be
truncated to grain `q` exactly when truncating every timestamp to `s` and then to `q` gives the
same as truncating it to `q` directly. A finer grain rolls up to a coarser one along hour, day,
month, quarter, year, and hour and day roll up to weeks; a coarser grain never rolls up to a
finer one, and a week straddles months, quarters and years.
-/

namespace MetricLayer.Calendar

-- ============================================================================
-- Dates
-- ============================================================================

/-- Gregorian leap years: every fourth year, except the centuries not divisible by 400. -/
def isLeapYear (y : Int) : Bool := y % 4 == 0 && (y % 100 != 0 || y % 400 == 0)

/-- The length of month `m` (1 to 12) of year `y`. -/
def daysInMonth (y : Int) : Nat → Nat
  | 2 => if isLeapYear y then 29 else 28
  | 4 | 6 | 9 | 11 => 30
  | _ => 31

theorem daysInMonth_pos (y : Int) (m : Nat) : 1 ≤ daysInMonth y m := by
  unfold daysInMonth
  split
  · split <;> omega
  all_goals omega

/-- A date of the proleptic Gregorian calendar. -/
structure Date where
  year : Int
  month : Nat
  day : Nat
  month_mem : 1 ≤ month ∧ month ≤ 12
  day_mem : 1 ≤ day ∧ day ≤ daysInMonth year month
  deriving DecidableEq

/-- A date with its time of day, to the microsecond. -/
structure Timestamp where
  date : Date
  hour : Fin 24
  minute : Fin 60
  second : Fin 60
  micros : Fin 1000000
  deriving DecidableEq

namespace Date

/-- The first day of month `m` of year `y`. -/
def monthStart (y : Int) (m : Nat) (h : 1 ≤ m ∧ m ≤ 12) : Date :=
  ⟨y, m, 1, h, ⟨Nat.le_refl 1, daysInMonth_pos y m⟩⟩

/-- The day before a date. -/
def prev (d : Date) : Date :=
  if h_day : 1 < d.day then ⟨d.year, d.month, d.day - 1, d.month_mem, by have := d.day_mem; omega⟩
  else if h_month : 1 < d.month then
    ⟨d.year, d.month - 1, daysInMonth d.year (d.month - 1), by have := d.month_mem; omega,
      ⟨daysInMonth_pos _ _, Nat.le_refl _⟩⟩
  else ⟨d.year - 1, 12, 31, by decide, ⟨by decide, by simp [daysInMonth]⟩⟩

end Date

-- ============================================================================
-- Day numbers
-- ============================================================================

/-- The leap years before year `y`, counted with floor division so that the count steps up by one
after each leap year, before year 1 too. -/
def leapYearsBefore (y : Int) : Int := (y - 1) / 4 - (y - 1) / 100 + (y - 1) / 400

/-- The days from 1970-01-01 to the first of January of year `y`. -/
def daysBeforeYear (y : Int) : Int := 365 * (y - 1970) + leapYearsBefore y - leapYearsBefore 1970

/-- The days from the first of January to the first of month `m` of year `y`. -/
def daysBeforeMonth (y : Int) : Nat → Nat
  | 0 | 1 => 0
  | m + 2 => daysBeforeMonth y (m + 1) + daysInMonth y (m + 1)

/-- The day number of a date: the days since 1970-01-01. -/
def Date.toDays (d : Date) : Int := daysBeforeYear d.year + daysBeforeMonth d.year d.month + d.day - 1

/-- A year is one day longer than 365 exactly when it is a leap year. -/
theorem daysBeforeYear_succ (y : Int) :
    daysBeforeYear (y + 1) = daysBeforeYear y + 365 + if isLeapYear y then 1 else 0 := by
  unfold daysBeforeYear leapYearsBefore isLeapYear
  split
  · rename_i h_leap
    simp only [Bool.and_eq_true, beq_iff_eq, Bool.or_eq_true, bne_iff_ne, ne_eq] at h_leap
    omega
  · rename_i h_leap
    simp only [Bool.and_eq_true, beq_iff_eq, Bool.or_eq_true, bne_iff_ne, ne_eq, not_and,
      not_or, Decidable.not_not] at h_leap
    omega

/-- The months before December hold 334 days, one more in a leap year. -/
theorem daysBeforeMonth_twelve (y : Int) :
    daysBeforeMonth y 12 = 334 + if isLeapYear y then 1 else 0 := by
  simp only [daysBeforeMonth, daysInMonth]
  split <;> rfl

/-- Each step back lowers the day number by one: also across the end of a month, of February
in a leap year, and of a year. -/
theorem Date.toDays_prev (d : Date) : d.prev.toDays = d.toDays - 1 := by
  obtain ⟨y, m, day, h_m, h_day⟩ := d
  unfold prev toDays
  dsimp only
  split
  · rename_i h_gt
    dsimp only
    omega
  · split
    · -- the last day of the month before
      rename_i h_first h_gt
      obtain ⟨k, rfl⟩ : ∃ k, m = k + 2 := ⟨m - 2, by omega⟩
      have h_one : day = 1 := by omega
      subst h_one
      dsimp only
      rw [show k + 2 - 1 = k + 1 by omega, daysBeforeMonth]
      omega
    · -- the last day of the year before
      rename_i h_first h_january
      have h_one : day = 1 ∧ m = 1 := by omega
      obtain ⟨rfl, rfl⟩ := h_one
      dsimp only
      have h_year := daysBeforeYear_succ (y - 1)
      rw [Int.sub_add_cancel] at h_year
      have h_jan : daysBeforeMonth y 1 = 0 := rfl
      rw [daysBeforeMonth_twelve, h_jan]
      rcases Bool.eq_false_or_eq_true (isLeapYear (y - 1)) with h_leap | h_leap <;>
        simp only [h_leap, if_true, Bool.false_eq_true, if_false] at h_year ⊢ <;> omega

/-- Stepping back `k` days lowers the day number by `k`. -/
theorem Date.toDays_iterate_prev (d : Date) (k : Nat) : (prev^[k] d).toDays = d.toDays - k := by
  induction k with
  | zero => simp
  | succ k ih =>
    rw [Function.iterate_succ_apply', toDays_prev, ih]
    omega

-- ============================================================================
-- Weeks
-- ============================================================================

namespace Date

/-- The days since the Monday of a date's week: 0 for a Monday up to 6 for a Sunday. 1970-01-01,
day 0, was a Thursday. -/
def weekday (d : Date) : Nat := ((d.toDays + 3) % 7).toNat

/-- The Monday that starts a date's week. -/
def startOfWeek (d : Date) : Date := prev^[d.weekday] d

/-- The start of a week is a Monday. -/
theorem weekday_startOfWeek (d : Date) : d.startOfWeek.weekday = 0 := by
  unfold weekday startOfWeek
  rw [toDays_iterate_prev]
  unfold weekday
  omega

/-- The start of the week of a Monday is that Monday. -/
theorem startOfWeek_startOfWeek (d : Date) : d.startOfWeek.startOfWeek = d.startOfWeek := by
  show prev^[d.startOfWeek.weekday] d.startOfWeek = d.startOfWeek
  rw [weekday_startOfWeek]
  rfl

end Date

-- ============================================================================
-- Truncation
-- ============================================================================

/-- The first month of the quarter of month `m`: January, April, July or October. -/
theorem quarterMonth_mem {m : Nat} (h : 1 ≤ m ∧ m ≤ 12) : 1 ≤ 3 * ((m - 1) / 3) + 1 ∧ 3 * ((m - 1) / 3) + 1 ≤ 12 := by
  omega

/-- The start of the period of grain `g` that a timestamp falls in, as `DATE_TRUNC` computes it:
weeks start on Monday, quarters in January, April, July and October. -/
def Timestamp.truncate (t : Timestamp) : Granularity → Timestamp
  | .hour => ⟨t.date, t.hour, 0, 0, 0⟩
  | .day => ⟨t.date, 0, 0, 0, 0⟩
  | .week => ⟨t.date.startOfWeek, 0, 0, 0, 0⟩
  | .month => ⟨Date.monthStart t.date.year t.date.month t.date.month_mem, 0, 0, 0, 0⟩
  | .quarter =>
    ⟨Date.monthStart t.date.year (3 * ((t.date.month - 1) / 3) + 1) (quarterMonth_mem t.date.month_mem),
      0, 0, 0, 0⟩
  | .year => ⟨Date.monthStart t.date.year 1 (by decide), 0, 0, 0, 0⟩

/-- 2023-05-17, a Wednesday, at 13:45:30.25. -/
def midMay : Timestamp := ⟨⟨2023, 5, 17, by decide, by decide⟩, 13, 45, 30, 250000⟩

/-- 2023-01-01, a Sunday, at noon: its week began in December 2022. -/
def newYear : Timestamp := ⟨⟨2023, 1, 1, by decide, by decide⟩, 12, 0, 0, 0⟩

example : newYear.date.toDays = 19358 ∧ newYear.date.weekday = 6 := by decide

end MetricLayer.Calendar

-- ============================================================================
-- Rolling up
-- ============================================================================

namespace MetricLayer.Granularity

open MetricLayer.Calendar

/-- A grain does not roll up to a finer one, and a week does not roll up to a month, a quarter
or a year. -/
theorem canRollUpTo_eq_false_iff (s q : Granularity) :
    s.canRollUpTo q = false ↔ s.level < q.level ∨ (s = week ∧ q.level < week.level) := by
  cases s <;> cases q <;> decide

/-- Truncating to a grain and then to one it rolls up to is truncating to the second. -/
theorem truncate_truncate_of_canRollUpTo {s q : Granularity} (h : s.canRollUpTo q = true)
    (t : Timestamp) : (t.truncate s).truncate q = t.truncate q := by
  cases s <;> cases q
  -- the pairs the relation excludes
  all_goals try exact absurd h (by decide)
  -- a week's start is the start of its own week
  case week.week =>
    exact congrArg (fun d => (⟨d, 0, 0, 0, 0⟩ : Timestamp)) t.date.startOfWeek_startOfWeek
  -- the first month of a quarter is the first month of its own quarter
  case quarter.quarter =>
    simp only [Timestamp.truncate, Date.monthStart, Timestamp.mk.injEq, Date.mk.injEq, and_true,
      true_and]
    omega
  -- every other pair: the second truncation reads only fields the first one keeps
  all_goals rfl

/-- Truncated first to a coarser grain, a timestamp in the middle of a day, a week, a month, a
quarter and a year loses what the finer grain keeps. -/
theorem truncate_coarser_first_ne (s q : Granularity) (h : s.level < q.level) :
    (midMay.truncate s).truncate q ≠ midMay.truncate q := by
  revert h
  cases s <;> cases q <;> decide

/-- The week of 2023-01-01 began in the month, quarter and year before. -/
theorem truncate_week_straddles (q : Granularity) (h : q.level < week.level) :
    (newYear.truncate week).truncate q ≠ newYear.truncate q := by
  revert h
  cases q <;> decide

/-- Data stored at grain `s` can be truncated again to grain `q` exactly when, for every
timestamp, truncating to `s` and then to `q` gives what truncating to `q` gives. -/
theorem canRollUpTo_iff_retruncation (s q : Granularity) :
    s.canRollUpTo q = true ↔ ∀ t : Timestamp, (t.truncate s).truncate q = t.truncate q := by
  refine ⟨fun h t => truncate_truncate_of_canRollUpTo h t, fun h => ?_⟩
  cases h_can : s.canRollUpTo q with
  | true => rfl
  | false =>
    rcases (canRollUpTo_eq_false_iff s q).mp h_can with h_lt | ⟨rfl, h_q⟩
    · exact absurd (h midMay) (truncate_coarser_first_ne s q h_lt)
    · exact absurd (h newYear) (truncate_week_straddles q h_q)

end MetricLayer.Granularity

namespace MetricLayer.Rollup

open MetricLayer.Calendar

/-- A rollup that passes the grain check stores a grain that rolls up to every requested grain,
so truncating its stored time column again gives each timestamp's truncation to the requested
grain. -/
theorem granularityCompatibility_retruncates {p : PreAggregation} {r : RoutingRequest}
    {stored : Granularity} (h : (granularityCompatibility p r).passed = true)
    (h_stored : p.granularity = some stored) :
    ∀ g ∈ r.dimensions.filterMap (·.2), ∀ t : Timestamp,
      (t.truncate stored).truncate g = t.truncate g := by
  intro g h_g
  refine Granularity.truncate_truncate_of_canRollUpTo ?_
  unfold granularityCompatibility at h
  dsimp only at h
  split at h
  · rename_i h_none
    rw [h_none] at h_g
    exact absurd h_g List.not_mem_nil
  · exact absurd h Bool.false_ne_true
  · rename_i stored' h_stored'
    rw [h_stored] at h_stored'
    cases h_stored'
    split at h
    · exact absurd h Bool.false_ne_true
    · rename_i h_find
      simpa using List.find?_eq_none.mp h_find g h_g

end MetricLayer.Rollup
