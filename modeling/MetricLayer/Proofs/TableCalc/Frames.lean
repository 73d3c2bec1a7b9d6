import Mathlib
import MetricLayer.TableCalc.Process
import MetricLayer.Proofs.Outcome
/-!
# Table calculations write only their own columns

Calculations run over a `Frame`: named columns and rows of cells. `Frame.setColumn` writes one
value per row into a column, the last one of that name or a new one after the last, padding a
short row with NULL up to it. A frame is `WellFormed` when its column names are distinct and
every row has one cell per column; a write keeps that (`WellFormed.setColumn`), leaves every
other column's cells as they were (`WellFormed.cell_setColumn_of_ne`) and is what the frame
then reads under the written name (`WellFormed.cell_setColumn_self`).

Every calculation computes one value per row (`length_applyStep`), so a run of calculations
named `names` over an input leaves a frame that `Extends` the input by those names: its columns
are the input's followed by each new name once, and the cells of the other columns are the
input's, NULL where a row was short (`process_extends`). A run is the shorter run followed by
the last calculation on the frame it left (`process_append_singleton`). Together:
`process_writes_only_own_columns`.
-/
namespace MetricLayer

/-- A successful `mapM` whose results each show `g` as its input shows `h` gives back the inputs'
`h`, read through `g`. -/
theorem mapM_ok_map_eq {ε α β γ : Type} {f : α → Except ε β} {g : β → γ}
    {h : α → γ} (h_f : ∀ x y, f x = .ok y → g y = h x) :
    ∀ {xs : List α} {ys : List β}, xs.mapM f = .ok ys → ys.map g = xs.map h := by
  intro xs
  induction xs with
  | nil => intro ys h_run; cases h_run; rfl
  | cons x xs ih =>
    intro ys h_run
    rw [List.mapM_cons] at h_run
    obtain ⟨y, h_y, h_rest⟩ := Except.bind_eq_ok.mp h_run
    obtain ⟨ys', h_ys', h_done⟩ := Except.bind_eq_ok.mp h_rest
    cases h_done
    rw [List.map_cons, List.map_cons, h_f x y h_y, ih h_ys']

theorem mapM_ok_length {ε α β : Type} {f : α → Except ε β} {xs : List α} {ys : List β}
    (h : xs.mapM f = .ok ys) : ys.length = xs.length := by
  simpa using congrArg List.length (mapM_ok_map_eq (g := fun _ => ()) (h := fun _ => ())
    (fun _ _ _ => rfl) h)

/-- A list with no repeats has nothing to erase. -/
theorem eraseDups_of_nodup {α : Type} [BEq α] [LawfulBEq α] :
    ∀ {xs : List α}, xs.Nodup → xs.eraseDups = xs
  | [], _ => rfl
  | x :: xs, h => by
    rw [List.nodup_cons] at h
    have h_filter : xs.filter (fun b => !b == x) = xs :=
      List.filter_eq_self.mpr fun b h_b => by
        simpa using fun h_eq : b = x => h.1 (h_eq ▸ h_b)
    rw [List.eraseDups_cons, h_filter, eraseDups_of_nodup h.2]

/-- A bind on a value is the rest applied to it. -/
@[simp] theorem Except.ok_bind {ε α β : Type} (a : α) (f : α → Except ε β) :
    (Except.ok a : Except ε α) >>= f = f a := rfl

/-- After a list with no repeats, erasing repeats keeps it whole and the new elements once. -/
theorem eraseDups_append_of_nodup {α : Type} [BEq α] [LawfulBEq α] {xs : List α} (h : xs.Nodup)
    (ys : List α) : (xs ++ ys).eraseDups = xs ++ (ys.removeAll xs).eraseDups := by
  rw [List.eraseDups_append, eraseDups_of_nodup h]

/-- One more element is kept exactly when it is new. -/
theorem eraseDups_append_singleton {α : Type} [BEq α] [LawfulBEq α] (xs : List α) (y : α) :
    (xs ++ [y]).eraseDups = if y ∈ xs then xs.eraseDups else xs.eraseDups ++ [y] := by
  rw [List.eraseDups_append]
  by_cases h_y : y ∈ xs <;> simp [List.removeAll, h_y, List.eraseDups_cons]

namespace TableCalc

open Formula

theorem length_padRow (w : Nat) (row : List Cell) : (padRow w row).length = max row.length w := by
  simp [padRow]; omega

theorem getElem?_padRow_of_lt {w j : Nat} {row : List Cell} (h : j < row.length) :
    (padRow w row)[j]? = row[j]? := by
  simp [padRow, List.getElem?_append_left h]

theorem getElem?_padRow_of_ge {w j : Nat} {row : List Cell} (h_ge : row.length ≤ j)
    (h_lt : j < w) :
    (padRow w row)[j]? = some .null := by
  rw [padRow, List.getElem?_append_right h_ge, List.getElem?_replicate]
  simp; omega

theorem length_setCell (i : Nat) (v : Cell) (row : List Cell) :
    (setCell i v row).length = max row.length (i + 1) := by
  simp [setCell, length_padRow]

theorem getElem?_setCell_self (i : Nat) (v : Cell) (row : List Cell) :
    (setCell i v row)[i]? = some v := by
  simp [setCell, length_padRow]

theorem getElem?_setCell_of_ne {i j : Nat} (v : Cell) {row : List Cell} (h_ne : j ≠ i)
    (h_lt : j < row.length) : (setCell i v row)[j]? = row[j]? := by
  rw [setCell, List.getElem?_set_ne (Ne.symm h_ne), getElem?_padRow_of_lt h_lt]

namespace Frame

theorem indexOf?_append_singleton (cols : List String) (c name : String) (rows : List (List Cell)) :
    Frame.indexOf? ⟨cols ++ [c], rows⟩ name =
      if c = name then some cols.length else Frame.indexOf? ⟨cols, rows⟩ name := by
  simp only [Frame.indexOf?, List.zipIdx_append, List.foldl_append]
  simp

/-- The scan finds a column of that name, and the last one. -/
theorem indexOf?_spec (f : Frame) (name : String) :
    (∀ i, f.indexOf? name = some i →
      f.columns[i]? = some name ∧ ∀ j, f.columns[j]? = some name → j ≤ i) ∧
      (f.indexOf? name = none ↔ name ∉ f.columns) := by
  obtain ⟨cols, rows⟩ := f
  induction cols using List.reverseRecOn with
  | nil => simp [Frame.indexOf?]
  | append_singleton cols c ih =>
    rw [indexOf?_append_singleton]
    by_cases h_c : c = name
    · subst h_c
      simp only [if_true]
      refine ⟨fun i h_i => ?_, by simp⟩
      cases h_i
      refine ⟨by simp, fun j h_j => ?_⟩
      have := (List.getElem?_eq_some_iff.mp h_j).1
      simp at this; omega
    · simp only [h_c, if_false]
      obtain ⟨ih_some, ih_none⟩ := ih
      refine ⟨fun i h_i => ?_, ?_⟩
      · obtain ⟨h_at, h_last⟩ := ih_some i h_i
        refine ⟨List.getElem?_append_left (List.getElem?_eq_some_iff.mp h_at).1 ▸ h_at,
          fun j h_j => ?_⟩
        rcases Nat.lt_or_ge j cols.length with h_lt | h_ge
        · exact h_last j (by rwa [List.getElem?_append_left h_lt] at h_j)
        · rw [List.getElem?_append_right h_ge] at h_j
          simp [List.getElem?_singleton, h_c] at h_j
      · simp [ih_none, Ne.symm h_c]

theorem indexOf?_eq_none_iff {f : Frame} {name : String} :
    f.indexOf? name = none ↔ name ∉ f.columns :=
  (indexOf?_spec f name).2

/-- Among distinct names, the scan finds the one position holding the name. -/
theorem indexOf?_eq_some_iff {f : Frame} {name : String} {i : Nat} (h_nodup : f.columns.Nodup) :
    f.indexOf? name = some i ↔ f.columns[i]? = some name := by
  refine ⟨fun h => ((indexOf?_spec f name).1 i h).1, fun h_at => ?_⟩
  cases h_found : f.indexOf? name with
  | none =>
    exact absurd (List.mem_of_getElem? h_at) (indexOf?_eq_none_iff.mp h_found)
  | some k =>
    have h_k := ((indexOf?_spec f name).1 k h_found).1
    rw [(List.getElem?_inj (List.getElem?_eq_some_iff.mp h_k).1 h_nodup).mp (h_k.trans h_at.symm)]

/-- A frame whose column names are distinct and whose rows have one cell per column. -/
structure WellFormed (f : Frame) : Prop where
  nodup : f.columns.Nodup
  width : ∀ row ∈ f.rows, row.length = f.columns.length

/-- The position `setColumn` writes `name` at: its column, or a new one after the last. -/
def slot (f : Frame) (name : String) : Nat := (f.indexOf? name).getD f.columns.length

theorem slot_of_mem {f : Frame} {name : String} (h_nodup : f.columns.Nodup)
    (h : name ∈ f.columns) :
    f.columns[f.slot name]? = some name := by
  obtain ⟨i, h_i⟩ := List.mem_iff_getElem?.mp h
  rw [slot, (indexOf?_eq_some_iff h_nodup).mpr h_i]
  exact h_i

theorem slot_of_not_mem {f : Frame} {name : String} (h : name ∉ f.columns) :
    f.slot name = f.columns.length := by
  rw [slot, indexOf?_eq_none_iff.mpr h]
  rfl

/-- The columns after a write: the name is added when it is new. -/
theorem setColumn_eq (f : Frame) (name : String) (values : List Cell) :
    f.setColumn name values =
      ⟨if name ∈ f.columns then f.columns else f.columns ++ [name],
        (f.rows.zip values).map fun (row, v) => setCell (f.slot name) v row⟩ := by
  rw [setColumn]
  split
  next i h_i =>
    have h_mem : name ∈ f.columns := List.mem_of_getElem? ((indexOf?_spec f name).1 i h_i).1
    simp [h_mem, slot, h_i]
  next h_none =>
    have h_mem : name ∉ f.columns := indexOf?_eq_none_iff.mp h_none
    simp [h_mem, slot, h_none]

theorem getElem?_rows_setColumn (f : Frame) (name : String) (values : List Cell) (i : Nat) :
    (f.setColumn name values).rows[i]? =
      f.rows[i]?.bind fun row => values[i]?.map fun v => setCell (f.slot name) v row := by
  rw [setColumn_eq]
  simp only [List.map_zip_eq_zipWith, List.getElem?_zipWith']
  cases f.rows[i]? <;> rfl

theorem length_rows_setColumn {f : Frame} {name : String} {values : List Cell}
    (h_len : values.length = f.rows.length) :
    (f.setColumn name values).rows.length = f.rows.length := by
  rw [setColumn_eq]
  simp [h_len]

theorem slot_lt_of_mem {f : Frame} {name : String} (h_nodup : f.columns.Nodup)
    (h : name ∈ f.columns) :
    f.slot name < f.columns.length :=
  (List.getElem?_eq_some_iff.mp (slot_of_mem h_nodup h)).1

/-- After the write, `name` is a column, at the position written. -/
theorem columns_setColumn_slot {f : Frame} {name : String} (h_nodup : f.columns.Nodup)
    (values : List Cell) : (f.setColumn name values).columns[f.slot name]? = some name := by
  rw [setColumn_eq]
  by_cases h_mem : name ∈ f.columns
  · simp only [h_mem, if_true]
    exact slot_of_mem h_nodup h_mem
  · simp [h_mem, slot_of_not_mem h_mem]

namespace WellFormed

variable {f : Frame} {name : String} {values : List Cell}

/-- A write of one value per row keeps the frame well formed. -/
theorem setColumn (h : f.WellFormed) : (f.setColumn name values).WellFormed := by
  rw [setColumn_eq]
  by_cases h_mem : name ∈ f.columns
  · have h_slot := slot_lt_of_mem h.nodup h_mem
    refine ⟨by simpa [h_mem] using h.nodup, ?_⟩
    simp only [h_mem, if_true, List.mem_map, Prod.exists]
    rintro _ ⟨row, v, h_in, rfl⟩
    rw [length_setCell, h.width row (List.of_mem_zip h_in).1]
    omega
  · have h_nodup : (f.columns ++ [name]).Nodup :=
      List.Nodup.append h.nodup (List.nodup_singleton name) (by simpa using h_mem)
    refine ⟨by simpa [h_mem] using h_nodup, ?_⟩
    simp only [h_mem, if_false, List.mem_map, Prod.exists]
    rintro _ ⟨row, v, h_in, rfl⟩
    rw [length_setCell, h.width row (List.of_mem_zip h_in).1, slot_of_not_mem h_mem]
    simp

/-- A write leaves every other column's cells as they were. -/
theorem cell_setColumn_of_ne (h : f.WellFormed) (h_len : values.length = f.rows.length) {j : Nat}
    {c : String} (h_j : f.columns[j]? = some c) (h_ne : c ≠ name) (i : Nat) :
    (f.setColumn name values).rows[i]?.bind (·[j]?) = f.rows[i]?.bind (·[j]?) := by
  have h_j_lt : j < f.columns.length := (List.getElem?_eq_some_iff.mp h_j).1
  -- the written position is another column's, or past the last
  have h_slot : j ≠ f.slot name := by
    by_cases h_mem : name ∈ f.columns
    · intro h_eq
      have := slot_of_mem h.nodup h_mem
      rw [← h_eq, h_j] at this
      exact h_ne (Option.some.inj this)
    · rw [slot_of_not_mem h_mem]
      omega
  rw [getElem?_rows_setColumn]
  cases h_row : f.rows[i]? with
  | none => rfl
  | some row =>
    have h_i : i < values.length := h_len ▸ (List.getElem?_eq_some_iff.mp h_row).1
    have h_width := h.width row (List.mem_of_getElem? h_row)
    simp only [Option.bind_some, List.getElem?_eq_getElem h_i, Option.map_some]
    exact getElem?_setCell_of_ne _ h_slot (h_width ▸ h_j_lt)

/-- A write is what the frame then reads in every row under the written name. -/
theorem cell_setColumn_self (h : f.WellFormed) (h_len : values.length = f.rows.length) (i : Nat) :
    (f.setColumn name values).rows[i]?.bind (fun row => (f.setColumn name values).cell row name) =
      values[i]? := by
  have h_index : (f.setColumn name values).indexOf? name = some (f.slot name) :=
    (indexOf?_eq_some_iff h.setColumn.nodup).mpr (columns_setColumn_slot h.nodup values)
  rw [getElem?_rows_setColumn]
  cases h_row : f.rows[i]? with
  | none =>
    have : values.length ≤ i := h_len ▸ List.getElem?_eq_none_iff.mp h_row
    simp [List.getElem?_eq_none_iff.mpr this]
  | some row =>
    have h_i : i < values.length := h_len ▸ (List.getElem?_eq_some_iff.mp h_row).1
    simp [List.getElem?_eq_getElem h_i, cell, h_index, cellAt, getElem?_setCell_self]

end WellFormed

end Frame

/-! ## Every calculation computes one value per row -/

theorem length_numbers {f : Frame} {name column : String} {values : List Number}
    (h : f.numbers name column = .ok values) : values.length = f.rows.length :=
  mapM_ok_length h

theorem length_runningTotals (values : List Number) :
    (runningTotals values).length = values.length := by
  -- the fold appends one cell per value to whatever it holds
  suffices h_fold : ∀ (init : Number × List Cell),
      (values.foldl (fun (acc : Number × List Cell) v =>
        (addNum acc.1 v, acc.2 ++ [Cell.ofNum (addNum acc.1 v)])) init).2.length =
        init.2.length + values.length by
    simpa [runningTotals] using h_fold (.int 0, [])
  induction values with
  | nil => simp
  | cons v vs ih =>
    intro init
    rw [List.foldl_cons, ih]
    simp
    omega

theorem length_writeGroupShares (values : List Number) (out : List Cell) (rows : List Nat) :
    (writeGroupShares values out rows).length = out.length := by
  unfold writeGroupShares
  -- each write replaces a cell in place
  exact foldl_invariant (fun o : List Cell => o.length = out.length)
    (fun o _ _ h_o => (List.length_set ..).trans h_o) rfl

theorem length_percentWithinGroups (keys : List (List String)) (values : List Number) :
    (percentWithinGroups keys values).length = keys.length :=
  foldl_invariant (fun o : List Cell => o.length = keys.length)
    (fun o _ _ h_o => (length_writeGroupShares values o _).trans h_o) List.length_replicate

theorem length_applyStep {f : Frame} {name : String} {step : Step} {values : List Cell}
    (h : applyStep f name step = .ok values) : values.length = f.rows.length := by
  cases step with
  | formula e =>
    cases h
    simp
  | percentOfTotal field =>
    obtain ⟨ns, h_ns, h⟩ := Except.bind_eq_ok.mp h
    cases h
    simp [percentOfTotal, length_numbers h_ns]
  | percentOfColumnTotal field partition =>
    obtain ⟨ns, h_ns, h⟩ := Except.bind_eq_ok.mp h
    split at h <;> cases h
    · simp [percentOfTotal, length_numbers h_ns]
    · simp [length_percentWithinGroups]
  | percentOfPrevious field =>
    obtain ⟨readings, h_r, h⟩ := Except.bind_eq_ok.mp h
    cases h
    simp only [List.length_map, List.length_zip, List.length_cons, List.length_dropLast,
      mapM_ok_length h_r]
    omega
  | runningTotal field =>
    obtain ⟨ns, h_ns, h⟩ := Except.bind_eq_ok.mp h
    cases h
    simp [length_runningTotals, length_numbers h_ns]
  | rank field =>
    obtain ⟨ns, h_ns, h⟩ := Except.bind_eq_ok.mp h
    cases h
    simp [ranks, length_numbers h_ns]
  | rowNumber =>
    cases h
    simp
  | movingAverage field window =>
    obtain ⟨ns, h_ns, h⟩ := Except.bind_eq_ok.mp h
    cases h
    simp only [movingAverages, List.length_map, List.length_range, length_numbers h_ns]
  | percentile field fraction =>
    obtain ⟨present, -, h⟩ := Except.bind_eq_ok.mp h
    cases h
    simp

/-! ## Runs of calculations -/

namespace Frame

/-- What a run of calculations named `names` leaves of the input `columns` and `rows`: a
well-formed frame whose columns are the input's followed by the new names, one row per input
row, and in every column that no calculation names the input's cells, NULL where a row was
short. -/
structure Extends (columns : List String) (rows : List (List Cell)) (names : List String)
    (f : Frame) : Prop where
  wellFormed : f.WellFormed
  columns_eq : f.columns = (columns ++ names).eraseDups
  length_rows : f.rows.length = rows.length
  cells : ∀ (i j : Nat) (c : String), columns[j]? = some c → c ∉ names →
    f.rows[i]?.bind (·[j]?) = rows[i]?.map fun row => (row[j]?).getD Cell.null

variable {columns : List String} {rows : List (List Cell)}

/-- The input, padded, is what a run of no calculations leaves. -/
theorem extends_make (h_nodup : columns.Nodup)
    (h_width : ∀ row ∈ rows, row.length ≤ columns.length) :
    (make columns rows).Extends columns rows [] := by
  refine ⟨⟨h_nodup, ?_⟩, by simp [make, eraseDups_of_nodup h_nodup], by simp [make], ?_⟩
  · simp only [make, List.mem_map]
    rintro _ ⟨row, h_row, rfl⟩
    rw [length_padRow]
    exact max_eq_right (h_width row h_row)
  · intro i j c h_j _
    have h_j_lt : j < columns.length := (List.getElem?_eq_some_iff.mp h_j).1
    simp only [make, List.getElem?_map]
    cases rows[i]? with
    | none => rfl
    | some row =>
      simp only [Option.bind_some, Option.map_some]
      rcases Nat.lt_or_ge j row.length with h_lt | h_ge
      · rw [getElem?_padRow_of_lt h_lt, List.getElem?_eq_getElem h_lt]
        rfl
      · rw [getElem?_padRow_of_ge h_ge h_j_lt, List.getElem?_eq_none h_ge]
        rfl

/-- Writing one more column, one value per row, extends the run by that column's name. -/
theorem Extends.setColumn {names : List String} {f : Frame} (h : f.Extends columns rows names)
    (h_nodup : columns.Nodup) {name : String} {values : List Cell}
    (h_len : values.length = f.rows.length) :
    (f.setColumn name values).Extends columns rows (names ++ [name]) := by
  refine ⟨h.wellFormed.setColumn, ?_, ?_, ?_⟩
  · rw [← List.append_assoc, eraseDups_append_singleton, setColumn_eq, h.columns_eq]
    simp [List.mem_eraseDups]
  · rw [length_rows_setColumn h_len, h.length_rows]
  · intro i j c h_j h_c
    simp only [List.mem_append, List.mem_singleton, not_or] at h_c
    -- the input's columns stand first, unmoved, in the frame
    have h_j' : f.columns[j]? = some c := by
      rw [h.columns_eq, eraseDups_append_of_nodup h_nodup,
        List.getElem?_append_left (List.getElem?_eq_some_iff.mp h_j).1, h_j]
    rw [h.wellFormed.cell_setColumn_of_ne h_len h_j' h_c.2, h.cells i j c h_j h_c.1]

end Frame

/-- The steps the checked calculations give are named as the calculations are. -/
theorem names_of_plans {calcs : List Calculation} {steps : List (String × Step)}
    (h : (calcs.mapM fun c => do return (c.name, ← c.plan)) = .ok steps) :
    steps.map Prod.fst = calcs.map (·.name) := by
  refine mapM_ok_map_eq (fun c step h_c => ?_) h
  obtain ⟨s, -, h_s⟩ := Except.bind_eq_ok.mp h_c
  cases h_s
  rfl

/-- A successful run leaves a frame that extends the input by the calculations' names. -/
theorem process_extends {calcs : List Calculation} {rows rows' : List (List Cell)}
    {columns columns' : List String} (h_nodup : columns.Nodup)
    (h_width : ∀ row ∈ rows, row.length ≤ columns.length)
    (h : process calcs rows columns = .ok (rows', columns')) :
    (Frame.mk columns' rows').Extends columns rows (calcs.map (·.name)) := by
  obtain ⟨steps, h_steps, h⟩ := Except.bind_eq_ok.mp h
  obtain ⟨frame, h_fold, h_done⟩ := Except.bind_eq_ok.mp h
  cases h_done
  have h_run : Except.Meets (fun (f : Frame) => f.Extends columns rows (steps.map Prod.fst))
      (fun _ => True) (Except.ok frame : Except CalcError Frame) := by
    rw [← h_fold]
    refine foldlM_meets (fun pre (f : Frame) => f.Extends columns rows (pre.map Prod.fst))
      (fun _ => True) steps (fun pre f x _ h_f => ?_) _ (Frame.extends_make h_nodup h_width)
    obtain ⟨name, step⟩ := x
    show Except.Meets _ _ (applyStep f name step >>= fun values => pure (f.setColumn name values))
    cases h_apply : applyStep f name step with
    | error e => trivial
    | ok values =>
      simpa using h_f.setColumn h_nodup (length_applyStep h_apply)
  rw [Except.meets_ok, names_of_plans h_steps] at h_run
  exact h_run

/-- A calculation that passes its check has a step. -/
theorem Calculation.plan_of_validate {c : Calculation} (h : c.validate = .ok ()) :
    ∃ step, c.plan = .ok step := by
  cases h_plan : c.plan with
  | error e => simp [Calculation.validate, h_plan, Except.map] at h
  | ok step => exact ⟨step, rfl⟩

/-- A run of calculations then one more is the shorter run, then that calculation on the
frame it left. -/
theorem process_append_singleton (calcs : List Calculation) {c : Calculation} {step : Step}
    (h_plan : c.plan = .ok step) (rows : List (List Cell)) (columns : List String) :
    process (calcs ++ [c]) rows columns = (do
      let (rs, cs) ← process calcs rows columns
      let values ← applyStep ⟨cs, rs⟩ c.name step
      let f := Frame.setColumn ⟨cs, rs⟩ c.name values
      return (f.rows, f.columns)) := by
  simp only [process, List.mapM_append, List.mapM_cons, List.mapM_nil, h_plan]
  cases calcs.mapM (fun c => do return (c.name, ← c.plan)) with
  | error e => rfl
  | ok steps =>
    simp only [Except.ok_bind, pure_bind, List.foldlM_append, bind_assoc]
    congr 1
    funext frame
    simp only [List.foldlM_cons, List.foldlM_nil, bind_assoc, pure_bind]

/-- Table calculations write only their own columns. A run of checked calculations over rows
and distinct columns either fails or returns the input columns followed by each new calculation
name, in order of first occurrence, and as many rows, each with one cell per column, whose
cells in the columns no calculation names are the input's (NULL where a row was short). Each
calculation runs on the frame the calculations before it left, and a later one reading its
name sees the values it wrote. -/
theorem process_writes_only_own_columns (calcs : List Calculation) (rows : List (List Cell))
    (columns : List String) (h_valid : ∀ c ∈ calcs, c.validate = .ok ())
    (h_nodup : columns.Nodup) (h_width : ∀ row ∈ rows, row.length ≤ columns.length) :
    (∀ rows' columns', process calcs rows columns = .ok (rows', columns') →
      columns' = columns ++ ((calcs.map (·.name)).removeAll columns).eraseDups ∧
      rows'.length = rows.length ∧
      (∀ row' ∈ rows', row'.length = columns'.length) ∧
      ∀ (i j : Nat) (c : String), columns[j]? = some c → c ∉ calcs.map (·.name) →
        rows'[i]?.bind (·[j]?) = rows[i]?.map fun row => (row[j]?).getD .null) ∧
    ∀ pre c post, calcs = pre ++ c :: post → ∃ step, c.plan = .ok step ∧
      process (pre ++ [c]) rows columns = (do
        let (rs, cs) ← process pre rows columns
        let values ← applyStep ⟨cs, rs⟩ c.name step
        let f := Frame.setColumn ⟨cs, rs⟩ c.name values
        return (f.rows, f.columns)) ∧
      ∀ rs cs values, process pre rows columns = .ok (rs, cs) →
        applyStep ⟨cs, rs⟩ c.name step = .ok values →
        ∀ i : Nat, (Frame.setColumn ⟨cs, rs⟩ c.name values).rows[i]?.bind
          (fun row => (Frame.setColumn ⟨cs, rs⟩ c.name values).cell row c.name) =
            values[i]? := by
  refine ⟨fun rows' columns' h_run => ?_, fun pre c post h_split => ?_⟩
  · have h_ext := process_extends h_nodup h_width h_run
    refine ⟨?_, h_ext.length_rows, h_ext.wellFormed.width, h_ext.cells⟩
    rw [← eraseDups_append_of_nodup h_nodup]
    exact h_ext.columns_eq
  · obtain ⟨step, h_plan⟩ := Calculation.plan_of_validate (h_valid c (by simp [h_split]))
    refine ⟨step, h_plan, process_append_singleton pre h_plan rows columns,
      fun rs cs values h_pre h_apply i => ?_⟩
    exact (process_extends h_nodup h_width h_pre).wellFormed.cell_setColumn_self
      (length_applyStep h_apply) i

/-- A running total named `t` over the column `v`, on two rows. -/
theorem process_writes_only_own_columns_running_total :
    (∀ c ∈ [Calculation.mk "t" .runningTotal none none (some "v") [] [] none none],
      c.validate = .ok ()) ∧
    ["v"].Nodup ∧ (∀ row ∈ [[Cell.int 1], [Cell.int 2]], row.length ≤ ["v"].length) ∧
    ((∀ rows' columns',
      process [Calculation.mk "t" .runningTotal none none (some "v") [] [] none none]
        [[Cell.int 1], [Cell.int 2]] ["v"] = .ok (rows', columns') →
      columns' = ["v"] ++ (([Calculation.mk "t" .runningTotal none none (some "v") [] [] none
        none].map (·.name)).removeAll ["v"]).eraseDups ∧
      rows'.length = [[Cell.int 1], [Cell.int 2]].length ∧
      (∀ row' ∈ rows', row'.length = columns'.length) ∧
      ∀ (i j : Nat) (c : String), ["v"][j]? = some c →
        c ∉ [Calculation.mk "t" .runningTotal none none (some "v") [] [] none none].map
          (·.name) →
        rows'[i]?.bind (·[j]?) = [[Cell.int 1], [Cell.int 2]][i]?.map fun row =>
          (row[j]?).getD .null) ∧
    ∀ pre c post, [Calculation.mk "t" .runningTotal none none (some "v") [] [] none none] =
        pre ++ c :: post → ∃ step, c.plan = .ok step ∧
      process (pre ++ [c]) [[Cell.int 1], [Cell.int 2]] ["v"] = (do
        let (rs, cs) ← process pre [[Cell.int 1], [Cell.int 2]] ["v"]
        let values ← applyStep ⟨cs, rs⟩ c.name step
        let f := Frame.setColumn ⟨cs, rs⟩ c.name values
        return (f.rows, f.columns)) ∧
      ∀ rs cs values, process pre [[Cell.int 1], [Cell.int 2]] ["v"] = .ok (rs, cs) →
        applyStep ⟨cs, rs⟩ c.name step = .ok values →
        ∀ i : Nat, (Frame.setColumn ⟨cs, rs⟩ c.name values).rows[i]?.bind
          (fun row => (Frame.setColumn ⟨cs, rs⟩ c.name values).cell row c.name) =
            values[i]?) := by
  have h_valid : ∀ c ∈ [Calculation.mk "t" .runningTotal none none (some "v") [] [] none none],
      c.validate = .ok () := by
    simp only [List.mem_singleton, forall_eq]
    rfl
  have h_width : ∀ row ∈ [[Cell.int 1], [Cell.int 2]], row.length ≤ ["v"].length := by simp
  exact ⟨h_valid, by decide, h_width,
    process_writes_only_own_columns _ _ _ h_valid (by decide) h_width⟩

end TableCalc
end MetricLayer
