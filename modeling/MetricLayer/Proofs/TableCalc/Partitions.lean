import Mathlib
import MetricLayer.Proofs.TableCalc.Frames
/-!
# Partitions of `percent_of_column_total`

With a partition list, `percent_of_column_total` keys each row by the texts its partition
columns show (`Frame.partitionText`: the cell's display text, empty for a column the frame
lacks), groups the rows by key in one pass over them, and writes each group's shares, against
the group's own total, back at the group's rows. After `n` rows the groups hold, for each key,
its rows among them, each key once (`GroupsOf`, kept by each row, `GroupsOf.addToGroup`, so
held by the whole pass, `groupsOf_groupRows`). The groups being disjoint and covering every row,
each row gets its value's share of the sum, in row order, of the values of the rows with its
key (`getElem?_percentWithinGroups`, `percentWithinGroups_map`). Two keys are equal exactly when
every partition column shows the same text (`partitionKey_beq`), so rows fall in one partition
by `Frame.SamePartition` (`percentOfColumnTotal_shares_by_display`). The grouping is by text,
not by value: an integer and a text of the same digits share a partition
(`int_and_numeric_text_share_partition`).
-/
namespace MetricLayer.TableCalc

open Formula

namespace Frame

/-- The text a row shows in a partition column: the cell's display text, empty when the frame
has no such column. -/
def partitionText (f : Frame) (row : List Cell) (column : String) : String :=
  ((f.cell row column).map Cell.display).getD ""

/-- Two rows fall in one partition: every partition column shows the same text in both. -/
def SamePartition (f : Frame) (partition : List String) (row row' : List Cell) : Prop :=
  ∀ p ∈ partition, f.partitionText row p = f.partitionText row' p

instance (f : Frame) (partition : List String) (row row' : List Cell) :
    Decidable (f.SamePartition partition row row') :=
  inferInstanceAs (Decidable (∀ p ∈ partition, _ = _))

end Frame

/-- `v` as a percentage of `total`, zero when the total is zero. -/
def share (v : Number) (total : Float) : Float :=
  if total == 0.0 then 0.0 else v.toFloat / total * 100.0

theorem percentOfTotal_eq_map_share (values : List Number) :
    percentOfTotal values =
      values.map fun v => .float (share v (sumFloats (values.map Number.toFloat))) := rfl

/-! ## Grouping the rows by key -/

/-- The positions, in row order, of the rows among the first `n` whose key is `k`. -/
def rowsWithKey (keys : List (List String)) (n : Nat) (k : List String) : List Nat :=
  (List.range n).filter fun i => keys.getD i [] == k

theorem mem_rowsWithKey {keys : List (List String)} {n : Nat} {k : List String} {i : Nat} :
    i ∈ rowsWithKey keys n k ↔ i < n ∧ keys.getD i [] = k := by
  simp [rowsWithKey]

theorem rowsWithKey_succ (keys : List (List String)) (n : Nat) (k : List String) :
    rowsWithKey keys (n + 1) k =
      rowsWithKey keys n k ++ if keys.getD n [] = k then [n] else [] := by
  rw [rowsWithKey, rowsWithKey, List.range_succ, List.filter_append, List.filter_cons,
    List.filter_nil]
  by_cases h_k : keys.getD n [] = k
  · simp only [h_k, beq_self_eq_true, if_true]
  · simp only [beq_eq_false_iff_ne.mpr h_k, h_k, Bool.false_eq_true, if_false]

theorem lookup_cons_eq_ite {α β : Type} [DecidableEq α] [BEq α] [LawfulBEq α] (k k' : α) (b : β)
    (entries : List (α × β)) :
    ((k', b) :: entries).lookup k = if k = k' then some b else entries.lookup k := by
  rw [List.lookup_cons]
  cases h_beq : k == k' <;> simp_all

/-- In a list whose keys are distinct, an entry is what its key looks up. -/
theorem lookup_eq_of_mem {α β : Type} [DecidableEq α] [BEq α] [LawfulBEq α] {entries : List (α × β)}
    (h_nodup : (entries.map Prod.fst).Nodup) {k : α} {b : β} (h_mem : (k, b) ∈ entries) :
    entries.lookup k = some b := by
  induction entries with
  | nil => cases h_mem
  | cons e entries ih =>
    obtain ⟨k', b'⟩ := e
    rw [List.map_cons, List.nodup_cons] at h_nodup
    rcases List.mem_cons.mp h_mem with h_eq | h_in
    · cases h_eq
      exact List.lookup_cons_self
    · have h_ne : k ≠ k' := fun h_eq =>
        h_nodup.1 (h_eq ▸ List.mem_map.mpr ⟨(k, b), h_in, rfl⟩)
      rw [lookup_cons_eq_ite, if_neg h_ne, ih h_nodup.2 h_in]

theorem lookup_addToGroup (key k : List String) (row : Nat) (groups : List (List String × List Nat)) :
    (addToGroup key row groups).lookup k =
      if k = key then some ((groups.lookup key).getD [] ++ [row]) else groups.lookup k := by
  induction groups with
  | nil => by_cases h_k : k = key <;> simp [addToGroup, lookup_cons_eq_ite, h_k]
  | cons group groups ih =>
    obtain ⟨k', rows⟩ := group
    by_cases h_head : k' = key
    · subst h_head
      by_cases h_k : k = k' <;> simp [addToGroup, lookup_cons_eq_ite, h_k]
    · by_cases h_k : k = k' <;>
        simp [addToGroup, lookup_cons_eq_ite, h_head, Ne.symm h_head, h_k, ih]

theorem keys_addToGroup (key : List String) (row : Nat) (groups : List (List String × List Nat)) :
    (addToGroup key row groups).map Prod.fst =
      if key ∈ groups.map Prod.fst then groups.map Prod.fst else groups.map Prod.fst ++ [key] := by
  induction groups with
  | nil => simp [addToGroup]
  | cons group groups ih =>
    obtain ⟨k', rows⟩ := group
    by_cases h_head : k' = key
    · simp [addToGroup, h_head]
    · by_cases h_in : key ∈ groups.map Prod.fst <;>
        simp_all [addToGroup, Ne.symm h_head]

/-- `groups` holds, for each key, the positions of the rows among the first `n` with that key,
each key once. -/
structure GroupsOf (keys : List (List String)) (n : Nat)
    (groups : List (List String × List Nat)) : Prop where
  rows_eq : ∀ k, (groups.lookup k).getD [] = rowsWithKey keys n k
  nodup : (groups.map Prod.fst).Nodup

namespace GroupsOf

variable {keys : List (List String)} {n : Nat} {groups : List (List String × List Nat)}

theorem empty (keys : List (List String)) : GroupsOf keys 0 [] :=
  ⟨fun _ => rfl, List.nodup_nil⟩

/-- One more row: it joins the group of its key. -/
theorem addToGroup (h : GroupsOf keys n groups) :
    GroupsOf keys (n + 1) (MetricLayer.TableCalc.addToGroup (keys.getD n []) n groups) where
  rows_eq k := by
    rw [lookup_addToGroup, rowsWithKey_succ]
    by_cases h_k : k = keys.getD n []
    · rw [if_pos h_k, if_pos h_k.symm, h_k, Option.getD_some, h.rows_eq]
    · rw [if_neg h_k, if_neg (Ne.symm h_k), h.rows_eq, List.append_nil]
  nodup := by
    rw [keys_addToGroup]
    split
    · exact h.nodup
    · next h_new => exact h.nodup.append (List.nodup_singleton _) (by simpa using h_new)

theorem rows_of_mem (h : GroupsOf keys n groups) {k : List String} {rows : List Nat}
    (h_mem : (k, rows) ∈ groups) : rows = rowsWithKey keys n k := by
  rw [← h.rows_eq, lookup_eq_of_mem h.nodup h_mem, Option.getD_some]

/-- Every one of the first `n` rows has a group. -/
theorem key_mem (h : GroupsOf keys n groups) {i : Nat} (h_i : i < n) :
    keys.getD i [] ∈ groups.map Prod.fst := by
  have h_row : i ∈ (groups.lookup (keys.getD i [])).getD [] := by
    rw [h.rows_eq]
    exact mem_rowsWithKey.mpr ⟨h_i, rfl⟩
  cases h_look : groups.lookup (keys.getD i []) with
  | none =>
    rw [h_look, Option.getD_none] at h_row
    cases h_row
  | some rows =>
    have h_some : (groups.lookup (keys.getD i [])).isSome := by rw [h_look]; rfl
    obtain ⟨group, h_mem, h_key⟩ := List.lookup_isSome_iff.mp h_some
    exact List.mem_map.mpr ⟨group, h_mem, (eq_of_beq h_key).symm⟩

end GroupsOf

/-- The grouping loop, one row at a time, groups every row. -/
theorem groupsOf_groupRows (keys : List (List String)) :
    GroupsOf keys keys.length (groupRows keys) := by
  suffices h_run : ∀ n, GroupsOf keys n ((List.range n).foldl
      (fun groups row => addToGroup (keys.getD row []) row groups) []) from h_run _
  intro n
  induction n with
  | zero => exact GroupsOf.empty keys
  | succ n ih =>
    rw [List.range_succ, List.foldl_append, List.foldl_cons, List.foldl_nil]
    exact ih.addToGroup

/-! ## Writing the shares back -/

/-- Writing each of some positions a value that depends on the position alone: the positions
listed get their value, if the list reaches them, and the others keep theirs. -/
theorem getElem?_foldl_set {α : Type} (value : Nat → α) (rows : List Nat) (out : List α)
    (i : Nat) :
    (rows.foldl (fun out r => out.set r (value r)) out)[i]? =
      if i ∈ rows then out[i]?.map fun _ => value i else out[i]? := by
  induction rows generalizing out with
  | nil => simp
  | cons r rows ih =>
    rw [List.foldl_cons, ih, List.getElem?_set']
    by_cases h_r : r = i
    · subst h_r
      by_cases h_in : r ∈ rows
      · simp [h_in, Option.map_map, Function.comp_def]
      · simp [h_in]
        rfl
    · by_cases h_in : i ∈ rows <;> simp [h_in, h_r, Ne.symm h_r]

/-- The total of the values at some positions. -/
def totalAt (values : List Number) (rows : List Nat) : Float :=
  sumFloats (rows.map fun r => (values.getD r (.int 0)).toFloat)

/-- A group's rows get their share of the group's total; every other position is kept. -/
theorem getElem?_writeGroupShares (values : List Number) (out : List Cell) (rows : List Nat)
    (i : Nat) :
    (writeGroupShares values out rows)[i]? =
      if i ∈ rows then out[i]?.map fun _ => .float (share (values.getD i (.int 0)) (totalAt values rows))
      else out[i]? := by
  -- a row's cell depends on the row alone, so the writes are those of `getElem?_foldl_set`
  have h_cells : rows.zip (percentOfTotal (rows.map fun r => values.getD r (.int 0))) =
      rows.map fun r => (r, Cell.float (share (values.getD r (.int 0)) (totalAt values rows))) := by
    simp only [percentOfTotal_eq_map_share, List.map_map]
    conv_lhs => arg 1; rw [← List.map_id rows]
    rw [List.zip_map']
    rfl
  rw [writeGroupShares, h_cells, List.foldl_map]
  exact getElem?_foldl_set (fun r => .float (share (values.getD r (.int 0)) (totalAt values rows)))
    rows out i

/-- Writing the groups of the first `n` rows one after the other: each of those rows whose
group is among them gets its share of its group's total. The groups may come in any order. -/
theorem getElem?_foldl_writeGroupShares {keys : List (List String)} {n : Nat}
    (values : List Number) (groups : List (List String × List Nat))
    (h_rows : ∀ group ∈ groups, group.2 = rowsWithKey keys n group.1) (out : List Cell) (i : Nat) :
    (groups.foldl (fun out group => writeGroupShares values out group.2) out)[i]? =
      if i < n ∧ keys.getD i [] ∈ groups.map Prod.fst then
        out[i]?.map fun _ => .float (share (values.getD i (.int 0))
          (totalAt values (rowsWithKey keys n (keys.getD i []))))
      else out[i]? := by
  induction groups generalizing out with
  | nil => simp
  | cons group groups ih =>
    obtain ⟨k, rows⟩ := group
    obtain rfl : rows = rowsWithKey keys n k := h_rows (k, rows) List.mem_cons_self
    rw [List.foldl_cons, ih (fun g h_g => h_rows g (List.mem_cons_of_mem _ h_g)),
      getElem?_writeGroupShares]
    simp only [mem_rowsWithKey]
    -- row `i` is written by this group exactly when its key is the group's
    by_cases h_i : i < n
    · by_cases h_here : keys.getD i [] = k
      · subst h_here
        simp [h_i, Option.map_map, Function.comp_def, -List.getD_eq_getElem?_getD]
      · have h_mem : keys.getD i [] ∈ ((k, rowsWithKey keys n k) :: groups).map Prod.fst ↔
            keys.getD i [] ∈ groups.map Prod.fst := by
          simp [h_here, -List.getD_eq_getElem?_getD]
        simp only [h_here, h_mem, and_false, if_false]
    · simp [h_i]

/-- Each row's cell is its value's share of the total of the values of the rows with its key,
taken in row order. -/
theorem getElem?_percentWithinGroups (keys : List (List String)) (values : List Number)
    (i : Nat) :
    (percentWithinGroups keys values)[i]? =
      if i < keys.length then
        some (.float (share (values.getD i (.int 0))
          (totalAt values (rowsWithKey keys keys.length (keys.getD i [])))))
      else none := by
  have h_groups := groupsOf_groupRows keys
  rw [percentWithinGroups,
    getElem?_foldl_writeGroupShares values _ (fun _ h_mem => h_groups.rows_of_mem h_mem)]
  by_cases h_i : i < keys.length
  · rw [if_pos ⟨h_i, h_groups.key_mem h_i⟩, if_pos h_i, List.getElem?_replicate, if_pos h_i,
      Option.map_some]
  · rw [if_neg fun h => h_i h.1, if_neg h_i, List.getElem?_replicate, if_neg h_i]

/-- The rows with a key, read in a zip of the keys with values of the same length. -/
theorem totalAt_rowsWithKey {keys : List (List String)} {values : List Number}
    (h_len : values.length = keys.length) (k : List String) :
    totalAt values (rowsWithKey keys keys.length k) =
      sumFloats (((keys.zip values).filter (·.1 == k)).map (·.2.toFloat)) := by
  have h_zip : keys.zip values =
      (List.range keys.length).map fun i => (keys.getD i [], values.getD i (.int 0)) := by
    refine List.ext_getElem (by simp [h_len]) fun i h_i _ => ?_
    have h_k : i < keys.length := by simp at h_i; omega
    have h_v : i < values.length := h_len ▸ h_k
    simp [List.getElem?_eq_getElem h_k, List.getElem?_eq_getElem h_v]
  rw [totalAt, rowsWithKey, h_zip, List.filter_map, List.map_map]
  rfl

/-- Shares within groups, keyed by any function of the row: each row's value against the sum,
in row order, of the values of the rows with its key. -/
theorem percentWithinGroups_map {ρ : Type} (key : ρ → List String) (rows : List ρ)
    (values : List Number) (h_len : values.length = rows.length) :
    percentWithinGroups (rows.map key) values =
      (rows.zip values).map fun (row, v) =>
        .float (share v (sumFloats (((rows.zip values).filter fun (row', _) =>
          key row' == key row).map (·.2.toFloat)))) := by
  have h_keys : values.length = (rows.map key).length := by simpa using h_len
  apply List.ext_getElem?
  intro i
  rw [getElem?_percentWithinGroups, totalAt_rowsWithKey h_keys, List.getElem?_map]
  by_cases h_i : i < rows.length
  · have h_zip : i < (rows.zip values).length := by simp [h_len, h_i]
    rw [if_pos (by simpa using h_i), List.getElem?_eq_getElem h_zip, List.getElem_zip,
      Option.map_some]
    simp [h_i, h_len ▸ h_i, List.zip_map_left, List.filter_map, List.map_map, Function.comp_def]
  · simp [h_i, h_len]

/-- Rows share a partition key exactly when they fall in one partition. -/
theorem partitionKey_beq (f : Frame) (partition : List String) (row row' : List Cell) :
    (partition.map (f.partitionText row') == partition.map (f.partitionText row)) =
      decide (f.SamePartition partition row' row) := by
  rw [Bool.eq_iff_iff, beq_iff_eq, List.map_inj_left, decide_eq_true_iff]
  rfl

/-- `percent_of_column_total` with a partition: each row's value as a percentage of the sum, in
row order, of the values of the rows in its partition, where two rows are in one partition when
every partition column shows the same text in both (its display text: `NULL`, `true`/`false`,
digits, the shortest text of a double, a text as itself; empty for a column the frame lacks).
It fails exactly when the column does not read as numbers. -/
theorem percentOfColumnTotal_shares_by_display {partition : List String} (h_part : partition ≠ [])
    (f : Frame) (name field : String) :
    applyStep f name (.percentOfColumnTotal field partition) =
      (f.numbers name field).map fun values =>
        (f.rows.zip values).map fun (row, v) =>
          .float (share v (sumFloats (((f.rows.zip values).filter fun (row', _) =>
            f.SamePartition partition row' row).map (·.2.toFloat)))) := by
  have h_nonempty : partition.isEmpty = false := List.isEmpty_eq_false_iff.mpr h_part
  cases h_values : f.numbers name field with
  | error e =>
    rw [applyStep, h_values]
    rfl
  | ok values =>
    simp only [applyStep, h_values, Except.ok_bind, h_nonempty, Bool.false_eq_true, if_false]
    rw [show (f.rows.map fun row =>
          partition.map fun p => ((f.cell row p).map Cell.display).getD "") =
        f.rows.map fun row => partition.map (f.partitionText row) from rfl,
      percentWithinGroups_map _ _ _ (length_numbers h_values)]
    simp only [partitionKey_beq]
    rfl

/-- Partitioned by a column holding a number and a numeric text. -/
theorem percentOfColumnTotal_shares_by_display_int_and_text :
    ["g"] ≠ [] ∧
    applyStep ⟨["g", "v"], [[.int 5, .int 10], [.text "5", .int 30]]⟩ "p"
        (.percentOfColumnTotal "v" ["g"]) =
      (Frame.numbers ⟨["g", "v"], [[.int 5, .int 10], [.text "5", .int 30]]⟩ "p" "v").map
        fun values => ([[Cell.int 5, .int 10], [.text "5", .int 30]].zip values).map fun (row, v) =>
          .float (share v (sumFloats
            ((([[Cell.int 5, .int 10], [.text "5", .int 30]].zip values).filter
              fun (row', _) =>
                Frame.SamePartition ⟨["g", "v"], [[.int 5, .int 10], [.text "5", .int 30]]⟩
                  ["g"] row' row).map (·.2.toFloat)))) :=
  ⟨by simp, percentOfColumnTotal_shares_by_display (by simp) _ _ _⟩

/-- An integer cell and a text cell with the same digits are different values, yet fall in one
partition: the shares are of their common total 40. -/
theorem int_and_numeric_text_share_partition :
    Cell.int 5 ≠ Cell.text "5" ∧
    process [Calculation.mk "p" .percentOfColumnTotal none none (some "v") ["g"] [] none none]
      [[.int 5, .int 10], [.text "5", .int 30]] ["g", "v"] =
      .ok ([[.int 5, .int 10, .float 25.0], [.text "5", .int 30, .float 75.0]], ["g", "v", "p"]) :=
  ⟨nofun, rfl⟩

end MetricLayer.TableCalc
