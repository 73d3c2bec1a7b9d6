import MetricLayer.Proofs.Sql.Pagination
import MetricLayer.Proofs.Graph.CanonicalNames
import MetricLayer.Proofs.Time.RelativeFilters
import MetricLayer.Proofs.Validation.Filters
import MetricLayer.Proofs.Rollup.Selection
/-!
# Ordering by requested fields

A request orders its result by entries `field [ASC|DESC]`. Checking the request accepts a field
when it is a requested metric or dimension reference as written, the part of one after its last
`.` (`lastSegment`), or the name of a table calculation (`Graph.orderFields`). Building the query,
`QueryContext.applyOrdering` skips the calculations and looks every other field up among the
resolved outputs (`QueryContext.orderColumn`): a dimension by `model.column` or by its column, a
metric by its reference or its output name. A field it cannot find is silently dropped.

The two notions agree on every field an entry can have. An entry's field has no blank at either
end (`OrderEntry.trimBlank_field`), and such a field, accepted by the check, is found
(`QueryContext.orderColumn_isSome_of_mem_orderFields`): a requested dimension resolves to
`model.column` with the column after the reference's last `.`, and a metric's output name is what
follows its last `.`, trimmed. So for every accepted request whose query is read from the raw
rows, the ordering has one item per entry that names no calculation, in entry order, with the
entry's direction, on the column of a requested dimension or metric the field names.

The converse holds when the references carry no blanks. A reference written with a blank at its
end is still resolved, trimmed, but the check compares the field with the text as written, so it
refuses an ordering the builder would keep (`trailingBlank_ordering_refused`).

Main statement: `Graph.accepted_ordering_kept`.
-/

namespace MetricLayer

open MetricLayer.Sql MetricLayer.Text

-- ============================================================================
-- Fields of ordering entries
-- ============================================================================

/-- The part of a reference after its last `.`, or the reference itself when it has none. -/
def lastSegment (x : String) : String := ((rsplitOnce x ".").map (·.2)).getD x

/-- A metric's output name is the part of its reference after the last `.`, trimmed. -/
theorem outputName_eq (x : String) : outputName x = trimBlank (lastSegment x) := rfl

/-- Characters with no blank at either end are their own trimming. -/
theorem trimBlankList_eq_self {cs : List Char} (h_front : ∀ c ∈ cs.head?, isBlank c = false)
    (h_back : ∀ c ∈ cs.reverse.head?, isBlank c = false) : trimBlankList cs = cs := by
  rw [trimBlankList, dropWhile_eq_self_of_head h_front, dropWhile_eq_self_of_head h_back,
    List.reverse_reverse]

/-- Trimmed characters are a prefix of the characters past the leading blanks. -/
theorem trimBlankList_prefix (cs : List Char) : trimBlankList cs <+: cs.dropWhile isBlank := by
  rw [trimBlankList, ← List.reverse_suffix, List.reverse_reverse]
  exact List.dropWhile_suffix isBlank

/-- Split at its last blank, an entry keeps a prefix of itself before the blank. -/
theorem OrderEntry.splitLastBlank_prefix {cs field dir : List Char}
    (h : OrderEntry.splitLastBlank cs = some (field, dir)) : field <+: cs := by
  unfold OrderEntry.splitLastBlank at h
  split at h
  · cases h
  · rename_i wordRev b restRev h_span
    cases h
    rw [List.span_eq_takeWhile_dropWhile, Prod.mk.injEq] at h_span
    obtain ⟨h_word, h_rest⟩ := h_span
    have h_cs : cs.reverse = wordRev ++ b :: restRev := by
      rw [← h_word, ← h_rest, List.takeWhile_append_dropWhile]
    refine ⟨b :: wordRev.reverse, ?_⟩
    rw [← List.reverse_reverse cs, h_cs]
    simp

/-- The field of an ordering entry has no blank at either end. -/
theorem OrderEntry.trimBlank_field (entry : String) :
    trimBlank (OrderEntry.parse entry).1 = (OrderEntry.parse entry).1 := by
  unfold OrderEntry.parse
  dsimp only
  split
  · rename_i field dir h_split
    -- the field starts where the trimmed entry starts, and its trailing blanks are dropped
    have h_prefix : (field.reverse.dropWhile isBlank).reverse <+: entry.toList.dropWhile isBlank := by
      have h_drop : (field.reverse.dropWhile isBlank).reverse <+: field := by
        rw [← List.reverse_suffix, List.reverse_reverse]
        exact List.dropWhile_suffix isBlank
      refine h_drop.trans ((OrderEntry.splitLastBlank_prefix h_split).trans ?_)
      rw [trimBlank, String.toList_ofList]
      exact trimBlankList_prefix entry.toList
    have h_trim : trimBlank (trimBlankEnd (String.ofList field)) =
        trimBlankEnd (String.ofList field) := by
      rw [trimBlank, trimBlankEnd, String.toList_ofList, String.toList_ofList,
        trimBlankList_eq_self]
      · exact fun c h_c => head?_dropWhile_false isBlank entry.toList c
          (mem_head?_of_initial h_prefix c h_c)
      · rw [List.reverse_reverse]
        exact head?_dropWhile_false isBlank _
    split
    · exact h_trim
    · split
      · exact h_trim
      · exact trimBlank_trimBlank entry
  · exact trimBlank_trimBlank entry

-- ============================================================================
-- The fields the request check accepts
-- ============================================================================

namespace Graph

/-- The fields a request may be ordered by: its references as written, the part of each after its
    last dot, and the names of its calculations. -/
def orderFields (r : QueryRequest) : List String :=
  let refs := r.metrics ++ r.dimensions
  refs ++ refs.map lastSegment ++ r.tableCalculations.map (·.name)

/-- The ordering check finds nothing exactly when every entry's field may order the request. -/
theorem orderProblems_eq_nil_iff (r : QueryRequest) :
    orderProblems r = [] ↔ ∀ entry ∈ r.orderBy, (OrderEntry.parse entry).1 ∈ orderFields r := by
  unfold orderProblems orderFields lastSegment
  simp only [List.filterMap_eq_nil_iff]
  refine forall₂_congr fun entry _ => ?_
  split <;> simp_all

/-- Reviewing the calculations only reports more problems. -/
theorem problems_prefix_of_calculations (r : QueryRequest) (rv : Review) :
    rv.problems <+: (r.tableCalculations.foldl (fun rv c =>
      match c.validate with
      | .ok _ => rv
      | .error e => rv.report e.message) rv).problems := by
  refine foldl_invariant (fun rv' : Review => rv.problems <+: rv'.problems) ?_ (List.prefix_refl _)
  intro rv' c _ h_prefix
  split
  · exact h_prefix
  · exact h_prefix.trans (List.prefix_append _ _)

/-- A request the check accepts has every entry's field among the fields it may be ordered by. -/
theorem orderProblems_of_validateQuery {g : Graph} {r : QueryRequest}
    (h : g.validateQuery r = .ok ()) : orderProblems r = [] := by
  unfold validateQuery at h
  split at h
  · rename_i h_nil
    unfold queryProblems at h_nil
    dsimp only at h_nil
    -- the ordering problems are reported before the calculations', which only add to them
    have h_final := List.prefix_nil.mpr (List.append_eq_nil_iff.mp h_nil).1
    exact (List.append_eq_nil_iff.mp
      (List.prefix_nil.mp ((problems_prefix_of_calculations r _).trans h_final))).2
  · cases h

end Graph

-- ============================================================================
-- Requested dimensions, read back from their resolution
-- ============================================================================

theorem rsplitOnce_eq_some {s sep a b : String} (h : rsplitOnce s sep = some (a, b)) :
    s.toList = a.toList ++ sep.toList ++ b.toList := by
  obtain ⟨⟨x, y⟩, h_split, h_eq⟩ := Option.map_eq_some_iff.mp h
  simp only [Prod.mk.injEq] at h_eq
  obtain ⟨rfl, rfl⟩ := h_eq
  obtain ⟨⟨u, v⟩, h_rev, h_uv⟩ := Option.map_eq_some_iff.mp h_split
  simp only [Prod.mk.injEq] at h_uv
  obtain ⟨rfl, rfl⟩ := h_uv
  rw [← List.reverse_reverse s.toList, splitOnceList_eq_some h_rev]
  simp

/-- What follows the last dot of a text is the text after it. -/
theorem lastSegment_of_dot {x : String} {front rest : List Char} (h : x.toList = front ++ '.' :: rest)
    (h_rest : '.' ∉ rest) : lastSegment x = String.ofList rest := by
  have h_rev : x.toList.reverse = rest.reverse ++ '.' :: front.reverse := by simp [h]
  have h_split := @splitOnceList_dot_append rest.reverse front.reverse (List.mem_reverse.not.mpr h_rest)
  simp [lastSegment, rsplitOnce, rsplitOnceList, h_rev, h_split]

/-- The characters after the last dot are characters of the text. -/
theorem mem_of_mem_lastSegment {x : String} {c : Char} (h : c ∈ (lastSegment x).toList) :
    c ∈ x.toList := by
  unfold lastSegment at h
  cases h_split : rsplitOnce x "." with
  | none => simpa [h_split] using h
  | some p =>
    obtain ⟨a, b⟩ := p
    rw [h_split] at h
    rw [rsplitOnce_eq_some h_split]
    simp_all

theorem Granularity.name_of_parse {s : String} {g : Granularity} (h : Granularity.parse s = .ok g) :
    g.name = s := by
  unfold Granularity.parse Granularity.ofName? at h
  split at h
  · rename_i g' h_find
    cases h
    simpa using List.find?_some h_find
  · cases h

/-- A grain suffix is read off the last `__`: the field, `__` and the grain's name are the text
    that was read. -/
theorem FieldRef.toList_of_grain {rest field grain : String} {g : Granularity}
    (h_split : rsplitOnce rest "__" = some (field, grain)) (h_g : Granularity.parse grain = .ok g) :
    rest.toList = (field ++ "__" ++ g.name).toList := by
  rw [rsplitOnce_eq_some h_split, Granularity.name_of_parse h_g]
  simp

/-- Reading a field reference and writing it back gives the trimmed reference; the output column
    holds no dot. -/
theorem FieldRef.text_of_parse {x : String} {f : FieldRef} (h : FieldRef.parse x = .ok f) :
    f.text = trimBlank x ∧ '.' ∉ f.column.toList := by
  unfold FieldRef.parse at h
  cases h_split : splitOnce (trimBlank x) "." with
  | none =>
    simp only [h_split] at h
    split at h
    · cases h
    · rename_i h_ok
      simp only [Bool.or_eq_true, beq_iff_eq, not_or] at h_ok
      split at h
      · rename_i field grain h_tail
        obtain ⟨g, h_g, h_done⟩ := Except.bind_eq_ok.mp h
        cases h_done
        have h_rest := FieldRef.toList_of_grain h_tail h_g
        refine ⟨String.toList_inj.mp ?_, ?_⟩
        · simp [FieldRef.text, FieldRef.qualified, h_rest]
        · show '.' ∉ (field ++ "__" ++ g.name).toList
          rw [← h_rest]
          simpa [List.contains_iff_mem] using h_ok.2
      · cases h
        refine ⟨rfl, ?_⟩
        simpa [FieldRef.column, List.contains_iff_mem] using h_ok.2
  | some p =>
    obtain ⟨m', rest⟩ := p
    simp only [h_split] at h
    split at h
    · cases h
    · rename_i h_ok
      simp only [Bool.or_eq_true, beq_iff_eq, not_or] at h_ok
      split at h
      · rename_i field grain h_tail
        obtain ⟨g, h_g, h_done⟩ := Except.bind_eq_ok.mp h
        cases h_done
        have h_rest := FieldRef.toList_of_grain h_tail h_g
        refine ⟨String.toList_inj.mp ?_, ?_⟩
        · simp [FieldRef.text, FieldRef.qualified, splitOnce_eq_some h_split, h_rest]
        · show '.' ∉ (field ++ "__" ++ g.name).toList
          rw [← h_rest]
          simpa [List.contains_iff_mem] using h_ok.2
      · cases h
        refine ⟨String.toList_inj.mp ?_, ?_⟩
        · simp [FieldRef.text, FieldRef.qualified, splitOnce_eq_some h_split]
        · simpa [FieldRef.column, List.contains_iff_mem] using h_ok.2

theorem FieldRef.text_of_model {f : FieldRef} {m : String} (h : f.model = some m) :
    f.text = m ++ "." ++ f.column := by
  unfold FieldRef.text FieldRef.qualified FieldRef.column
  rw [h]
  cases f.granularity <;> simp [String.append_assoc]

/-- A resolved dimension's reference is, trimmed, its model's name, a dot and its output column,
    and the column holds no dot. -/
theorem Graph.resolveDimension_text {g : Graph} {x : String} {dim : ResolvedDimension}
    (h : g.resolveDimension x = .ok dim) :
    trimBlank x = dim.model.name ++ "." ++ dim.column ∧ '.' ∉ dim.column.toList := by
  unfold Graph.resolveDimension at h
  obtain ⟨f, h_f, h⟩ := Except.bind_eq_ok.mp h
  obtain ⟨h_text, h_dot⟩ := FieldRef.text_of_parse h_f
  dsimp only at h
  -- the reference names a model, then one of its dimensions; the grain is checked last
  split at h
  · rename_i modelName h_m
    simp only [pure_bind] at h
    obtain ⟨model, h_model, h⟩ := Except.bind_eq_ok.mp h
    split at h
    · rename_i dimension h_find
      have h_name : dimension.name = f.field := by simpa using List.find?_some h_find
      split at h
      · exact absurd h (throw_bind_ne_ok _ _ _)
      · cases h
        have h_column : ResolvedDimension.column ⟨model, dimension, f.granularity⟩ = f.column := by
          unfold ResolvedDimension.column FieldRef.column
          cases f.granularity <;> simp [h_name]
        rw [h_column, (getModel_ok h_model).2, ← FieldRef.text_of_model h_m]
        exact ⟨h_text.symm, h_dot⟩
    · exact absurd h (throw_bind_ne_ok _ _ _)
  · exact absurd h (throw_bind_ne_ok _ _ _)

/-- A text with no blank at its end ends in a non-blank. -/
theorem getLast?_of_trimBlank_eq {s : String} (h : trimBlank s = s) :
    ∀ c ∈ s.toList.getLast?, isBlank c = false := by
  have h_list : trimBlankList s.toList = s.toList := by
    simpa [trimBlank] using congrArg String.toList h
  rw [← h_list, trimBlankList, List.getLast?_reverse]
  exact head?_dropWhile_false isBlank _

/-- A text with no blank at its end, made of some characters then blanks, is those characters. -/
theorem eq_of_trimBlank_append_blanks {s : String} {cs trail : List Char} (h_trim : trimBlank s = s)
    (h : s.toList = cs ++ trail) (h_trail : ∀ c ∈ trail, isBlank c = true) : s.toList = cs := by
  cases trail using List.reverseRecOn with
  | nil => simpa using h
  | append_singleton trail c _ =>
    have h_c := getLast?_of_trimBlank_eq h_trim c (by simp [h])
    simp [h_trail c (by simp)] at h_c

/-- The part after the last dot of a reference whose trimmed text is `front.column`, with a
    dot-free column, is the column followed by the reference's trailing blanks. -/
theorem lastSegment_of_trimBlank {x front column : String}
    (h : trimBlank x = front ++ "." ++ column) (h_dot : '.' ∉ column.toList) :
    ∃ trail, (∀ c ∈ trail, isBlank c = true) ∧ lastSegment x = String.ofList (column.toList ++ trail) := by
  obtain ⟨lead, trail, h_x, -, h_trail⟩ := trimBlankList_between x.toList
  have h_trimmed : trimBlankList x.toList = front.toList ++ '.' :: column.toList := by
    simpa [trimBlank] using congrArg String.toList h
  refine ⟨trail, h_trail, @lastSegment_of_dot x (lead ++ front.toList) _ ?_ ?_⟩
  · rw [h_x, h_trimmed]
    simp
  · intro h_mem
    rcases List.mem_append.mp h_mem with h_mem | h_mem
    · exact h_dot h_mem
    · exact absurd (h_trail '.' h_mem) (by decide)

-- ============================================================================
-- What resolving a request keeps of it
-- ============================================================================

/-- A fold whose every step appends one item related to its element, whatever else it does,
    ends with the items it started with, then one related item for each element, in order. -/
theorem foldlM_ok_forall₂ {ε α β γ : Type} {f : β → α → Except ε β} (items : β → List γ)
    (R : α → γ → Prop) (h_step : ∀ b x b', f b x = .ok b' → ∃ y, R x y ∧ items b' = items b ++ [y]) :
    ∀ (xs : List α) (init r : β), xs.foldlM f init = .ok r →
      ∃ ys, List.Forall₂ R xs ys ∧ items r = items init ++ ys := by
  intro xs
  induction xs with
  | nil =>
    intro init r h_run
    cases h_run
    exact ⟨[], .nil, by simp⟩
  | cons x xs ih =>
    intro init r h_run
    rw [List.foldlM_cons] at h_run
    obtain ⟨b, h_b, h_rest⟩ := Except.bind_eq_ok.mp h_run
    obtain ⟨y, h_y, h_items⟩ := h_step init x b h_b
    obtain ⟨ys, h_ys, h_r⟩ := ih b r h_rest
    exact ⟨y :: ys, .cons h_y h_ys, by rw [h_r, h_items, List.append_assoc, List.singleton_append]⟩

theorem Forall₂.exists_of_mem_left {α β : Type} {R : α → β → Prop} :
    ∀ {l₁ : List α} {l₂ : List β}, List.Forall₂ R l₁ l₂ → ∀ {a}, a ∈ l₁ → ∃ b ∈ l₂, R a b
  | _, _, .nil, _, h => absurd h List.not_mem_nil
  | _, _, .cons h_ab h_rest, _, h => by
    rcases List.mem_cons.mp h with rfl | h
    · exact ⟨_, List.mem_cons_self, h_ab⟩
    · obtain ⟨b, h_b, h_r⟩ := Forall₂.exists_of_mem_left h_rest h
      exact ⟨b, List.mem_cons_of_mem _ h_b, h_r⟩

theorem Forall₂.exists_of_mem_right {α β : Type} {R : α → β → Prop} {l₁ : List α} {l₂ : List β}
    (h : List.Forall₂ R l₁ l₂) {b : β} (h_b : b ∈ l₂) : ∃ a ∈ l₁, R a b :=
  Forall₂.exists_of_mem_left (R := flip R) (List.Forall₂.flip (R := flip R) h) h_b

/-- Filtering a list and mapping it to options agree element by element, when the map keeps
    exactly the elements the filter keeps. -/
theorem forall₂_filter_filterMap {α β : Type} {f : α → Option β} {p : α → Bool} {R : α → β → Prop} :
    ∀ {xs : List α}, (∀ x ∈ xs, p x = false → f x = none) →
      (∀ x ∈ xs, p x = true → ∃ y, f x = some y ∧ R x y) →
      List.Forall₂ R (xs.filter p) (xs.filterMap f)
  | [], _, _ => .nil
  | x :: xs, h_drop, h_keep => by
    have ih : List.Forall₂ R (xs.filter p) (xs.filterMap f) :=
      forall₂_filter_filterMap (fun y h_y => h_drop y (List.mem_cons_of_mem x h_y))
        (fun y h_y => h_keep y (List.mem_cons_of_mem x h_y))
    cases h_p : p x
    · rw [List.filter_cons_of_neg (by simp [h_p]), List.filterMap_cons_none (h_drop x List.mem_cons_self h_p)]
      exact ih
    · obtain ⟨y, h_y, h_r⟩ := h_keep x List.mem_cons_self h_p
      rw [List.filter_cons_of_pos h_p, List.filterMap_cons_some h_y]
      exact .cons h_r ih

namespace QueryContext

@[simp] theorem touch_metrics (ctx : QueryContext) (m : String) :
    (ctx.touch m).metrics = ctx.metrics := by
  unfold touch; split <;> rfl

@[simp] theorem touch_dimensions (ctx : QueryContext) (m : String) :
    (ctx.touch m).dimensions = ctx.dimensions := by
  unfold touch; split <;> rfl

/-- What a step leaves of a context: its graph and its requested outputs. -/
def KeepsOutputs (ctx ctx' : QueryContext) : Prop :=
  ctx'.graph = ctx.graph ∧ ctx'.metrics = ctx.metrics ∧ ctx'.dimensions = ctx.dimensions

theorem KeepsOutputs.refl (ctx : QueryContext) : ctx.KeepsOutputs ctx := ⟨rfl, rfl, rfl⟩

theorem KeepsOutputs.trans {a b c : QueryContext} (h_ab : a.KeepsOutputs b) (h_bc : b.KeepsOutputs c) :
    a.KeepsOutputs c :=
  ⟨h_bc.1.trans h_ab.1, h_bc.2.1.trans h_ab.2.1, h_bc.2.2.trans h_ab.2.2⟩

theorem touch_keepsOutputs (ctx : QueryContext) (m : String) : ctx.KeepsOutputs (ctx.touch m) :=
  ⟨touch_graph ctx m, touch_metrics ctx m, touch_dimensions ctx m⟩

/-- A relation between contexts that composes and that each step recording what resolution finds
    satisfies: a touched model, a searched name, a row metric, a dimension a filter names, a
    filter. The dependency search and a filter's resolution are runs of these steps
    (`Records.collectRowMetrics`, `Records.addFilter`). -/
structure Records (R : QueryContext → QueryContext → Prop) : Prop where
  refl : ∀ ctx, R ctx ctx
  trans : ∀ {a b c}, R a b → R b c → R a c
  touch : ∀ ctx m, R ctx (ctx.touch m)
  visit : ∀ ctx key, R ctx { ctx with visited := ctx.visited ++ [key] }
  rowMetric : ∀ ctx r, R ctx { ctx with rowMetrics := ctx.rowMetrics ++ [r] }
  filterDimension : ∀ ctx dim, R ctx { ctx with filterDimensions := ctx.filterDimensions ++ [dim] }
  filter : ∀ ctx f, R ctx { ctx with filters := ctx.filters ++ [f] }

namespace Records

variable {R : QueryContext → QueryContext → Prop}

/-- A metric reading rows touches its model and is recorded among the row metrics. -/
theorem touch_rowMetric (h_R : Records R) (ctx : QueryContext) (m : String) (r : ResolvedMetric) :
    R ctx { ctx.touch m with rowMetrics := ctx.rowMetrics ++ [r] } := by
  have h_rows : (ctx.touch m).rowMetrics = ctx.rowMetrics := by
    unfold QueryContext.touch; split <;> rfl
  have h_step := h_R.rowMetric (ctx.touch m) r
  rw [h_rows] at h_step
  exact h_R.trans (h_R.touch ctx m) h_step

/-- The dependency search is a run of recording steps. -/
theorem collectRowMetrics (h_R : Records R) : ∀ (fuel : Nat) {ctx ctx' : QueryContext}
    {r : ResolvedMetric}, ctx.collectRowMetrics fuel r = .ok ctx' → R ctx ctx'
  | 0, ctx, ctx', r, h => by
    cases h
    exact h_R.refl ctx
  | fuel + 1, ctx, ctx', r, h => by
    unfold QueryContext.collectRowMetrics at h
    dsimp only at h
    split at h
    · cases h
      exact h_R.refl ctx
    · refine foldlM_ok_invariant (R ctx) ?_ _ _ _ ?_ h
      · -- each dependency is resolved, then searched with less fuel
        intro c d c' h_c h_step
        obtain ⟨dr, -, h_rec⟩ := Except.bind_eq_ok.mp h_step
        exact h_R.trans h_c (h_R.collectRowMetrics fuel h_rec)
      · -- the metric's name is recorded, and a metric reading rows touches its model
        refine h_R.trans (h_R.visit ctx r.canonical) ?_
        split
        · exact h_R.touch_rowMetric _ _ r
        · exact h_R.refl _

/-- Resolving a filter is a run of recording steps: each reference touches its model, and
    records the dimension it names or searches the metric it names. -/
theorem addFilter (h_R : Records R) {ctx ctx' : QueryContext} {filter : String}
    (h : ctx.addFilter filter = .ok ctx') : R ctx ctx' := by
  unfold QueryContext.addFilter at h
  obtain ⟨filled, -, h⟩ := Except.bind_eq_ok.mp h
  obtain ⟨sql, -, h⟩ := Except.bind_eq_ok.mp h
  obtain ⟨⟨c, models, onMetrics⟩, h_fold, h_done⟩ := Except.bind_eq_ok.mp h
  cases h_done
  have h_c : R ctx c := by
    refine foldlM_ok_invariant (fun (acc : QueryContext × List String × Bool) => R ctx acc.1)
      ?_ _ _ _ (h_R.refl ctx) h_fold
    intro ⟨c₀, models₀, on₀⟩ t ⟨c₁, models₁, on₁⟩ h_c₀ h_step
    dsimp only at h_c₀ h_step ⊢
    split at h_step
    · cases h_step
      exact h_c₀
    · split at h_step
      · cases h_step
        exact h_c₀
      · split at h_step
        · -- a dimension: touched, and recorded among the filter's dimensions
          cases h_step
          split
          · exact h_R.trans h_c₀ (h_R.touch c₀ _)
          · exact h_R.trans h_c₀ (h_R.trans (h_R.touch c₀ _) (h_R.filterDimension _ _))
        · split at h_step
          · -- a metric: touched, and searched for row metrics
            obtain ⟨c₂, h_search, h_done⟩ := Except.bind_eq_ok.mp h_step
            cases h_done
            exact h_R.trans h_c₀ (h_R.trans (h_R.touch c₀ _) (h_R.collectRowMetrics _ h_search))
          · cases h_step
            exact h_c₀
  exact h_R.trans h_c (h_R.filter c _)

end Records

/-- The dependency search and filters record row metrics, touched models, searched names and
    conditions only. -/
theorem keepsOutputs_records : Records KeepsOutputs where
  refl := KeepsOutputs.refl
  trans := KeepsOutputs.trans
  touch := touch_keepsOutputs
  visit _ _ := ⟨rfl, rfl, rfl⟩
  rowMetric _ _ := ⟨rfl, rfl, rfl⟩
  filterDimension _ _ := ⟨rfl, rfl, rfl⟩
  filter _ _ := ⟨rfl, rfl, rfl⟩

/-- Resolving a request keeps one output metric per requested metric, under its reference and
    output name, and one resolved dimension per requested dimension, in request order. -/
theorem resolve_outputs {g : Graph} {r : QueryRequest} {d : Dialect} {today : String}
    {ctx : QueryContext} (h : resolve g r d today = .ok ctx) :
    List.Forall₂ (fun x (m : OutputMetric) => m.reference = x ∧ m.column = outputName x)
        r.metrics ctx.metrics ∧
      List.Forall₂ (fun x dim => g.resolveDimension x = .ok dim) r.dimensions ctx.dimensions := by
  unfold resolve at h
  obtain ⟨ctx₁, h₁, h⟩ := Except.bind_eq_ok.mp h
  obtain ⟨ctx₂, h₂, h⟩ := Except.bind_eq_ok.mp h
  obtain ⟨ctx₃, h₃, h₄⟩ := Except.bind_eq_ok.mp h
  -- the metrics are appended one per reference, and the dimensions after them
  obtain ⟨ms, h_ms, h_metrics₁⟩ := foldlM_ok_forall₂ (fun c : QueryContext => c.metrics)
    (fun x (m : OutputMetric) => m.reference = x ∧ m.column = outputName x) (by
      intro c x c' h_step
      obtain ⟨resolved, -, h_step⟩ := Except.bind_eq_ok.mp h_step
      dsimp only at h_step
      obtain ⟨c₂, h_search, h_done⟩ := Except.bind_eq_ok.mp h_step
      cases h_done
      refine ⟨⟨x, outputName x, resolved⟩, ⟨rfl, rfl⟩, ?_⟩
      rw [(keepsOutputs_records.collectRowMetrics _ h_search).2.1]
      split <;> simp) _ _ _ h₁
  have h_dims₁ : ctx₁.dimensions = [] := by
    refine foldlM_ok_invariant (fun c : QueryContext => c.dimensions = []) ?_ _ _ _ rfl h₁
    intro c x c' h_c h_step
    obtain ⟨resolved, -, h_step⟩ := Except.bind_eq_ok.mp h_step
    obtain ⟨c₂, h_search, h_done⟩ := Except.bind_eq_ok.mp h_step
    cases h_done
    show c₂.dimensions = []
    rw [(keepsOutputs_records.collectRowMetrics _ h_search).2.2]
    split <;> simpa using h_c
  obtain ⟨ds, h_ds, h_dims₂⟩ := foldlM_ok_forall₂ (fun c : QueryContext => c.dimensions)
    (fun x dim => g.resolveDimension x = .ok dim) (by
      intro c x c' h_step
      obtain ⟨resolved, h_resolved, h_done⟩ := Except.bind_eq_ok.mp h_step
      cases h_done
      exact ⟨resolved, h_resolved, by simp⟩) _ _ _ h₂
  have h_metrics₂ : ctx₂.metrics = ctx₁.metrics := by
    refine foldlM_ok_invariant (fun c : QueryContext => c.metrics = ctx₁.metrics) ?_ _ _ _ rfl h₂
    intro c x c' h_c h_step
    obtain ⟨resolved, -, h_done⟩ := Except.bind_eq_ok.mp h_step
    cases h_done
    simpa using h_c
  -- filters and segments add conditions, never outputs
  have h_filters : ctx₂.KeepsOutputs ctx₃ :=
    foldlM_ok_invariant ctx₂.KeepsOutputs
      (fun _ _ _ h_c h_step => h_c.trans (keepsOutputs_records.addFilter h_step))
      _ _ _ (KeepsOutputs.refl ctx₂) h₃
  have h_segments : ctx₃.KeepsOutputs ctx := by
    refine foldlM_ok_invariant ctx₃.KeepsOutputs ?_ _ _ _ (KeepsOutputs.refl ctx₃) h₄
    intro c x c' h_c h_step
    obtain ⟨⟨model, segment⟩, -, h_step⟩ := Except.bind_eq_ok.mp h_step
    obtain ⟨sql, -, h_done⟩ := Except.bind_eq_ok.mp h_step
    cases h_done
    exact h_c.trans (touch_keepsOutputs _ _)
  have h_all := h_filters.trans h_segments
  refine ⟨?_, ?_⟩
  · rw [h_all.2.1, h_metrics₂, h_metrics₁]
    simpa using h_ms
  · rw [h_all.2.2, h_dims₂, h_dims₁]
    simpa using h_ds

/-- `c` is the output column of a requested dimension that `field` names by `model.column` or by
    its column, or of a requested metric that `field` names by its reference or its output name. -/
def NamedColumn (ctx : QueryContext) (field c : String) : Prop :=
  (∃ d ∈ ctx.dimensions, (d.model.name ++ "." ++ d.column = field ∨ d.column = field) ∧ d.column = c) ∨
    ∃ m ∈ ctx.metrics, (m.reference = field ∨ m.column = field) ∧ m.column = c

/-- The column a field is ordered on is one it names. -/
theorem orderColumn_namedColumn {ctx : QueryContext} {field c : String}
    (h : ctx.orderColumn field = some c) : ctx.NamedColumn field c := by
  unfold orderColumn at h
  split at h
  · rename_i d h_find
    cases h
    exact .inl ⟨d, List.mem_of_find?_eq_some h_find, by simpa using List.find?_some h_find, rfl⟩
  · obtain ⟨m, h_find, rfl⟩ := Option.map_eq_some_iff.mp h
    exact .inr ⟨m, List.mem_of_find?_eq_some h_find, by simpa using List.find?_some h_find, rfl⟩

/-- A field is found exactly when it names a requested dimension or metric. -/
theorem orderColumn_isSome_iff (ctx : QueryContext) (field : String) :
    (ctx.orderColumn field).isSome ↔ ∃ c, ctx.NamedColumn field c := by
  constructor
  · intro h
    obtain ⟨c, h_c⟩ := Option.isSome_iff_exists.mp h
    exact ⟨c, orderColumn_namedColumn h_c⟩
  · rintro ⟨c, h_c⟩
    unfold orderColumn
    split
    · rfl
    · rename_i h_none
      -- no dimension answers to the field, so a metric does
      rcases h_c with ⟨d, h_d, h_names, -⟩ | ⟨m, h_m, h_names, -⟩
      · have := List.find?_eq_none.mp h_none d h_d
        simp_all
      · simp only [Option.isSome_map, List.find?_isSome]
        exact ⟨m, h_m, by simpa using h_names⟩

variable {g : Graph} {r : QueryRequest} {d : Dialect} {today : String} {ctx : QueryContext}

/-- Every field the request check accepts, other than a calculation's name, is found among the
    resolved outputs: written as a reference, it names that output; cut after the last dot, it is
    a metric's output name or a dimension's column, since an entry's field has no blank at its
    end. -/
theorem orderColumn_isSome_of_mem_orderFields (h_ctx : resolve g r d today = .ok ctx)
    {field : String} (h_trim : trimBlank field = field) (h_mem : field ∈ Graph.orderFields r)
    (h_calc : field ∉ r.tableCalculations.map (·.name)) : (ctx.orderColumn field).isSome := by
  obtain ⟨h_metrics, h_dims⟩ := resolve_outputs h_ctx
  rw [orderColumn_isSome_iff]
  simp only [Graph.orderFields, List.mem_append, List.mem_map] at h_mem
  rcases h_mem with ((h_x | h_x) | ⟨x, h_x, h_seg⟩) | h_c
  · -- a metric as written
    obtain ⟨m, h_m, h_ref, -⟩ := Forall₂.exists_of_mem_left h_metrics h_x
    exact ⟨m.column, .inr ⟨m, h_m, .inl h_ref, rfl⟩⟩
  · -- a dimension as written, which is its trimmed text
    obtain ⟨dim, h_dim, h_res⟩ := Forall₂.exists_of_mem_left h_dims h_x
    obtain ⟨h_text, -⟩ := Graph.resolveDimension_text h_res
    exact ⟨dim.column, .inl ⟨dim, h_dim, .inl (h_text.symm.trans h_trim), rfl⟩⟩
  · rcases h_x with h_x | h_x
    · -- after the last dot of a metric: its output name, trimmed
      obtain ⟨m, h_m, -, h_column⟩ := Forall₂.exists_of_mem_left h_metrics h_x
      have h_out : m.column = field := by rw [h_column, outputName_eq, h_seg, h_trim]
      exact ⟨m.column, .inr ⟨m, h_m, .inr h_out, rfl⟩⟩
    · -- after the last dot of a dimension: its column, followed by no blank
      obtain ⟨dim, h_dim, h_res⟩ := Forall₂.exists_of_mem_left h_dims h_x
      obtain ⟨h_text, h_dot⟩ := Graph.resolveDimension_text h_res
      obtain ⟨trail, h_trail, h_last⟩ := lastSegment_of_trimBlank h_text h_dot
      have h_column : dim.column = field := by
        refine String.toList_inj.mp (eq_of_trimBlank_append_blanks h_trim ?_ h_trail).symm
        rw [← h_seg, h_last, String.toList_ofList]
      exact ⟨dim.column, .inl ⟨dim, h_dim, .inr h_column, rfl⟩⟩
  · exact absurd (List.mem_map.mpr h_c) h_calc

/-- When the request's references hold no blank, every field found among the resolved outputs is
    one the request check accepts. -/
theorem mem_orderFields_of_orderColumn (h_ctx : resolve g r d today = .ok ctx)
    (h_blank : ∀ x ∈ r.metrics ++ r.dimensions, ∀ c ∈ x.toList, isBlank c = false)
    {field : String} (h_some : (ctx.orderColumn field).isSome) : field ∈ Graph.orderFields r := by
  obtain ⟨h_metrics, h_dims⟩ := resolve_outputs h_ctx
  have h_plain : ∀ x ∈ r.metrics ++ r.dimensions, trimBlank x = x := fun x h_x =>
    String.toList_inj.mp (by rw [trimBlank, String.toList_ofList, trimBlankList_of_forall (h_blank x h_x)])
  obtain ⟨c, h_c⟩ := (orderColumn_isSome_iff ctx field).mp h_some
  simp only [Graph.orderFields, List.mem_append, List.mem_map]
  rcases h_c with ⟨dim, h_dim, h_names, -⟩ | ⟨m, h_m, h_names, -⟩
  · obtain ⟨x, h_x, h_res⟩ := Forall₂.exists_of_mem_right h_dims h_dim
    obtain ⟨h_text, h_dot⟩ := Graph.resolveDimension_text h_res
    rw [h_plain x (List.mem_append_right _ h_x)] at h_text
    rcases h_names with h_names | h_names
    · -- `model.column` is the reference
      exact .inl (.inl (.inr (h_names ▸ h_text ▸ h_x)))
    · -- the column is what follows the reference's last dot
      have h_seg : lastSegment x = dim.column := by
        rw [@lastSegment_of_dot x dim.model.name.toList dim.column.toList (by simp [h_text]) h_dot,
          String.ofList_toList]
      exact .inl (.inr ⟨x, .inr h_x, h_seg.trans h_names⟩)
  · obtain ⟨x, h_x, h_ref, h_column⟩ := Forall₂.exists_of_mem_right h_metrics h_m
    rcases h_names with h_names | h_names
    · exact .inl (.inl (.inl (h_names ▸ h_ref ▸ h_x)))
    · -- the output name is what follows the last dot, which holds no blank
      have h_seg : trimBlank (lastSegment x) = lastSegment x :=
        String.toList_inj.mp (by
          rw [trimBlank, String.toList_ofList, trimBlankList_of_forall fun c h_c =>
            h_blank x (List.mem_append_left _ h_x) c (mem_of_mem_lastSegment h_c)])
      refine .inl (.inr ⟨x, .inl h_x, ?_⟩)
      rw [← h_seg, ← outputName_eq, ← h_column, h_names]

/-- An item orders by an entry when it has the entry's direction and is on a column that the
    entry's field names. -/
def OrdersEntry (ctx : QueryContext) (entry : String) (o : OrderItem) : Prop :=
  o.descending = (if (OrderEntry.parse entry).2 then some true else none) ∧
    ∃ c, o.expr = col c ∧ ctx.NamedColumn (OrderEntry.parse entry).1 c

/-- Whether an entry orders by the name of one of the request's calculations. -/
def ordersByCalculation (r : QueryRequest) (entry : String) : Bool :=
  r.tableCalculations.any (·.name == (OrderEntry.parse entry).1)

/-- A query with no ordering of its own is ordered with one item per entry that is not on a
    calculation, in entry order, once the field of each such entry is found. -/
theorem applyOrdering_forall₂ (r : QueryRequest) {q : Query} (h_q : q.orderBy = [])
    (h_found : ∀ entry ∈ r.orderBy, ordersByCalculation r entry = false →
      (ctx.orderColumn (OrderEntry.parse entry).1).isSome) :
    List.Forall₂ ctx.OrdersEntry (r.orderBy.filter fun e => !ordersByCalculation r e)
      (ctx.applyOrdering r q).orderBy := by
  have h_ordered : ∀ order : List OrderItem,
      (if order.isEmpty then q else { q with orderBy := order }).orderBy = order := by
    intro order
    split
    · rename_i h_empty
      rw [h_q, List.isEmpty_iff.mp h_empty]
    · rfl
  unfold applyOrdering
  -- the page is set after the ordering and leaves it as it is
  cases r.limit <;> cases r.offset <;> simp only [Query.withLimit, Query.withOffset, h_ordered]
  all_goals
    refine forall₂_filter_filterMap ?_ ?_
    · intro entry _ h_calc
      rw [if_pos (by simpa [ordersByCalculation] using h_calc)]
    · intro entry h_entry h_calc
      have h_plain : ordersByCalculation r entry = false := by simpa using h_calc
      obtain ⟨c, h_c⟩ := Option.isSome_iff_exists.mp (h_found entry h_entry h_plain)
      rw [if_neg (by simpa [ordersByCalculation] using h_plain), h_c]
      refine ⟨{ expr := col c, descending := if (OrderEntry.parse entry).2 then some true else none },
        rfl, ?_⟩
      unfold OrdersEntry
      refine ⟨?_, c, rfl, orderColumn_namedColumn h_c⟩
      cases (OrderEntry.parse entry).2 <;> rfl

theorem not_mem_of_ordersByCalculation {r : QueryRequest} {entry : String}
    (h : ordersByCalculation r entry = false) :
    (OrderEntry.parse entry).1 ∉ r.tableCalculations.map (·.name) := by
  simpa [ordersByCalculation] using h

end QueryContext

-- ============================================================================
-- Plans read from the raw rows
-- ============================================================================

namespace Graph

/-- A query answered from a rollup comes with a decision that selects a candidate. -/
theorem routeQuery_selectedCandidate {g : Graph} {s : Settings} {ctx : QueryContext}
    {r : QueryRequest} {decision : Rollup.Decision} {q : Query}
    (h : g.routeQuery s ctx r = .ok (decision, some q)) : decision.selectedCandidate?.isSome := by
  unfold routeQuery at h
  split at h
  · cases h
  · split at h
    · obtain ⟨model, -, h⟩ := Except.bind_eq_ok.mp h
      dsimp only at h
      split at h
      · cases h
      · split at h
        · cases h
        · rename_i p h_selected
          obtain ⟨q', -, h_done⟩ := Except.bind_eq_ok.mp h
          cases h_done
          -- the selected index holds a rollup, so it holds a candidate
          obtain ⟨i, h_i, h_p⟩ := Option.bind_eq_some_iff.mp h_selected
          unfold Rollup.Decision.selectedCandidate?
          rw [h_i, Option.bind_some, Rollup.route_getElem?, h_p]
          rfl
    · cases h

/-- Every ordering entry of an accepted request is kept. For a request that `explain` plans from
    the raw rows, the query it renders is ordered with one item per entry that is not on a
    calculation, in entry order, with the entry's direction, on the output column of a requested
    dimension or metric that the entry's field names. When the request's references hold no
    blank, the check and the builder accept the same fields. -/
theorem accepted_ordering_kept {g : Graph} {s : Settings} {r : QueryRequest} {today : String}
    {plan : QueryPlan} (h : g.explain s r today = .ok plan)
    (h_raw : plan.selectedPreaggregation = none) :
    ∃ ctx q, QueryContext.resolve g r (requestDialect s r) today = .ok ctx ∧
      ctx.buildQuery = .ok q ∧ plan.sql = (ctx.applyOrdering r q).render (requestDialect s r) ∧
      List.Forall₂ ctx.OrdersEntry (r.orderBy.filter fun e => !QueryContext.ordersByCalculation r e)
        (ctx.applyOrdering r q).orderBy ∧
      ((∀ x ∈ r.metrics ++ r.dimensions, ∀ c ∈ x.toList, isBlank c = false) →
        ∀ entry, QueryContext.ordersByCalculation r entry = false →
          ((OrderEntry.parse entry).1 ∈ orderFields r ↔
            (ctx.orderColumn (OrderEntry.parse entry).1).isSome)) := by
  unfold explain at h
  obtain ⟨_, h_valid, h⟩ := Except.bind_eq_ok.mp h
  obtain ⟨ctx, h_ctx, h⟩ := Except.bind_eq_ok.mp h
  obtain ⟨⟨decision, rollup⟩, h_route, h⟩ := Except.bind_eq_ok.mp h
  dsimp only at h
  cases rollup with
  | some q =>
    -- a rollup query comes with a selected candidate, which the plan names
    cases h
    have h_selected := routeQuery_selectedCandidate h_route
    simp only [Option.map_eq_none_iff] at h_raw
    simp [h_raw] at h_selected
  | none =>
    obtain ⟨q, h_q, h_done⟩ := Except.bind_eq_ok.mp h
    cases h_done
    have h_accepted := (orderProblems_eq_nil_iff r).mp (orderProblems_of_validateQuery h_valid)
    have h_found : ∀ entry ∈ r.orderBy, QueryContext.ordersByCalculation r entry = false →
        (ctx.orderColumn (OrderEntry.parse entry).1).isSome := fun entry h_entry h_calc =>
      QueryContext.orderColumn_isSome_of_mem_orderFields h_ctx (OrderEntry.trimBlank_field entry)
        (h_accepted entry h_entry) (QueryContext.not_mem_of_ordersByCalculation h_calc)
    refine ⟨ctx, q, h_ctx, h_q, rfl,
      QueryContext.applyOrdering_forall₂ r (QueryContext.buildQuery_unfinished h_q).1 h_found, ?_⟩
    intro h_blank entry h_calc
    exact ⟨fun h_mem => QueryContext.orderColumn_isSome_of_mem_orderFields h_ctx
        (OrderEntry.trimBlank_field entry) h_mem (QueryContext.not_mem_of_ordersByCalculation h_calc),
      QueryContext.mem_orderFields_of_orderColumn h_ctx h_blank⟩

end Graph

/-- Revenue by status from the raw rows, largest first, then by status. -/
def revenueByStatusDesc : QueryRequest :=
  { metrics := ["orders.revenue"], dimensions := ["orders.status"],
    orderBy := ["revenue DESC", "orders.status"] }

theorem revenueByStatusDesc_ordering_kept :
    ∃ plan, rolledGraph.explain Settings.default revenueByStatusDesc "2024-06-30" = .ok plan ∧
      plan.selectedPreaggregation = none ∧
      ∃ (ctx : QueryContext) (q : Query),
        List.Forall₂ ctx.OrdersEntry revenueByStatusDesc.orderBy
          (ctx.applyOrdering revenueByStatusDesc q).orderBy := by
  have h_some : (rolledGraph.explain Settings.default revenueByStatusDesc "2024-06-30").toOption.map
      (·.selectedPreaggregation) = some none := by
    decide +kernel
  cases h : rolledGraph.explain Settings.default revenueByStatusDesc "2024-06-30" with
  | error e => simp [h, Except.toOption] at h_some
  | ok plan =>
    have h_raw : plan.selectedPreaggregation = none := by simpa [h, Except.toOption] using h_some
    obtain ⟨ctx, q, -, -, -, h_order, -⟩ := Graph.accepted_ordering_kept h h_raw
    have h_plain : (revenueByStatusDesc.orderBy.filter
        fun e => !QueryContext.ordersByCalculation revenueByStatusDesc e) = revenueByStatusDesc.orderBy := by
      decide +kernel
    exact ⟨plan, rfl, h_raw, ctx, q, h_plain ▸ h_order⟩

/-- Revenue requested with a blank at the end of its reference, ordered by its output name. -/
def revenueWithTrailingBlank : QueryRequest :=
  { metrics := ["orders.revenue "], orderBy := ["revenue"] }

/-- The request check compares an entry's field with the references as written, while the
    builder looks it up among the resolved, trimmed outputs: with a blank at the end of the
    reference, the check refuses an ordering the builder would keep. -/
theorem trailingBlank_ordering_refused :
    (rolledGraph.validateQuery revenueWithTrailingBlank).toOption = none ∧
      ((QueryContext.resolve rolledGraph revenueWithTrailingBlank
          (Graph.requestDialect Settings.default revenueWithTrailingBlank) "2024-06-30").toOption.bind
        (·.orderColumn "revenue")) = some "revenue" := by
  constructor <;> decide +kernel

end MetricLayer
