import MetricLayer.Graph.Cycle
import MetricLayer.Proofs.Graph.ShortestPath
import Mathlib
/-!
# Canonical metric names

A metric is known by its canonical name: `model.metric` for a metric of a model, its bare name
for a metric defined at graph level. The searches over dependencies and the compiler's memory
are keyed by that name, so it has to stand for one metric. It does when no model has a `.` in
its name: `model.metric` then splits at its first `.` only, and that split is how a reference is
read back. Model names are not checked for dots, which is the one assumption below.

Every resolved metric is one the graph holds (`Graph.Registered`), and two metrics the graph
holds under one canonical name are the same (`Graph.Registered.eq_of_canonical`). The names a
metric depends on carry no blanks at their ends, so a dependency that does not resolve is named
apart from every metric that does (`Graph.dependencyName_ne_canonical`). The canonical names
all come from `Graph.metricNames`, one name per metric, which bounds how deep a search nests.
-/

namespace MetricLayer

open MetricLayer.Text

-- ============================================================================
-- Splitting at the first dot
-- ============================================================================

theorem splitOnceList_dot_eq_none {cs : List Char} (h : '.' ∉ cs) :
    splitOnceList ['.'] cs = none := by
  induction cs with
  | nil => rfl
  | cons c cs ih =>
    have h_c : c ≠ '.' := fun h_eq => h (h_eq ▸ List.mem_cons_self)
    rw [splitOnceList, ih (fun h_in => h (List.mem_cons_of_mem c h_in))]
    simp [Ne.symm h_c]

theorem not_mem_of_splitOnceList_dot {cs : List Char} (h : splitOnceList ['.'] cs = none) :
    '.' ∉ cs := by
  induction cs with
  | nil => simp
  | cons c cs ih =>
    rw [splitOnceList] at h
    by_cases h_c : c = '.'
    · subst h_c
      simp at h
    · have h_rest : splitOnceList ['.'] cs = none := by simpa [Ne.symm h_c] using h
      simp [Ne.symm h_c, ih h_rest]

theorem splitOnceList_dot_append {xs ys : List Char} (h : '.' ∉ xs) :
    splitOnceList ['.'] (xs ++ '.' :: ys) = some (xs, ys) := by
  induction xs with
  | nil => simp [splitOnceList]
  | cons c xs ih =>
    have h_c : c ≠ '.' := fun h_eq => h (h_eq ▸ List.mem_cons_self)
    rw [List.cons_append, splitOnceList, ih (fun h_in => h (List.mem_cons_of_mem c h_in))]
    simp [Ne.symm h_c]

/-- `model.metric` splits at its first dot into the model and the metric when the model's name
has no dot. -/
theorem splitOnce_qualified {model name : String} (h : '.' ∉ model.toList) :
    splitOnce (model ++ "." ++ name) "." = some (model, name) := by
  simp [splitOnce, splitOnceList_dot_append h]

theorem splitOnce_dot_of_not_mem {s : String} (h : '.' ∉ s.toList) : splitOnce s "." = none := by
  simp [splitOnce, splitOnceList_dot_eq_none h]

theorem not_mem_of_splitOnce_dot {s : String} (h : splitOnce s "." = none) : '.' ∉ s.toList := by
  simp only [splitOnce, Option.map_eq_none_iff] at h
  exact not_mem_of_splitOnceList_dot h

theorem containsText_dot {s : String} : containsText s "." = true ↔ '.' ∈ s.toList := by
  have h_pat : ".".toList = ['.'] := by simp
  rw [containsText, h_pat, Option.isSome_iff_ne_none]
  constructor
  · intro h
    by_contra h_not
    exact h (splitOnceList_dot_eq_none h_not)
  · intro h h_none
    exact not_mem_of_splitOnceList_dot h_none h

theorem dot_mem_qualified (model name : String) : '.' ∈ (model ++ "." ++ name).toList := by
  simp

/-- Two qualified names whose first parts have no dot are equal part by part. -/
theorem qualified_inj {a b a' b' : String} (h_a : '.' ∉ a.toList) (h_a' : '.' ∉ a'.toList)
    (h : a ++ "." ++ b = a' ++ "." ++ b') : a = a' ∧ b = b' := by
  have h_split : splitOnce (a ++ "." ++ b) "." = some (a, b) := splitOnce_qualified h_a
  rw [h, splitOnce_qualified h_a'] at h_split
  simp only [Option.some.injEq, Prod.mk.injEq] at h_split
  exact ⟨h_split.1.symm, h_split.2.symm⟩

-- ============================================================================
-- Blanks
-- ============================================================================

theorem dropWhile_eq_self_of_head {p : Char → Bool} {l : List Char}
    (h : ∀ c ∈ l.head?, p c = false) : l.dropWhile p = l := by
  cases l with
  | nil => rfl
  | cons c l => simp [h c rfl]

theorem head?_dropWhile_false (p : Char → Bool) (l : List Char) :
    ∀ c ∈ (l.dropWhile p).head?, p c = false := by
  intro c h_c
  have h_ne : l.dropWhile p ≠ [] := by
    intro h_nil
    simp [h_nil] at h_c
  rw [List.head?_eq_some_head h_ne, Option.mem_some_iff] at h_c
  subst h_c
  exact List.head_dropWhile_not p h_ne

theorem mem_head?_of_initial {l t : List Char} (h : t <+: l) : ∀ c ∈ t.head?, c ∈ l.head? := by
  obtain ⟨rest, rfl⟩ := h
  cases t with
  | nil => simp
  | cons x xs => simp

/-- Text without blanks is its own trimming. -/
theorem trimBlankList_of_forall {cs : List Char} (h : ∀ c ∈ cs, isBlank c = false) :
    trimBlankList cs = cs := by
  have h_front : cs.dropWhile isBlank = cs :=
    dropWhile_eq_self_of_head fun c h_c => h c (List.mem_of_mem_head? h_c)
  have h_back : cs.reverse.dropWhile isBlank = cs.reverse :=
    dropWhile_eq_self_of_head fun c h_c => h c (List.mem_reverse.mp (List.mem_of_mem_head? h_c))
  rw [trimBlankList, h_front, h_back, List.reverse_reverse]

theorem trimBlankList_trimBlankList (cs : List Char) :
    trimBlankList (trimBlankList cs) = trimBlankList cs := by
  -- the trimmed text is a prefix of `cs` less its leading blanks, and ends in a non-blank
  have h_initial : trimBlankList cs <+: cs.dropWhile isBlank := by
    rw [trimBlankList, ← List.reverse_suffix, List.reverse_reverse]
    exact List.dropWhile_suffix isBlank
  have h_front : (trimBlankList cs).dropWhile isBlank = trimBlankList cs :=
    dropWhile_eq_self_of_head fun c h_c =>
      head?_dropWhile_false isBlank cs c (mem_head?_of_initial h_initial c h_c)
  have h_back : ((cs.dropWhile isBlank).reverse.dropWhile isBlank).dropWhile isBlank =
      (cs.dropWhile isBlank).reverse.dropWhile isBlank :=
    dropWhile_eq_self_of_head (head?_dropWhile_false isBlank _)
  rw [trimBlankList, h_front, trimBlankList, List.reverse_reverse, h_back]

theorem trimBlank_trimBlank (s : String) : trimBlank (trimBlank s) = trimBlank s := by
  rw [trimBlank, trimBlank, String.toList_ofList, trimBlankList_trimBlankList]

theorem CodeRanges.containsIn_sound {rs : CodeRanges} {n lo hi : Nat}
    (h : rs.containsIn n lo hi = true) : ∃ p ∈ rs.toList, p.1 ≤ n ∧ n ≤ p.2 := by
  fun_induction CodeRanges.containsIn rs n lo hi with
  | case1 _ _ _ _ _ _ _ _ ih => exact ih h
  | case2 _ _ _ _ _ _ _ _ _ ih => exact ih h
  | case3 _ _ _ _ a b h_at h_lo h_hi =>
    exact ⟨(a, b), Array.mem_toList_iff.mpr (Array.mem_of_getElem? h_at), by omega, by omega⟩
  | case4 => cases h
  | case5 => cases h

/-- No word range meets a blank beyond ASCII: next line, no-break space, ogham space, the
general punctuation blanks and the ideographic space. -/
theorem wordRanges_blank_free : wordRanges.toList.all (fun p =>
    !(p.1 ≤ 0x85 && 0x85 ≤ p.2) && !(p.1 ≤ 0xA0 && 0xA0 ≤ p.2) && !(p.1 ≤ 0x1680 && 0x1680 ≤ p.2) &&
    !(p.1 ≤ 0x200A && 0x2000 ≤ p.2) && !(p.1 ≤ 0x2029 && 0x2028 ≤ p.2) &&
    !(p.1 ≤ 0x202F && 0x202F ≤ p.2) && !(p.1 ≤ 0x205F && 0x205F ≤ p.2) &&
    !(p.1 ≤ 0x3000 && 0x3000 ≤ p.2)) = true := by
  decide +kernel

theorem isBlank_eq_false_of_isIdentStart {c : Char} (h : RefToken.isIdentStart c = true) :
    isBlank c = false := by
  simp only [RefToken.isIdentStart, Char.isAlpha, Char.isUpper, Char.isLower, Bool.or_eq_true,
    Bool.and_eq_true, decide_eq_true_eq, beq_iff_eq, UInt32.le_iff_toNat_le, Char.toNat_val,
    Char.reduceToNat] at h
  rcases h with h | rfl
  · simp [isBlank]
    omega
  · decide

theorem isBlank_eq_false_of_isWordChar {c : Char} (h : isWordChar c = true) :
    isBlank c = false := by
  unfold isWordChar at h
  split at h
  · -- ASCII letters, digits and the underscore
    simp only [Char.isAlphanum, Char.isAlpha, Char.isUpper, Char.isLower, Char.isDigit,
      Bool.or_eq_true, Bool.and_eq_true, decide_eq_true_eq, beq_iff_eq, UInt32.le_iff_toNat_le,
      Char.toNat_val, Char.reduceToNat] at h
    rcases h with h | rfl
    · simp [isBlank]
      omega
    · decide
  · obtain ⟨p, h_p, h_lo, h_hi⟩ := CodeRanges.containsIn_sound h
    have h_free := List.all_eq_true.mp wordRanges_blank_free p h_p
    simp at h_free
    simp [isBlank]
    omega

-- ============================================================================
-- The names formulas refer to
-- ============================================================================

theorem take_length_takeWhile (p : Char → Bool) (l : List Char) :
    l.take (l.takeWhile p).length = l.takeWhile p := by
  have h_l := List.takeWhile_append_dropWhile (p := p) (l := l)
  calc l.take (l.takeWhile p).length
      = (l.takeWhile p ++ l.dropWhile p).take (l.takeWhile p).length := by rw [h_l]
    _ = l.takeWhile p := List.take_left' rfl

theorem isBlank_eq_false_of_mem_takeWhile {x : Char} {l : List Char}
    (h : x ∈ l.takeWhile isWordChar) : isBlank x = false :=
  isBlank_eq_false_of_isWordChar (List.mem_takeWhile_imp h)

/-- What a name takes after its first character: word characters, then possibly a `.` and an
identifier. None of it is blank. -/
theorem isBlank_eq_false_of_mem_nameTail {x : Char} {rest : List Char}
    (h : x ∈ rest.take (RefToken.nameTail rest)) : isBlank x = false := by
  rw [RefToken.nameTail] at h
  split at h
  · rename_i d more h_after
    split at h
    · rename_i h_d
      have h_split : rest.take ((rest.takeWhile isWordChar).length + 2 +
          (more.takeWhile isWordChar).length) =
          rest.takeWhile isWordChar ++ '.' :: d :: more.takeWhile isWordChar := by
        rw [Nat.add_assoc, List.take_add, take_length_takeWhile, h_after, Nat.add_comm 2,
          List.take_succ_cons, List.take_succ_cons, take_length_takeWhile]
      rw [h_split] at h
      simp only [List.mem_append, List.mem_cons] at h
      rcases h with h | rfl | rfl | h
      · exact isBlank_eq_false_of_mem_takeWhile h
      · decide
      · exact isBlank_eq_false_of_isIdentStart h_d
      · exact isBlank_eq_false_of_mem_takeWhile h
    · rw [take_length_takeWhile] at h
      exact isBlank_eq_false_of_mem_takeWhile h
  · rw [take_length_takeWhile] at h
    exact isBlank_eq_false_of_mem_takeWhile h

theorem isBlank_eq_false_of_name {c : Char} {rest : List Char}
    (h_c : RefToken.isIdentStart c = true) :
    ∀ x ∈ c :: rest.take (RefToken.nameTail rest), isBlank x = false := by
  intro x h_x
  rcases List.mem_cons.mp h_x with rfl | h_x
  · exact isBlank_eq_false_of_isIdentStart h_c
  · exact isBlank_eq_false_of_mem_nameTail h_x

theorem isBlank_eq_false_of_bracedTail {rest name : List Char} {n : Nat}
    (h : RefToken.bracedTail rest = some (n, name)) : ∀ x ∈ name, isBlank x = false := by
  unfold RefToken.bracedTail at h
  split at h
  · dsimp only at h
    split at h
    · split at h
      · split at h
        · cases h
          exact isBlank_eq_false_of_name (by assumption)
        · cases h
      · cases h
    · cases h
  · cases h

theorem isBlank_eq_false_of_lexeme {start n : Nat} {c : Char} {rest : List Char} {r : RefToken}
    (h : RefToken.lexeme start c rest = some (n, some r)) :
    ∀ x ∈ r.name.toList, isBlank x = false := by
  unfold RefToken.lexeme at h
  dsimp only at h
  split at h
  · simp at h
  · split at h
    · -- a braced reference
      obtain ⟨⟨n', name⟩, h_braced, h_eq⟩ := Option.map_eq_some_iff.mp h
      simp only [Prod.mk.injEq, Option.some.injEq] at h_eq
      rw [← h_eq.2, String.toList_ofList]
      exact isBlank_eq_false_of_bracedTail h_braced
    · split at h
      · simp at h
      · split at h
        · -- a bare reference
          simp only [Option.some.injEq, Prod.mk.injEq] at h
          rw [← h.2, String.toList_ofList]
          exact isBlank_eq_false_of_name (by assumption)
        · cases h

theorem isBlank_eq_false_of_mem_scanFrom {pos : Nat} {cs : List Char} {t : RefToken}
    (h : t ∈ RefToken.scanFrom pos cs) : ∀ x ∈ t.name.toList, isBlank x = false := by
  fun_induction RefToken.scanFrom pos cs with
  | case1 => cases h
  | case2 _ _ _ _ _ r h_lexeme ih =>
    rcases List.mem_cons.mp h with rfl | h_next
    · exact isBlank_eq_false_of_lexeme h_lexeme
    · exact ih h_next
  | case3 _ _ _ _ _ _ ih => exact ih h
  | case4 _ _ _ _ ih => exact ih h

/-- The names of the references of a formula have no blank at either end. -/
theorem trimBlank_name_of_mem_scan {formula : String} {t : RefToken}
    (h : t ∈ RefToken.scan formula) : trimBlank t.name = t.name := by
  rw [trimBlank, trimBlankList_of_forall (isBlank_eq_false_of_mem_scanFrom h),
    String.ofList_toList]

theorem trimBlank_of_single? {sql name : String} (h : RefToken.single? sql = some name) :
    trimBlank name = name := by
  unfold RefToken.single? at h
  dsimp only at h
  split at h
  · rename_i only h_scan
    split at h
    · cases h
      exact trimBlank_name_of_mem_scan (h_scan ▸ List.mem_singleton_self only)
    · cases h
  · cases h

theorem mem_of_mem_foldl_insert {x : String} :
    ∀ (l acc : List String),
      x ∈ l.foldl (fun acc d => if acc.contains d then acc else acc ++ [d]) acc → x ∈ acc ∨ x ∈ l
  | [], _, h => .inl h
  | y :: ys, acc, h => by
    rw [List.foldl_cons] at h
    rcases mem_of_mem_foldl_insert ys _ h with h | h
    · split at h
      · exact .inl h
      · rcases List.mem_append.mp h with h | h
        · exact .inl h
        · exact .inr (List.mem_singleton.mp h ▸ List.mem_cons_self)
    · exact .inr (List.mem_cons_of_mem y h)

namespace Graph

/-- The names a metric depends on have no blank at either end: they are references read from
a formula, or trimmed operands. -/
theorem trimBlank_of_mem_dependencies {g : Graph} {m : Metric} {ctx : Option String} {d : String}
    (h : d ∈ g.dependencies m ctx) : trimBlank d = d := by
  unfold dependencies at h
  split at h
  · cases h
  · rcases mem_of_mem_foldl_insert _ _ h with h | h
    · cases h
    · split at h
      -- a formula: the references read from it
      case h_1 | h_2 =>
        split at h
        · obtain ⟨t, h_t, rfl⟩ := List.mem_map.mp h
          exact trimBlank_name_of_mem_scan (List.mem_filter.mp h_t).1
        · cases h
      -- a ratio: its trimmed operands
      case h_3 =>
        obtain ⟨o, -, h_o⟩ := List.mem_filterMap.mp h
        obtain ⟨s, -, rfl⟩ := Option.map_eq_some_iff.mp h_o
        exact trimBlank_trimBlank s
      -- a cumulative metric: the reference its formula consists of
      case h_4 =>
        split at h
        · rename_i n h_single
          obtain ⟨sql, -, h_sql⟩ := Option.bind_eq_some_iff.mp h_single
          split at h
          · rw [List.mem_singleton.mp h]
            exact trimBlank_of_single? h_sql
          · cases h
        · cases h
      -- a comparison: its trimmed base metric
      case h_5 =>
        cases h_cmp : m.comparison with
        | none => simp [h_cmp] at h
        | some cmp =>
          simp only [h_cmp, Option.map_some, Option.getD_some, List.mem_singleton] at h
          rw [h, trimBlank_trimBlank]
      case h_6 => cases h

-- ============================================================================
-- Resolution
-- ============================================================================

theorem Model.metric?_some {model : Model} {name : String} {m : Metric}
    (h : model.metric? name = some m) : m ∈ model.metrics ∧ m.name = name :=
  ⟨List.mem_of_find?_eq_some h, by simpa using List.find?_some h⟩

theorem metric?_some {g : Graph} {name : String} {m : Metric} (h : g.metric? name = some m) :
    m ∈ g.metrics ∧ m.name = name :=
  ⟨List.mem_of_find?_eq_some h, by simpa using List.find?_some h⟩

/-- A resolved metric as the graph holds it: the metric a registered model finds under its name,
or a graph-level metric the graph finds under a name without a dot. -/
inductive Registered (g : Graph) : ResolvedMetric → Prop
  | model {model : Model} {metric : Metric} : g.model? model.name = some model →
      model.metric? metric.name = some metric → Registered g ⟨some model, metric⟩
  | graph {metric : Metric} : '.' ∉ metric.name.toList → g.metric? metric.name = some metric →
      Registered g ⟨none, metric⟩

theorem registered_of_lookup {g : Graph} {modelName metricName : String} {model : Model}
    {metric : Metric} (h_model : g.model? modelName = some model)
    (h_metric : model.metric? metricName = some metric) : g.Registered ⟨some model, metric⟩ := by
  have h_model_name := (model?_some h_model).2
  have h_metric_name := (Model.metric?_some h_metric).2
  subst h_model_name h_metric_name
  exact .model h_model h_metric

theorem aliasTarget?_registered {g : Graph} {m : Metric} {r : ResolvedMetric}
    (h : g.aliasTarget? m = some r) : g.Registered r := by
  unfold aliasTarget? at h
  simp only [bind] at h
  split at h
  · simp at h
  · obtain ⟨sql, -, h_rest⟩ := Option.bind_eq_some_iff.mp h
    obtain ⟨⟨modelName, metricName⟩, -, h_rest⟩ := Option.bind_eq_some_iff.mp h_rest
    split at h_rest
    · simp at h_rest
    · obtain ⟨model, h_model, h_rest⟩ := Option.bind_eq_some_iff.mp h_rest
      obtain ⟨target, h_target, h_eq⟩ := Option.bind_eq_some_iff.mp h_rest
      cases h_eq
      exact registered_of_lookup h_model h_target

/-- Whatever a reference resolves to, the graph holds. -/
theorem resolveMetric_registered {g : Graph} {ref : String} {ctx : Option String}
    {r : ResolvedMetric} (h : g.resolveMetric ref ctx = .ok r) : g.Registered r := by
  unfold resolveMetric at h
  dsimp only at h
  split at h
  · -- `model.metric`
    obtain ⟨model, h_model, h_rest⟩ := Except.bind_eq_ok.mp h
    rw [getModel_of_model?] at h_model
    split at h_model
    · rename_i h_find
      cases h_model
      split at h_rest
      · rename_i metric h_metric
        cases h_rest
        exact registered_of_lookup h_find h_metric
      · cases h_rest
    · cases h_model
  · split at h
    · -- a metric of the context model
      rename_i r' h_in
      cases h
      obtain ⟨model, h_model, h_map⟩ := Option.bind_eq_some_iff.mp h_in
      obtain ⟨ctxName, -, h_find⟩ := Option.bind_eq_some_iff.mp h_model
      obtain ⟨metric, h_metric, rfl⟩ := Option.map_eq_some_iff.mp h_map
      exact registered_of_lookup h_find h_metric
    · -- a graph-level metric, or the model metric it stands for
      rename_i h_split _ _
      obtain ⟨metric, h_metric, h_eq⟩ := Except.bind_eq_ok.mp h
      cases h_eq
      cases h_alias : g.aliasTarget? metric with
      | none =>
        rw [Option.getD_none]
        have h_find : g.metric? (trimBlank ref) = some metric := by
          unfold getMetric at h_metric
          split at h_metric
          · cases h_metric
            assumption
          · cases h_metric
        have h_name := (metric?_some h_find).2
        refine .graph ?_ (h_name ▸ h_find)
        rw [h_name]
        exact not_mem_of_splitOnce_dot h_split
      | some target =>
        rw [Option.getD_some]
        exact aliasTarget?_registered h_alias

/-- No registered model has a `.` in its name. -/
def DotFreeModels (g : Graph) : Prop := ∀ model ∈ g.models, '.' ∉ model.name.toList

instance (g : Graph) : Decidable g.DotFreeModels :=
  inferInstanceAs (Decidable (∀ model ∈ g.models, '.' ∉ model.name.toList))

/-- The graph holds one metric under a canonical name when no model name has a dot. -/
theorem Registered.eq_of_canonical {g : Graph} (h_models : g.DotFreeModels) {r r' : ResolvedMetric}
    (h : g.Registered r) (h' : g.Registered r') (h_eq : r.canonical = r'.canonical) : r = r' := by
  cases h with
  | model h_model h_metric =>
    cases h' with
    | model h_model' h_metric' =>
      simp only [ResolvedMetric.canonical] at h_eq
      obtain ⟨h_names, h_metric_names⟩ := qualified_inj (h_models _ (model?_some h_model).1)
        (h_models _ (model?_some h_model').1) h_eq
      rw [h_names, h_model'] at h_model
      cases h_model
      rw [h_metric_names, h_metric'] at h_metric
      cases h_metric
      rfl
    | graph h_dot' _ =>
      simp only [ResolvedMetric.canonical] at h_eq
      exact absurd (h_eq ▸ dot_mem_qualified _ _) h_dot'
  | graph h_dot h_metric =>
    cases h' with
    | model _ _ =>
      simp only [ResolvedMetric.canonical] at h_eq
      exact absurd (h_eq ▸ dot_mem_qualified _ _) h_dot
    | graph _ h_metric' =>
      simp only [ResolvedMetric.canonical] at h_eq
      rw [h_eq, h_metric'] at h_metric
      cases h_metric
      rfl

/-- The model of a metric the graph holds is registered, so its name has no dot. -/
theorem Registered.modelName_dot_free {g : Graph} (h_models : g.DotFreeModels)
    {r : ResolvedMetric} (h : g.Registered r) : ∀ name ∈ r.modelName, '.' ∉ name.toList := by
  cases h with
  | model h_model _ =>
    intro name h_name
    cases h_name
    exact h_models _ (model?_some h_model).1
  | graph _ _ => intro name h_name; cases h_name

-- ============================================================================
-- Names of dependencies
-- ============================================================================

theorem dependencyName_of_ok {g : Graph} {d : String} {ctx : Option String} {r : ResolvedMetric}
    (h : g.resolveMetric d ctx = .ok r) : g.dependencyName d ctx = r.canonical := by
  have h_name : g.canonicalName? d ctx = some r.canonical := by rw [canonicalName?, h]
  unfold dependencyName
  rw [h_name]

theorem dependencyName_of_error_none {g : Graph} {d : String} {e : Error}
    (h : g.resolveMetric d none = .error e) : g.dependencyName d none = d := by
  have h_name : g.canonicalName? d none = none := by rw [canonicalName?, h]
  unfold dependencyName
  rw [h_name]

/-- A dependency that does not resolve in a context model is named after the model, unless it
is qualified already. -/
theorem dependencyName_of_error_some {g : Graph} {d model : String} {e : Error}
    (h : g.resolveMetric d (some model) = .error e) :
    g.dependencyName d (some model) = if containsText d "." then d else model ++ "." ++ d := by
  have h_name : g.canonicalName? d (some model) = none := by rw [canonicalName?, h]
  unfold dependencyName
  rw [h_name]

/-- A trimmed `model.metric` naming a metric of a model resolves to it, in any context. -/
theorem resolveMetric_qualified {g : Graph} {model : Model} {metric : Metric}
    {ctx : Option String} (h_dot : '.' ∉ model.name.toList)
    (h_trim : trimBlank (model.name ++ "." ++ metric.name) = model.name ++ "." ++ metric.name)
    (h_model : g.model? model.name = some model) (h_metric : model.metric? metric.name = some metric) :
    g.resolveMetric (model.name ++ "." ++ metric.name) ctx = .ok ⟨some model, metric⟩ := by
  simp [resolveMetric, h_trim, splitOnce_qualified h_dot, getModel_of_model?, h_model, h_metric,
    bind, Except.bind, pure, Except.pure]

/-- A trimmed bare name of a metric of the context model resolves to it. -/
theorem resolveMetric_in_context {g : Graph} {model : Model} {metric : Metric} {name : String}
    (h_dot : '.' ∉ metric.name.toList) (h_trim : trimBlank metric.name = metric.name)
    (h_model : g.model? name = some model) (h_metric : model.metric? metric.name = some metric) :
    g.resolveMetric metric.name (some name) = .ok ⟨some model, metric⟩ := by
  simp [resolveMetric, h_trim, splitOnce_dot_of_not_mem h_dot, h_model, h_metric, pure,
    Except.pure]

/-- A trimmed bare name of a graph-level metric resolves, without a context. -/
theorem resolveMetric_graph_isOk {g : Graph} {metric : Metric}
    (h_dot : '.' ∉ metric.name.toList) (h_trim : trimBlank metric.name = metric.name)
    (h_metric : g.metric? metric.name = some metric) :
    (g.resolveMetric metric.name none).isOk := by
  simp [resolveMetric, h_trim, splitOnce_dot_of_not_mem h_dot, getMetric, h_metric, bind,
    Except.bind, pure, Except.pure, Except.isOk, Except.toBool]

/-- A trimmed dependency that does not resolve is named apart from every metric the graph holds,
when no model name has a dot and neither has the context. -/
theorem dependencyName_ne_canonical {g : Graph} (h_models : g.DotFreeModels) {d : String}
    {ctx : Option String} (h_ctx : ∀ name ∈ ctx, '.' ∉ name.toList) (h_trim : trimBlank d = d)
    {e : Error} (h_err : g.resolveMetric d ctx = .error e) {r : ResolvedMetric}
    (h_r : g.Registered r) : g.dependencyName d ctx ≠ r.canonical := by
  intro h_eq
  cases h_r with
  | @model model metric h_model h_metric =>
    have h_dot := h_models _ (model?_some h_model).1
    simp only [ResolvedMetric.canonical] at h_eq
    -- either the dependency is `model.metric` itself, or its context is the model
    have h_qualified : d = model.name ++ "." ++ metric.name ∨
        (ctx = some model.name ∧ d = metric.name ∧ '.' ∉ d.toList) := by
      cases ctx with
      | none =>
        rw [dependencyName_of_error_none h_err] at h_eq
        exact .inl h_eq
      | some name =>
        rw [dependencyName_of_error_some h_err] at h_eq
        split at h_eq
        · exact .inl h_eq
        · rename_i h_no_dot
          rw [containsText_dot] at h_no_dot
          obtain ⟨rfl, rfl⟩ := qualified_inj (h_ctx name rfl) h_dot h_eq
          exact .inr ⟨rfl, rfl, h_no_dot⟩
    rcases h_qualified with rfl | ⟨rfl, rfl, h_no_dot⟩
    · rw [resolveMetric_qualified h_dot h_trim h_model h_metric] at h_err
      cases h_err
    · rw [resolveMetric_in_context h_no_dot h_trim h_model h_metric] at h_err
      cases h_err
  | @graph metric h_dot h_metric =>
    simp only [ResolvedMetric.canonical] at h_eq
    cases ctx with
    | none =>
      rw [dependencyName_of_error_none h_err] at h_eq
      subst h_eq
      have h_ok := resolveMetric_graph_isOk h_dot h_trim h_metric
      rw [h_err] at h_ok
      cases h_ok
    | some name =>
      rw [dependencyName_of_error_some h_err] at h_eq
      split at h_eq
      · rename_i h_has_dot
        rw [containsText_dot, h_eq] at h_has_dot
        exact h_dot h_has_dot
      · exact h_dot (h_eq ▸ dot_mem_qualified _ _)

-- ============================================================================
-- How many names there are
-- ============================================================================

/-- The canonical names of the metrics the graph holds: graph-level metrics, then each model's. -/
def metricNames (g : Graph) : List String :=
  g.metrics.map (·.name) ++
    g.models.flatMap fun model => model.metrics.map fun m => model.name ++ "." ++ m.name

theorem foldl_metricCount (models : List Model) (n : Nat) :
    models.foldl (fun n m => n + m.metrics.length) n =
      n + (models.flatMap fun model => model.metrics.map fun m => model.name ++ "." ++ m.name).length := by
  induction models generalizing n with
  | nil => simp
  | cons model models ih =>
    rw [List.foldl_cons, ih, List.flatMap_cons, List.length_append, List.length_map]
    omega

/-- One canonical name per metric. -/
theorem metricNames_length (g : Graph) : g.metricNames.length = g.metricCount := by
  rw [metricNames, metricCount, foldl_metricCount, List.length_append, List.length_map]

theorem Registered.canonical_mem {g : Graph} {r : ResolvedMetric} (h : g.Registered r) :
    r.canonical ∈ g.metricNames := by
  cases h with
  | model h_model h_metric =>
    refine List.mem_append_right _ (List.mem_flatMap.mpr ⟨_, (model?_some h_model).1, ?_⟩)
    exact List.mem_map.mpr ⟨_, (Model.metric?_some h_metric).1, rfl⟩
  | graph _ h_metric =>
    exact List.mem_append_left _ (List.mem_map.mpr ⟨_, (metric?_some h_metric).1, rfl⟩)

end Graph

end MetricLayer
