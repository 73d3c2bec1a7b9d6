import MetricLayer.Sql.Query
/-!
# Where the columns of a query come from

The *lineage* of a query gives, for each item of its select list, the relations that compute
its value and the expressions they compute it with. A column reference `r.c` is followed into
`r` when the query can see a relation of that name: a common table expression defined before
it, or the subquery it reads, under its alias. `COALESCE(a, b, …)` is followed into each of
its arguments, since its value is one of theirs. Any other expression computes its value where
it stands and is its own origin.

Two things are not followed. A relation the query cannot see (a table) leaves `r.c` its own
origin; a column that a visible relation does not have has no origin at all. Output names are
compared as written, so of two columns with one name, a reader finds the first.
-/

namespace MetricLayer.Sql

/-- Where a value is computed: the relation, and the expression it is computed with there. -/
structure Origin where
  relation : String
  expr : Expr

/-- The lineage of a relation's columns, in order, with their output names. -/
abbrev Columns := List (Option String × List Origin)

/-- The relations a query can see, with the lineage of their columns, the most recently
    defined first. -/
abbrev Catalog := List (String × Columns)

mutual
/-- The origins of an expression evaluated in the relation `here`. -/
def Expr.origins (cat : Catalog) (here : String) : Expr → List Origin
  | .column (some r) c =>
    match cat.lookup r with
    | some cols => (cols.lookup (some c)).getD []
    | none => [⟨here, .column (some r) c⟩]
  | .call "COALESCE" args false => Expr.originsAll cat here args
  | e => [⟨here, e⟩]

/-- The origins of the arguments of a `COALESCE`. -/
def Expr.originsAll (cat : Catalog) (here : String) : List Expr → List Origin
  | [] => []
  | e :: es => e.origins cat here ++ Expr.originsAll cat here es
end

mutual
/-- The lineage of a query's select list, the query being the relation `here`. -/
def Query.lineage (cat : Catalog) (here : String) : Query → Columns
  | ⟨ctes, select, _, source, _, _, _, _, _, _⟩ =>
    let cat := ctesCatalog cat ctes
    let cat := sourceCatalog cat source
    select.map fun s => (s.asName, s.expr.origins cat here)

/-- The catalog after a list of common table expressions, each seeing those before it. -/
def ctesCatalog (cat : Catalog) : List (String × Query) → Catalog
  | [] => cat
  | (n, q) :: rest => ctesCatalog ((n, q.lineage cat n) :: cat) rest

/-- The catalog of a query that reads a relation: a subquery is seen under its alias. -/
def sourceCatalog (cat : Catalog) : Option (Source × Option String) → Catalog
  | some (.subquery q, some a) => (a, q.lineage cat a) :: cat
  | _ => cat
end

/-- The catalog a query's select list is read in. -/
def Query.fromCatalog (cat : Catalog) (q : Query) : Catalog :=
  sourceCatalog (ctesCatalog cat q.ctes) q.source

/-- Whether a select item has the output name `c`. -/
def SelectItem.named (c : String) (s : SelectItem) : Bool := s.asName == some c

/-- A value read from one origin only (through `COALESCE`, maybe more than once). -/
def ReadsFrom (os : List Origin) (o : Origin) : Prop := os ≠ [] ∧ ∀ x ∈ os, x = o

theorem ReadsFrom.singleton (o : Origin) : ReadsFrom [o] o := ⟨by simp, by simp⟩

/-- Origins gathered over a nonempty list, each read from `o`, are read from `o`. -/
theorem ReadsFrom.flatMap {α : Type} {xs : List α} {f : α → List Origin} {o : Origin} (h_ne : xs ≠ [])
    (h_each : ∀ x ∈ xs, ReadsFrom (f x) o) : ReadsFrom (xs.flatMap f) o := by
  obtain ⟨x, h_x⟩ := List.exists_mem_of_ne_nil xs h_ne
  refine ⟨?_, ?_⟩
  · intro h_nil
    exact (h_each x h_x).1 (List.flatMap_eq_nil_iff.mp h_nil x h_x)
  · intro y h_y
    obtain ⟨x', h_x', h_y'⟩ := List.mem_flatMap.mp h_y
    exact (h_each x' h_x').2 y h_y'

/-- Each select list of a query, with the catalog it is read in: the common table expressions,
    each seeing those before it, then the query itself. -/
def cteLevels (cat : Catalog) : List (String × Query) → List (Catalog × Query)
  | [] => []
  | (n, q) :: rest => (q.fromCatalog cat, q) :: cteLevels ((n, q.lineage cat n) :: cat) rest

/-- The select lists of a query and of its common table expressions, with their catalogs. -/
def Query.levels (q : Query) : List (Catalog × Query) := cteLevels [] q.ctes ++ [(q.fromCatalog [], q)]

/-- A query reads the rows of `table` as `rel`: `table` is the relation it reads or one it joins,
    or it reads under the name `rel` a subquery that reads `table`. -/
def Query.ReadsRowsOf (q : Query) (table rel : String) : Prop :=
  (q.source = some (.named table, none) ∧ rel = table) ∨
    (∃ j ∈ q.joins, j.source = .named table ∧ rel = table) ∨
    ∃ inner, q.source = some (.subquery inner, some rel) ∧ inner.source = some (.named table, none)

-- ============================================================================
-- Expressions
-- ============================================================================

@[simp] theorem Expr.origins_raw (cat : Catalog) (here sql : String) :
    (Expr.raw sql).origins cat here = [⟨here, .raw sql⟩] := by
  simp [Expr.origins]

theorem Expr.origins_tableCol_of_lookup {cat : Catalog} {r : String} {cols : Columns}
    (h : cat.lookup r = some cols) (here c : String) :
    (tableCol r c).origins cat here = (cols.lookup (some c)).getD [] := by
  simp [tableCol, Expr.origins, h]

theorem Expr.originsAll_eq_flatMap (cat : Catalog) (here : String) (es : List Expr) :
    Expr.originsAll cat here es = es.flatMap (·.origins cat here) := by
  induction es with
  | nil => simp [Expr.originsAll]
  | cons e es ih => simp [Expr.originsAll, ih]

/-- A column reference reads what its relation has under that name, whatever else is seen. -/
theorem Expr.origins_tableCol_congr {cat cat' : Catalog} {r : String} (h : cat.lookup r = cat'.lookup r)
    (here c : String) : (tableCol r c).origins cat here = (tableCol r c).origins cat' here := by
  simp [tableCol, Expr.origins, h]

/-- A `COALESCE` takes its value from one of its arguments. -/
@[simp] theorem Expr.origins_coalesce (cat : Catalog) (here : String) (args : List Expr) :
    (coalesce args).origins cat here = args.flatMap (·.origins cat here) := by
  simp [coalesce, fn, Expr.origins, Expr.originsAll_eq_flatMap]

-- ============================================================================
-- Queries
-- ============================================================================

theorem Query.lineage_eq (cat : Catalog) (here : String) (q : Query) :
    q.lineage cat here = q.select.map fun s => (s.asName, s.expr.origins (q.fromCatalog cat) here) := by
  cases q
  rfl

/-- Reading a column by name finds the first item with that name. -/
theorem lookup_map_named {β : Type} (xs : List SelectItem) (f : SelectItem → β) (c : String) :
    (xs.map fun s => (s.asName, f s)).lookup (some c) = (xs.find? (SelectItem.named c)).map f := by
  induction xs with
  | nil => rfl
  | cons s ss ih =>
    by_cases h_name : s.asName = some c
    · simp [SelectItem.named, h_name]
    · have h_ne : (some c == s.asName) = false :=
        beq_eq_false_iff_ne.mpr fun h => h_name h.symm
      simp [List.lookup_cons, SelectItem.named, h_name, h_ne, ih]

/-- Reading a column of a query by name finds the first item of its select list with that
    name. -/
theorem Query.lookup_lineage (cat : Catalog) (here c : String) (q : Query) :
    (q.lineage cat here).lookup (some c) =
      (q.select.find? (SelectItem.named c)).map (·.expr.origins (q.fromCatalog cat) here) := by
  rw [Query.lineage_eq, lookup_map_named]

/-- A query whose items are all written out in SQL computes each of them itself, whatever it
    sees. -/
theorem Query.lineage_of_raw {q : Query} (h_raw : ∀ s ∈ q.select, ∃ sql, s.expr = .raw sql)
    (cat : Catalog) (here : String) :
    q.lineage cat here = q.select.map fun s => (s.asName, [⟨here, s.expr⟩]) := by
  rw [Query.lineage_eq]
  apply List.map_congr_left
  intro s h_mem
  obtain ⟨sql, h_sql⟩ := h_raw s h_mem
  simp [h_sql]

-- ============================================================================
-- Conditions leave the select list and the relations read as they are
-- ============================================================================

@[simp] theorem Query.addFilter_select (q : Query) (c : Expr) : (q.addFilter c).select = q.select := rfl
@[simp] theorem Query.addFilter_ctes (q : Query) (c : Expr) : (q.addFilter c).ctes = q.ctes := rfl
@[simp] theorem Query.addFilter_source (q : Query) (c : Expr) : (q.addFilter c).source = q.source := rfl
@[simp] theorem Query.addFilter_joins (q : Query) (c : Expr) : (q.addFilter c).joins = q.joins := rfl

-- ============================================================================
-- Catalogs
-- ============================================================================

@[simp] theorem ctesCatalog_nil (cat : Catalog) : ctesCatalog cat [] = cat := by
  simp [ctesCatalog]

@[simp] theorem ctesCatalog_cons (cat : Catalog) (n : String) (q : Query) (rest : List (String × Query)) :
    ctesCatalog cat ((n, q) :: rest) = ctesCatalog ((n, q.lineage cat n) :: cat) rest := by
  simp [ctesCatalog]

theorem ctesCatalog_append (cat : Catalog) (xs ys : List (String × Query)) :
    ctesCatalog cat (xs ++ ys) = ctesCatalog (ctesCatalog cat xs) ys := by
  induction xs generalizing cat with
  | nil => rfl
  | cons x xs ih => obtain ⟨n, q⟩ := x; simp [ih]

@[simp] theorem sourceCatalog_named (cat : Catalog) (n : String) (a : Option String) :
    sourceCatalog cat (some (.named n, a)) = cat := by
  simp [sourceCatalog]

@[simp] theorem sourceCatalog_subquery (cat : Catalog) (q : Query) (a : String) :
    sourceCatalog cat (some (.subquery q, some a)) = (a, q.lineage cat a) :: cat := by
  simp [sourceCatalog]

/-- Expressions defined under other names leave a relation's lineage as it was. -/
theorem lookup_ctesCatalog_of_not_mem {n : String} (cat : Catalog) (ctes : List (String × Query))
    (h_fresh : ∀ p ∈ ctes, p.1 ≠ n) : (ctesCatalog cat ctes).lookup n = cat.lookup n := by
  induction ctes generalizing cat with
  | nil => rfl
  | cons p ps ih =>
    obtain ⟨m, q⟩ := p
    have h_ne : (n == m) = false := by simpa using (h_fresh (m, q) List.mem_cons_self).symm
    rw [ctesCatalog_cons, ih _ (fun p hp => h_fresh p (List.mem_cons_of_mem _ hp))]
    simp [List.lookup_cons, h_ne]

/-- A relation defined by several expressions, all with the same lineage wherever they stand,
    has that lineage. -/
theorem lookup_ctesCatalog_of_mem {n : String} {cols : Columns} (cat : Catalog)
    (ctes : List (String × Query)) (h_mem : ∃ q, (n, q) ∈ ctes)
    (h_same : ∀ q, (n, q) ∈ ctes → ∀ s, q.lineage s n = cols) :
    (ctesCatalog cat ctes).lookup n = some cols := by
  induction ctes generalizing cat with
  | nil => simp at h_mem
  | cons p ps ih =>
    obtain ⟨m, q⟩ := p
    rw [ctesCatalog_cons]
    by_cases h_later : ∃ q', (n, q') ∈ ps
    · exact ih _ h_later fun q' hq' => h_same q' (List.mem_cons_of_mem _ hq')
    · -- the last expression named `n` is this one
      simp only [not_exists] at h_later
      have h_nm : m = n := by
        obtain ⟨q', hq'⟩ := h_mem
        rcases List.mem_cons.mp hq' with h_eq | h_in
        · exact (Prod.mk.inj h_eq).1.symm
        · exact absurd h_in (h_later q')
      subst h_nm
      have h_fresh : ∀ p ∈ ps, p.1 ≠ m := by
        rintro ⟨m', q'⟩ hp rfl
        exact h_later q' hp
      rw [lookup_ctesCatalog_of_not_mem _ _ h_fresh]
      simp [h_same q List.mem_cons_self cat]

/-- A relation defined by common table expressions has the lineage of the last of them, seen
    where it stands. -/
theorem lookup_ctesCatalog_last {n : String} (cat : Catalog) (ctes : List (String × Query))
    (h_mem : ∃ q, (n, q) ∈ ctes) :
    ∃ pre q post, ctes = pre ++ (n, q) :: post ∧
      (ctesCatalog cat ctes).lookup n = some (q.lineage (ctesCatalog cat pre) n) := by
  induction ctes generalizing cat with
  | nil => simp at h_mem
  | cons p ps ih =>
    obtain ⟨m, q⟩ := p
    by_cases h_later : ∃ q', (n, q') ∈ ps
    · obtain ⟨pre, q', post, h_eq, h_look⟩ := ih ((m, q.lineage cat m) :: cat) h_later
      exact ⟨(m, q) :: pre, q', post, by simp [h_eq], by simpa using h_look⟩
    · -- no expression after this one has the name, so this one is it
      simp only [not_exists] at h_later
      have h_nm : m = n := by
        obtain ⟨q', hq'⟩ := h_mem
        rcases List.mem_cons.mp hq' with h_eq | h_in
        · exact (Prod.mk.inj h_eq).1.symm
        · exact absurd h_in (h_later q')
      subst h_nm
      have h_fresh : ∀ p ∈ ps, p.1 ≠ m := by
        rintro ⟨m', q'⟩ hp rfl
        exact h_later q' hp
      refine ⟨[], q, ps, rfl, ?_⟩
      rw [ctesCatalog_cons, lookup_ctesCatalog_of_not_mem _ _ h_fresh]
      simp

theorem cteLevels_append (cat : Catalog) (xs ys : List (String × Query)) :
    cteLevels cat (xs ++ ys) = cteLevels cat xs ++ cteLevels (ctesCatalog cat xs) ys := by
  induction xs generalizing cat with
  | nil => rfl
  | cons x xs ih =>
    obtain ⟨n, q⟩ := x
    simp [cteLevels, ih]

/-- Each level of a list of common table expressions is one of them, read where it stands. -/
theorem mem_cteLevels {cat : Catalog} {ctes : List (String × Query)} {lv : Catalog × Query}
    (h : lv ∈ cteLevels cat ctes) :
    ∃ pre n post, ctes = pre ++ (n, lv.2) :: post ∧ lv.1 = lv.2.fromCatalog (ctesCatalog cat pre) := by
  induction ctes generalizing cat with
  | nil => simp [cteLevels] at h
  | cons p ps ih =>
    obtain ⟨m, q⟩ := p
    simp only [cteLevels, List.mem_cons] at h
    rcases h with rfl | h_in
    · exact ⟨[], m, ps, rfl, rfl⟩
    · obtain ⟨pre, n, post, h_eq, h_cat⟩ := ih h_in
      exact ⟨(m, q) :: pre, n, post, by simp [h_eq], by simpa using h_cat⟩

end MetricLayer.Sql
