import Mathlib
import MetricLayer.Proofs.Compile.Explain
/-!
# Pagination

A request may carry a limit and an offset, each an unsigned 64-bit number. A built query has no
page of its own (`QueryContext.buildQuery_unfinished`, `Rollup.rollupQuery_unfinished`), so the query a plan
renders is paged exactly as the request asks (`QueryContext.applyOrdering_page`), and its text
ends with the dialect's pagination clause (`Graph.generate_paged`). T-SQL writes that clause as
`OFFSET … ROWS`, then `FETCH NEXT … ROWS ONLY` for a limit, with offset 0 when none is given, and
puts `ORDER BY (SELECT NULL)` before it in a query with no ordering (`Query.render_paged`).

The clause writes each number as the signed 64-bit number with the same bits
(`Dialect.signedBits`). Read back word by word (`Sql.readPage`), it gives those signed numbers
(`Dialect.readPage_limitOffset`). They are the requested numbers exactly when each is below
`2^63`; a number from `2^63` up is written as itself minus `2^64`
(`pagination_reads_back_iff_fits_signed`). `maxLimit_rendered_negative` is the clause for the
largest limit and the offset `2^63`.
-/

namespace MetricLayer

open Sql

namespace Sql

/-! ## Reading a clause back -/

/-- The words of a text: what stands between its spaces. -/
def words (text : String) : List String :=
  (text.toList.splitOn ' ').map String.ofList

/-- Reads a pagination clause back: the limit and the offset it gives, as integers. -/
def readPage (text : String) : Option (Option Int × Option Int) :=
  match words text with
  | [""] => some (none, none)
  | ["LIMIT", l] => l.toInt?.map fun l => (some l, none)
  | ["OFFSET", o] => o.toInt?.map fun o => (none, some o)
  | ["LIMIT", l, "OFFSET", o] => do return (some (← l.toInt?), some (← o.toInt?))
  | ["OFFSET", o, "ROWS"] => o.toInt?.map fun o => (none, some o)
  | ["OFFSET", o, "ROWS", "FETCH", "NEXT", l, "ROWS", "ONLY"] =>
    do return (some (← l.toInt?), some (← o.toInt?))
  | _ => none

/-- Words joined by single spaces split back into those words. -/
theorem words_of_toList {text : String} (ws : List String)
    (h : text.toList = [' '].intercalate (ws.map String.toList)) (h_ws : ∀ w ∈ ws, ' ' ∉ w.toList)
    (h_ne : ws ≠ []) : words text = ws := by
  rw [words, h, List.splitOn_intercalate ' ' (by simpa using h_ws) (by simpa using h_ne)]
  simp

/-- A decimal numeral has no space. -/
theorem space_not_mem_repr (i : Int) : ' ' ∉ i.repr.toList := by
  have h_digits : ∀ n : Nat, ' ' ∉ Nat.toDigits 10 n := fun n h_mem =>
    absurd (Nat.isDigit_of_mem_toDigits (by decide) (by decide) h_mem) (by decide)
  rw [Int.repr_eq_if]
  split
  · simpa using h_digits _
  · simpa using h_digits _

end Sql

namespace Dialect

/-! ## Signed bits -/

/-- `signedBits` with its powers of two written out, for `omega`. -/
theorem signedBits_eq (n : Nat) :
    signedBits n =
      if n % 18446744073709551616 < 9223372036854775808 then ((n % 18446744073709551616 : Nat) : Int)
      else ((n % 18446744073709551616 : Nat) : Int) - 18446744073709551616 :=
  rfl

/-- A count keeps its value exactly when it is below `2^63`. -/
theorem signedBits_eq_iff (n : Nat) : signedBits n = n ↔ n < Nat.pow 2 63 := by
  rw [signedBits_eq, show Nat.pow 2 63 = 9223372036854775808 from rfl]
  split <;> omega

/-- A 64-bit count from `2^63` up is read as itself minus `2^64`. -/
theorem signedBits_of_le {n : Nat} (h_le : Nat.pow 2 63 ≤ n) (h_lt : n < Nat.pow 2 64) :
    signedBits n = n - Int.pow 2 64 := by
  rw [signedBits_eq, show Int.pow 2 64 = 18446744073709551616 from rfl]
  have h_bounds : 9223372036854775808 ≤ n ∧ n < 18446744073709551616 := ⟨h_le, h_lt⟩
  split <;> omega

/-! ## The clause -/

/-- The offset a dialect's pagination clause shows: T-SQL shows one always, 0 by default. -/
def shownOffset (d : Dialect) (offset : Option Nat) : Option Nat :=
  match d with
  | tsql => some (offset.getD 0)
  | _ => offset

/-- Every dialect but T-SQL writes the standard clause. -/
theorem limitOffset_of_ne_tsql {d : Dialect} (h : d ≠ tsql) (limit offset : Option Nat) :
    d.limitOffset limit offset = duckdb.limitOffset limit offset := by
  cases d with
  | tsql => exact absurd rfl h
  | _ => rfl

/-- The clause reads back as the signed bits of the limit and of the offset it shows. -/
theorem readPage_limitOffset (d : Dialect) (limit offset : Option Nat) :
    readPage (d.limitOffset limit offset) =
      some (limit.map signedBits, (d.shownOffset offset).map signedBits) := by
  by_cases h_d : d = tsql
  · subst h_d
    cases limit with
    | none =>
      rw [limitOffset, readPage, words_of_toList ["OFFSET", toString (signedBits (offset.getD 0)), "ROWS"]
        (by simp [List.intercalate_cons_cons]) (by simp [space_not_mem_repr]) (by simp)]
      simp [shownOffset]
    | some l =>
      rw [limitOffset, readPage, words_of_toList ["OFFSET", toString (signedBits (offset.getD 0)), "ROWS",
        "FETCH", "NEXT", toString (signedBits l), "ROWS", "ONLY"]
        (by simp [List.intercalate_cons_cons]) (by simp [space_not_mem_repr]) (by simp)]
      simp [shownOffset]
  · have h_shown : d.shownOffset offset = offset := by
      cases d with
      | tsql => exact absurd rfl h_d
      | _ => rfl
    rw [limitOffset_of_ne_tsql h_d, h_shown]
    cases limit <;> cases offset
    · simp only [limitOffset]
      rw [readPage, words_of_toList [""] (by simp) (by simp) (by simp)]
      simp
    · rename_i o
      simp only [limitOffset]
      rw [readPage, words_of_toList ["OFFSET", toString (signedBits o)]
        (by simp [List.intercalate_cons_cons]) (by simp [space_not_mem_repr]) (by simp)]
      simp
    · rename_i l
      simp only [limitOffset]
      rw [readPage, words_of_toList ["LIMIT", toString (signedBits l)]
        (by simp [List.intercalate_cons_cons]) (by simp [space_not_mem_repr]) (by simp)]
      simp
    · rename_i l o
      simp only [limitOffset]
      rw [readPage, words_of_toList ["LIMIT", toString (signedBits l), "OFFSET", toString (signedBits o)]
        (by simp [List.intercalate_cons_cons]) (by simp [space_not_mem_repr]) (by simp)]
      simp

/-- An optional count keeps its value exactly when it is below `2^63`. -/
theorem map_signedBits_eq_iff (x : Option Nat) :
    x.map signedBits = x.map (fun n => (n : Int)) ↔ ∀ n ∈ x, n < Nat.pow 2 63 := by
  cases x with
  | none => simp
  | some n => simp [signedBits_eq_iff]

/-- T-SQL's default offset, 0, is below every positive bound. -/
theorem forall_mem_shownOffset (d : Dialect) (offset : Option Nat) {bound : Nat} (h : 0 < bound) :
    (∀ n ∈ d.shownOffset offset, n < bound) ↔ ∀ n ∈ offset, n < bound := by
  cases d <;> cases offset <;> simp [shownOffset, h]

end Dialect

namespace Sql

/-! ## The rendered query -/

/-- A paginated query ends with its pagination clause on a line of its own, after
`ORDER BY (SELECT NULL)` when the dialect needs an ordering for it and the query has none. -/
theorem Query.render_paged (d : Dialect) {q : Query} {limit offset : Option Nat}
    (h : q.page = some (limit, offset)) :
    ∃ pre, q.render d = pre ++
      (if d.requiresOrderByForOffset && q.orderBy.isEmpty then "\nORDER BY (SELECT NULL)" else "") ++
        "\n" ++ d.limitOffset limit offset := by
  obtain ⟨ctes, select, distinct, source, joins, filter, groupBy, having, orderBy, page⟩ := q
  subst h
  rw [Query.render.eq_def]
  dsimp only
  rw [← @String.append_assoc _ "\n" (d.limitOffset limit offset)]
  cases h_o : orderBy.isEmpty
  · -- the query's own ordering stands before the clause
    simp only [Bool.not_false, Bool.and_false, if_true, Bool.false_eq_true, if_false,
      String.append_empty]
    exact ⟨_, rfl⟩
  · simp only [Bool.not_true, Option.isSome_some, Bool.and_true, Bool.false_eq_true, if_false]
    exact ⟨_, rfl⟩

end Sql


/-! ## Where the ordering and the page come from -/

/-- A query as the builder leaves it, with no ordering and no page: the clauses that finish a
result come from the request alone. -/
def Sql.Query.Unfinished (q : Query) : Prop := q.orderBy = [] ∧ q.page = none

namespace QueryContext

variable {ctx : QueryContext}

theorem joinedSource_unfinished {base : String} {path : JoinPath} {src : JoinedSource}
    (h : ctx.joinedSource base path = .ok src) : src.query.Unfinished := by
  unfold joinedSource at h
  obtain ⟨q, h_q, h⟩ := Except.bind_eq_ok.mp h
  have h_page : q.Unfinished := by
    refine foldlM_ok_invariant Query.Unfinished ?_ _ _ _ ?_ h_q
    · intro q₁ f q₂ h₁ h_step
      obtain ⟨c, -, h_done⟩ := Except.bind_eq_ok.mp h_step
      cases h_done
      exact h₁
    · -- the joins leave the page alone
      exact foldl_invariant Query.Unfinished (fun _ _ _ h => h) ⟨rfl, rfl⟩
  dsimp only at h
  split at h
  · cases h
    exact h_page
  · obtain ⟨baseModel, -, h⟩ := Except.bind_eq_ok.mp h
    cases h
    exact ⟨rfl, rfl⟩

theorem inlineQuery_unfinished {base : String} {path : JoinPath} {q : Query}
    (h : ctx.inlineQuery base path = .ok q) : q.Unfinished := by
  unfold inlineQuery at h
  obtain ⟨src, h_src, h⟩ := Except.bind_eq_ok.mp h
  dsimp only at h
  refine CompileM.Ensures.runFresh (P := Query.Unfinished) ?_ h
  refine CompileM.Ensures.bind Query.Unfinished
    (CompileM.Ensures.foldlM ?_ _ _ (joinedSource_unfinished h_src)) fun q₁ h₁ => ?_
  · intro q₀ m h₀
    exact CompileM.Ensures.bind _ (CompileM.Ensures.trivial _) fun item _ => CompileM.Ensures.pure h₀
  · refine CompileM.Ensures.foldlM ?_ _ _ ?_
    · intro q₂ f h₂
      refine CompileM.Ensures.bind _ (CompileM.Ensures.trivial _) fun cond _ => CompileM.Ensures.pure ?_
      split
      · exact h₂
      · exact h₂
    · split
      · exact h₁
      · split
        · exact h₁
        · exact h₁

theorem perModelQuery_unfinished {parts : List (String × JoinPath)} {q : Query}
    (h : ctx.perModelQuery parts = .ok q) : q.Unfinished := by
  unfold perModelQuery at h
  obtain ⟨⟨ctes, aggs⟩, -, h⟩ := Except.bind_eq_ok.mp h
  dsimp only at h
  refine CompileM.Ensures.runFresh (P := Query.Unfinished) ?_ h
  refine CompileM.Ensures.bind Query.Unfinished
    (CompileM.Ensures.foldlM ?_ _ _ ?_) fun q₁ h₁ => CompileM.Ensures.foldlM ?_ _ _ h₁
  · intro q₀ m h₀
    exact CompileM.Ensures.bind _ (CompileM.Ensures.trivial _) fun item _ => CompileM.Ensures.pure h₀
  · -- the merged query starts unordered and unpaged, and its joins leave both alone
    exact foldl_invariant (fun (acc : Query × List String) => acc.1.Unfinished) (fun _ _ _ h => h)
      ⟨rfl, rfl⟩
  · intro q₀ f h₀
    exact CompileM.Ensures.bind _ (CompileM.Ensures.trivial _) fun cond _ => CompileM.Ensures.pure h₀

theorem windowQuery_unfinished {grouped q : Query} (h : ctx.windowQuery grouped = .ok q) :
    q.Unfinished := by
  unfold windowQuery at h
  obtain ⟨⟨timeAlias, grain⟩, -, h⟩ := Except.bind_eq_ok.mp h
  dsimp only at h
  refine foldlM_ok_invariant Query.Unfinished ?_ _ _ _ ⟨rfl, rfl⟩ h
  intro q₀ m q₁ h₀ h_m
  split at h_m
  · obtain ⟨e, -, h_m⟩ := Except.bind_eq_ok.mp h_m
    cases h_m
    exact h₀
  · cases h_m
    exact h₀

/-- A built query is neither ordered nor paginated: both come from the request alone. -/
theorem buildQuery_unfinished {q : Query} (h : ctx.buildQuery = .ok q) : q.Unfinished := by
  obtain ⟨shape, ctes, grouped, top, -, -, h_grouped, h_top, rfl⟩ := buildQuery_spec h
  have h_page : grouped.Unfinished := by
    rcases h_grouped with ⟨base, path, -, h_inline⟩ | ⟨parts, -, h_merged⟩
    · exact inlineQuery_unfinished h_inline
    · exact perModelQuery_unfinished h_merged
  show top.Unfinished
  rcases h_top with rfl | h_window
  · exact h_page
  · exact windowQuery_unfinished h_window

/-- Ordering a query that has no page of its own pages it exactly as the request asks. -/
theorem applyOrdering_page (r : QueryRequest) {q : Query} (h : q.page = none) :
    (ctx.applyOrdering r q).page =
      if r.limit.isNone && r.offset.isNone then none else some (r.limit, r.offset) := by
  have h_ordered : ∀ order : List OrderItem,
      (if order.isEmpty then q else { q with orderBy := order }).page = none := by
    intro order
    split
    · exact h
    · exact h
  unfold applyOrdering
  cases h_limit : r.limit <;> cases h_offset : r.offset <;>
    simp only [Query.withLimit, Query.withOffset, h_ordered, Option.bind_some, Option.bind_none,
      Option.isNone_none, Option.isNone_some, Bool.and_true, Bool.and_false, if_true,
      Bool.false_eq_true, if_false]

end QueryContext

theorem Rollup.rollupQuery_unfinished {model : Model} {p : PreAggregation}
    {r : Rollup.RoutingRequest} {table : String} {d : Dialect} {q : Query}
    (h : Rollup.rollupQuery model p r table d = .ok q) : q.Unfinished := by
  obtain ⟨items, groupBy, q', -, rfl, rfl⟩ := Rollup.rollupQuery_shape h
  have h_page : (r.filters.foldl (fun q f => q.addFilter (.raw (Rollup.rollupFilter model p f d)))
      ({ source := some (.rawTable table, none), select := items } : Query)).Unfinished :=
    foldl_invariant Query.Unfinished (fun _ _ _ h => h) ⟨rfl, rfl⟩
  split
  · exact h_page
  · exact h_page

namespace Graph

theorem routeQuery_unfinished {g : Graph} {s : Settings} {ctx : QueryContext} {r : QueryRequest}
    {decision : Rollup.Decision} {q : Query} (h : g.routeQuery s ctx r = .ok (decision, some q)) :
    q.Unfinished := by
  unfold routeQuery at h
  split at h
  · cases h
  · split at h
    · obtain ⟨model, -, h⟩ := Except.bind_eq_ok.mp h
      dsimp only at h
      split at h
      · cases h
      · split at h
        · cases h
        · obtain ⟨q', h_q', h_done⟩ := Except.bind_eq_ok.mp h
          cases h_done
          exact Rollup.rollupQuery_unfinished h_q'
    · cases h

/-- The query a plan renders is an unpaged query, ordered and paged for the request. -/
theorem explain_sql {g : Graph} {s : Settings} {r : QueryRequest} {today : String}
    {plan : QueryPlan} (h : g.explain s r today = .ok plan) :
    ∃ (ctx : QueryContext) (q : Query), q.page = none ∧ plan.sql = (ctx.applyOrdering r q).render (requestDialect s r) := by
  unfold explain at h
  obtain ⟨_, -, h⟩ := Except.bind_eq_ok.mp h
  obtain ⟨ctx, -, h⟩ := Except.bind_eq_ok.mp h
  obtain ⟨⟨decision, rollup⟩, h_route, h⟩ := Except.bind_eq_ok.mp h
  dsimp only at h
  cases rollup with
  | some q =>
    cases h
    exact ⟨ctx, q, (routeQuery_unfinished h_route).2, rfl⟩
  | none =>
    obtain ⟨q, h_q, h_done⟩ := Except.bind_eq_ok.mp h
    cases h_done
    exact ⟨ctx, q, (QueryContext.buildQuery_unfinished h_q).2, rfl⟩

/-- The SQL of a paginated request ends with the pagination clause for its limit and offset. -/
theorem generate_paged {g : Graph} {s : Settings} {r : QueryRequest} {today sql : String}
    (h : g.generate s r today = .ok sql) (h_paged : r.limit.isSome ∨ r.offset.isSome) :
    ∃ pre, sql = pre ++ "\n" ++ (requestDialect s r).limitOffset r.limit r.offset := by
  unfold generate at h
  cases h_plan : g.explain s r today with
  | error e =>
    rw [h_plan] at h
    cases h
  | ok plan =>
    rw [h_plan] at h
    cases h
    obtain ⟨ctx, q, h_q, h_sql⟩ := explain_sql h_plan
    have h_page := ctx.applyOrdering_page r h_q
    have h_asked : (r.limit.isNone && r.offset.isNone) = false := by
      rcases h_paged with h_l | h_o
      · simp [← Option.not_isSome, h_l]
      · simp [← Option.not_isSome, h_o]
    rw [h_asked, if_neg Bool.false_ne_true] at h_page
    obtain ⟨pre, h_render⟩ := Query.render_paged (requestDialect s r) h_page
    exact ⟨_, h_sql.trans h_render⟩

end Graph

/-- For every dialect, limit and offset: the clause reads back as the requested numbers exactly
when each is below `2^63`, and always as their signed bits, which are a number minus `2^64` from
`2^63` up; a query paged with them ends with the clause, after the T-SQL placeholder ordering when
it has none; and the SQL of a request that carries them ends with the clause. -/
theorem pagination_reads_back_iff_fits_signed (d : Dialect) (limit offset : Option Nat) :
    (Sql.readPage (d.limitOffset limit offset) =
          some (limit.map fun n => (n : Int), (d.shownOffset offset).map fun n => (n : Int)) ↔
        (∀ n ∈ limit, n < Nat.pow 2 63) ∧ ∀ n ∈ offset, n < Nat.pow 2 63) ∧
    Sql.readPage (d.limitOffset limit offset) =
      some (limit.map Dialect.signedBits, (d.shownOffset offset).map Dialect.signedBits) ∧
    (∀ n : Nat, Nat.pow 2 63 ≤ n → n < Nat.pow 2 64 → Dialect.signedBits n = n - Int.pow 2 64) ∧
    (∀ q : Query, q.page = some (limit, offset) →
      ∃ pre, q.render d = pre ++
        (if d.requiresOrderByForOffset && q.orderBy.isEmpty then "\nORDER BY (SELECT NULL)" else "") ++
          "\n" ++ d.limitOffset limit offset) ∧
    ∀ (g : Graph) (s : Settings) (r : QueryRequest) (today sql : String),
      Graph.requestDialect s r = d → r.limit = limit → r.offset = offset →
        (limit.isSome ∨ offset.isSome) → g.generate s r today = .ok sql →
          ∃ pre, sql = pre ++ "\n" ++ d.limitOffset limit offset := by
  refine ⟨?_, Dialect.readPage_limitOffset d limit offset,
    fun _ h_le h_lt => Dialect.signedBits_of_le h_le h_lt, fun _ h => Query.render_paged d h, ?_⟩
  · -- the clause reads as the numbers' signed bits, which are the numbers exactly below 2^63
    rw [Dialect.readPage_limitOffset, Option.some.injEq, Prod.mk.injEq, Dialect.map_signedBits_eq_iff,
      Dialect.map_signedBits_eq_iff, Dialect.forall_mem_shownOffset d offset (by decide)]
  · rintro g s r today sql rfl rfl rfl h_paged h
    exact Graph.generate_paged h h_paged

/-- The largest unsigned limit and the first offset past the signed range are written as
negative numbers. -/
theorem maxLimit_rendered_negative :
    Dialect.duckdb.limitOffset (some 18446744073709551615) (some 9223372036854775808) =
      "LIMIT -1 OFFSET -9223372036854775808" := by
  decide

end MetricLayer
