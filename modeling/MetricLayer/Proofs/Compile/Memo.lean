import MetricLayer.Proofs.Compile.MemoRuns
import MetricLayer.Proofs.Graph.CycleSearch
import MetricLayer.Compile.Builder
/-!
# Sharing a metric compiler

A query compiles all of its metrics, and the metrics its filters name, with one compiler, so that
a metric several formulas name is compiled once. The compiler remembers compiled metrics by
canonical name. When no model name has a dot (`Graph.DotFreeModels`) the memory changes no
answer: calls made one after another on one compiler get, call by call, what a fresh compiler
gives (`runShared_eq_fresh`).

A canonical name then stands for one metric of the graph (`Graph.Registered.eq_of_canonical`).
The proof compares runs from two memories, both `MetricCompiler.Valid`: no metric being compiled
is remembered, what a remembered metric reaches is remembered, and a remembered expression is
what a fresh compiler compiles its metric to. A metric remembered on one side only is compiled
afresh on the other. None of the metrics it reaches is being compiled, so by
`MetricCompiler.framed` it compiles there as in a fresh compiler, to the remembered expression.

With a dot in a model name the memory answers for another metric:
`dottedModel_memo_answers_for_other_metric`.
-/

namespace MetricLayer

open MetricLayer.Sql MetricLayer.Graph CompileM Relation

theorem Graph.Needs.registered {g : Graph} {r r' : ResolvedMetric} (h : g.Needs r r') :
    g.Registered r' := by
  obtain ⟨_, _, h_r'⟩ := h
  exact resolveMetric_registered h_r'

theorem Memo.remembers_of_store {σ : Memo} {key name : String} {e : Expr} {A : List String}
    (h : ({ done := (key, e) :: σ.done, active := A } : Memo).Remembers name) :
    name = key ∨ σ.Remembers name := by
  unfold Memo.Remembers at h ⊢
  rw [List.lookup_cons] at h
  split at h
  · exact .inl (beq_iff_eq.mp ‹_›)
  · exact .inr h

namespace MetricCompiler

variable (c : MetricCompiler)

-- ============================================================================
-- Memories the compiler can rely on
-- ============================================================================

/-- A memory the compiler can rely on. -/
structure Valid (σ : Memo) : Prop where
  /-- No metric being compiled is remembered. -/
  apart : ∀ name ∈ σ.active, ¬ σ.Remembers name
  /-- What a remembered metric reaches is remembered. -/
  closed : ∀ r, c.graph.Registered r → σ.Remembers r.canonical →
    ∀ r', ReflTransGen c.graph.Needs r r' → σ.Remembers r'.canonical
  /-- A remembered expression is what a fresh compiler compiles the metric to. -/
  correct : ∀ r e, c.graph.Registered r → σ.done.lookup r.canonical = some e →
    (c.compileMetric r).runFresh = .ok e

/-- Runs from two valid memories while `A` is being compiled. -/
def Agreeing (A : List String) (σ₁ σ₂ : Memo) : Prop :=
  σ₁.active = A ∧ σ₂.active = A ∧ c.Valid σ₁ ∧ c.Valid σ₂

variable {c}

namespace Valid

theorem empty (A : List String) : c.Valid ⟨[], A⟩ where
  apart _ _ h := by simp [Memo.Remembers] at h
  closed _ _ h := by simp [Memo.Remembers] at h
  correct _ _ _ h := by simp at h

/-- Which metrics are being compiled matters to a memory only through `apart`. -/
theorem activate {σ : Memo} (h : c.Valid σ) {A : List String}
    (h_apart : ∀ name ∈ A, ¬ σ.Remembers name) : c.Valid ⟨σ.done, A⟩ where
  apart := h_apart
  closed := h.closed
  correct := h.correct

theorem pop {σ : Memo} (h : c.Valid σ) {name : String} {A : List String}
    (h_active : σ.active = name :: A) : c.Valid ⟨σ.done, A⟩ :=
  h.activate fun n h_n => h.apart n (h_active ▸ List.mem_cons_of_mem _ h_n)

/-- A metric not remembered may be marked active. -/
theorem push {D : List (String × Expr)} {A : List String} (h : c.Valid ⟨D, A⟩) {name : String}
    (h_miss : D.lookup name = none) : c.Valid ⟨D, name :: A⟩ :=
  h.activate fun n h_n => by
    rcases List.mem_cons.mp h_n with rfl | h_n
    · simp [Memo.Remembers, h_miss]
    · exact h.apart n h_n

/-- Once all a metric needs is remembered, all it reaches is itself or remembered. -/
theorem reach_remembered {σ : Memo} (h : c.Valid σ) {r : ResolvedMetric}
    (h_needs : ∀ r', c.graph.Needs r r' → σ.Remembers r'.canonical) :
    ∀ r', ReflTransGen c.graph.Needs r r' → r' = r ∨ σ.Remembers r'.canonical := by
  intro r' h_reach
  rcases h_reach.cases_head with h_eq | ⟨r₁, h_r₁, h_rest⟩
  · exact .inl h_eq.symm
  · exact .inr (h.closed r₁ h_r₁.registered (h_needs r₁ h_r₁) r' h_rest)

/-- Remembering a metric just compiled, once it is no longer being compiled, keeps the memory
valid when the expression is what a fresh compiler gives. -/
theorem store (h_models : c.graph.DotFreeModels) {σ : Memo} (h : c.Valid σ) {r : ResolvedMetric}
    {A : List String} {e : Expr} (h_reg : c.graph.Registered r)
    (h_active : σ.active = r.canonical :: A) (h_new : r.canonical ∉ A)
    (h_needs : ∀ r', c.graph.Needs r r' → σ.Remembers r'.canonical)
    (h_fresh : (c.compileMetric r).runFresh = .ok e) :
    c.Valid ⟨(r.canonical, e) :: σ.done, A⟩ where
  apart name h_name h_rem := by
    rcases Memo.remembers_of_store h_rem with rfl | h_rem
    · exact h_new h_name
    · exact h.apart name (h_active ▸ List.mem_cons_of_mem _ h_name) h_rem
  closed r₀ h_reg₀ h_rem₀ r' h_reach := by
    rcases Memo.remembers_of_store h_rem₀ with h_eq | h_rem₀
    · -- `r₀` is the metric just remembered: its canonical name stands for it alone
      cases Registered.eq_of_canonical h_models h_reg₀ h_reg h_eq
      rcases h.reach_remembered h_needs r' h_reach with rfl | h_rem
      · exact Memo.remembers_store_self _ _ _ _
      · exact h_rem.store _ _ _
    · exact (h.closed r₀ h_reg₀ h_rem₀ r' h_reach).store _ _ _
  correct r₀ e₀ h_reg₀ h_look := by
    rw [List.lookup_cons] at h_look
    split at h_look
    · cases Registered.eq_of_canonical h_models h_reg₀ h_reg (beq_iff_eq.mp ‹_›)
      cases h_look
      exact h_fresh
    · exact h.correct r₀ e₀ h_reg₀ h_look

end Valid

-- ============================================================================
-- Compiling afresh
-- ============================================================================

/-- From an empty memory, while none of the metrics it reaches is being compiled, a metric
compiles as in a fresh compiler. -/
theorem runFresh_eq_of_empty {n : Nat} {r : ResolvedMetric} {A : List String}
    (h_reg : c.graph.Registered r) (h_budget : c.graph.Budget A 1 n)
    (h_apart : ∀ r', ReflTransGen c.graph.Needs r r' → r'.canonical ∉ A) :
    (c.compileMetric r).runFresh = ((c.compileResolved n r).run.run ⟨[], A⟩).1 := by
  have h_agree : c.graph.ActiveAgree r [] A := fun r' h_r' => by simp [h_apart r' h_r']
  have h_depth : c.graph.Budget [] 1 c.depth := Budget.nil (by unfold depth; omega)
  exact ((c.framed c.depth).compileResolved n r [] A h_reg h_depth h_budget h_agree
    ⟨[], []⟩ ⟨[], A⟩ ⟨rfl, rfl, rfl⟩).1

/-- A metric neither remembered nor being compiled has the outcome of compiling it afresh, marked
active. -/
theorem outcome_compileResolved_of_new {n : Nat} {r : ResolvedMetric} {D : List (String × Expr)}
    {A : List String} (h_miss : D.lookup r.canonical = none) (h_new : r.canonical ∉ A) :
    ((c.compileResolved (n + 1) r).run.run ⟨D, A⟩).1 =
      ((c.compileFresh n r).run.run ⟨D, r.canonical :: A⟩).1 := by
  rw [run_compileResolved_succ]
  dsimp only
  rw [h_miss]
  dsimp only
  rw [if_neg h_new]
  generalize (c.compileFresh n r).run.run ⟨D, r.canonical :: A⟩ = inner
  rcases inner with ⟨_ | e, τ⟩ <;> rfl

/-- Compiled afresh from a valid memory while marked active, a metric has the outcome it has from
an empty memory, and both runs leave valid memories. -/
theorem compileFresh_as_empty {n : Nat} {r : ResolvedMetric} {A : List String}
    {D : List (String × Expr)}
    (h_sim : Sim (c.Agreeing (r.canonical :: A)) (c.compileFresh n r) (c.compileFresh n r))
    (h_valid : c.Valid ⟨D, r.canonical :: A⟩) (h_new : r.canonical ∉ A) :
    ((c.compileFresh n r).run.run ⟨D, r.canonical :: A⟩).1 =
        ((c.compileResolved (n + 1) r).run.run ⟨[], A⟩).1 ∧
      c.Agreeing (r.canonical :: A) ((c.compileFresh n r).run.run ⟨D, r.canonical :: A⟩).2
        ((c.compileFresh n r).run.run ⟨[], r.canonical :: A⟩).2 := by
  obtain ⟨h_out, h_agree⟩ := h_sim _ _ ⟨rfl, rfl, h_valid, Valid.empty _⟩
  exact ⟨by rw [h_out, outcome_compileResolved_of_new rfl h_new], h_agree⟩

-- ============================================================================
-- The memory step
-- ============================================================================

/-- A metric remembered in one valid memory and not in another compiles, from the other, to the
remembered expression, and leaves that memory valid. -/
theorem run_of_remembered_elsewhere (h_models : c.graph.DotFreeModels) {n : Nat}
    {r : ResolvedMetric} {A : List String} (h_reg : c.graph.Registered r)
    (h_budget : c.graph.Budget A 1 (n + 1))
    (h_sim : r.canonical ∉ A →
      Sim (c.Agreeing (r.canonical :: A)) (c.compileFresh n r) (c.compileFresh n r))
    {D₁ D₂ : List (String × Expr)} {e : Expr} (h_v₁ : c.Valid ⟨D₁, A⟩) (h_v₂ : c.Valid ⟨D₂, A⟩)
    (h_hit : D₁.lookup r.canonical = some e) (h_miss : D₂.lookup r.canonical = none) :
    ((c.compileResolved (n + 1) r).run.run ⟨D₂, A⟩).1 = .ok e ∧
      ((c.compileResolved (n + 1) r).run.run ⟨D₂, A⟩).2.active = A ∧
      c.Valid ((c.compileResolved (n + 1) r).run.run ⟨D₂, A⟩).2 := by
  have h_rem₁ : Memo.Remembers ⟨D₁, A⟩ r.canonical := by simp [Memo.Remembers, h_hit]
  have h_new : r.canonical ∉ A := fun h_in => h_v₁.apart _ h_in h_rem₁
  -- all `r` reaches is remembered on the first side, so none of it is being compiled
  have h_apart : ∀ r', ReflTransGen c.graph.Needs r r' → r'.canonical ∉ A :=
    fun r' h_reach h_in => h_v₁.apart _ h_in (h_v₁.closed r h_reg h_rem₁ r' h_reach)
  have h_fresh : (c.compileMetric r).runFresh = .ok e := h_v₁.correct r e h_reg h_hit
  obtain ⟨h_out, h_A, -, h_v, -⟩ := compileFresh_as_empty (h_sim h_new) (h_v₂.push h_miss) h_new
  rw [← runFresh_eq_of_empty h_reg h_budget h_apart, h_fresh] at h_out
  rw [run_compileResolved_succ]
  dsimp only
  rw [h_miss]
  dsimp only
  rw [if_neg h_new]
  generalize h_inner : (c.compileFresh n r).run.run ⟨D₂, r.canonical :: A⟩ = inner at h_out h_A h_v
  rcases inner with ⟨x, E, B⟩
  dsimp only at h_out h_A h_v ⊢
  subst h_out h_A
  refine ⟨rfl, by simp, ?_⟩
  rw [List.erase_cons_head]
  exact h_v.store h_models h_reg rfl h_new (c.compileFresh_remembers h_inner) h_fresh

/-- A metric that neither of two valid memories remembers, and that is not being compiled, is
compiled afresh from both to one outcome, and both memories stay valid: an expression is then
remembered on both sides, and it is what a fresh compiler gives. -/
theorem run_of_forgotten (h_models : c.graph.DotFreeModels) {n : Nat}
    {r : ResolvedMetric} {A : List String} (h_reg : c.graph.Registered r)
    (h_budget : c.graph.Budget A 1 (n + 1)) (h_in : r.canonical ∉ A)
    (h_sim : Sim (c.Agreeing (r.canonical :: A)) (c.compileFresh n r) (c.compileFresh n r))
    {D₁ D₂ : List (String × Expr)} (h_v₁ : c.Valid ⟨D₁, A⟩) (h_v₂ : c.Valid ⟨D₂, A⟩)
    (h₁ : D₁.lookup r.canonical = none) (h₂ : D₂.lookup r.canonical = none) :
    ((c.compileResolved (n + 1) r).run.run ⟨D₁, A⟩).1 =
        ((c.compileResolved (n + 1) r).run.run ⟨D₂, A⟩).1 ∧
      c.Agreeing A ((c.compileResolved (n + 1) r).run.run ⟨D₁, A⟩).2
        ((c.compileResolved (n + 1) r).run.run ⟨D₂, A⟩).2 := by
  rw [run_compileResolved_succ, run_compileResolved_succ]
  dsimp only
  rw [h₁, h₂]
  dsimp only
  rw [if_neg h_in, if_neg h_in]
  have h_empty := (compileFresh_as_empty h_sim (h_v₁.push h₁) h_in).1
  obtain ⟨h_out, h_A₁, h_A₂, h_vτ₁, h_vτ₂⟩ :=
    h_sim ⟨D₁, r.canonical :: A⟩ ⟨D₂, r.canonical :: A⟩ ⟨rfl, rfl, h_v₁.push h₁, h_v₂.push h₂⟩
  generalize h_i₁ : (c.compileFresh n r).run.run ⟨D₁, r.canonical :: A⟩ = inner₁
    at h_out h_A₁ h_vτ₁ h_empty
  generalize h_i₂ : (c.compileFresh n r).run.run ⟨D₂, r.canonical :: A⟩ = inner₂
    at h_out h_A₂ h_vτ₂
  rcases inner₁ with ⟨x, E₁, B₁⟩
  rcases inner₂ with ⟨y, E₂, B₂⟩
  dsimp only at h_out h_A₁ h_A₂ h_vτ₁ h_vτ₂ h_empty ⊢
  subst h_out h_A₁ h_A₂
  simp only [List.erase_cons_head]
  cases x with
  | error err => exact ⟨rfl, rfl, rfl, h_vτ₁.pop rfl, h_vτ₂.pop rfl⟩
  | ok e =>
    -- the expression is what a fresh compiler gives: nothing `r` reaches is active
    have h_needs₁ := c.compileFresh_remembers h_i₁
    have h_apart : ∀ r', ReflTransGen c.graph.Needs r r' → r'.canonical ∉ A := by
      intro r' h_reach h_in'
      rcases h_vτ₁.reach_remembered h_needs₁ r' h_reach with rfl | h_rem
      · exact h_in h_in'
      · exact h_vτ₁.apart _ (List.mem_cons_of_mem _ h_in') h_rem
    have h_fresh : (c.compileMetric r).runFresh = .ok e := by
      rw [runFresh_eq_of_empty h_reg h_budget h_apart, ← h_empty]
    exact ⟨rfl, rfl, rfl,
      h_vτ₁.store h_models h_reg rfl h_in h_needs₁ h_fresh,
      h_vτ₂.store h_models h_reg rfl h_in (c.compileFresh_remembers h_i₂) h_fresh⟩

/-- The memory step agrees on valid memories, given that compiling afresh does one level down. -/
theorem sim_compileResolved_succ (h_models : c.graph.DotFreeModels) {n : Nat}
    {r : ResolvedMetric} {A : List String} (h_reg : c.graph.Registered r)
    (h_budget : c.graph.Budget A 1 (n + 1))
    (h_sim : r.canonical ∉ A →
      Sim (c.Agreeing (r.canonical :: A)) (c.compileFresh n r) (c.compileFresh n r)) :
    Sim (c.Agreeing A) (c.compileResolved (n + 1) r) (c.compileResolved (n + 1) r) := by
  rintro ⟨D₁, A₁⟩ ⟨D₂, A₂⟩ ⟨h_A₁, h_A₂, h_v₁, h_v₂⟩
  dsimp only at h_A₁ h_A₂
  subst A₁ A₂
  cases h₁ : D₁.lookup r.canonical with
  | some e₁ =>
    cases h₂ : D₂.lookup r.canonical with
    | some e₂ =>
      -- both remember `r`, and both remember what a fresh compiler gives
      have h_eq := (h_v₁.correct r e₁ h_reg h₁).symm.trans (h_v₂.correct r e₂ h_reg h₂)
      cases h_eq
      rw [run_compileResolved_succ, run_compileResolved_succ]
      dsimp only
      rw [h₁, h₂]
      exact ⟨rfl, rfl, rfl, h_v₁, h_v₂⟩
    | none =>
      obtain ⟨h_out, h_A, h_v⟩ :=
        run_of_remembered_elsewhere h_models h_reg h_budget h_sim h_v₁ h_v₂ h₁ h₂
      rw [h_out, run_compileResolved_succ]
      dsimp only
      rw [h₁]
      exact ⟨rfl, rfl, h_A, h_v₁, h_v⟩
  | none =>
    cases h₂ : D₂.lookup r.canonical with
    | some e₂ =>
      obtain ⟨h_out, h_A, h_v⟩ :=
        run_of_remembered_elsewhere h_models h_reg h_budget h_sim h_v₂ h_v₁ h₂ h₁
      rw [h_out, c.run_compileResolved_succ n r ⟨D₂, A⟩]
      dsimp only
      rw [h₂]
      exact ⟨rfl, h_A, rfl, h_v, h_v₂⟩
    | none =>
      by_cases h_in : r.canonical ∈ A
      · -- being compiled: both sides stop at the same cycle
        rw [run_compileResolved_succ, run_compileResolved_succ]
        dsimp only
        rw [h₁, h₂]
        dsimp only
        rw [if_pos h_in, if_pos h_in]
        exact ⟨rfl, rfl, rfl, h_v₁, h_v₂⟩
      · exact run_of_forgotten h_models h_reg h_budget h_in (h_sim h_in) h_v₁ h_v₂ h₁ h₂

-- ============================================================================
-- Every call
-- ============================================================================

variable (c)

/-- At fuel `n`, enough for the metrics being compiled, a call has the same outcome from any two
valid memories and leaves both valid. -/
structure MemoTransparent (n : Nat) : Prop where
  compile : ∀ ref ctx A, c.graph.Budget A 2 n →
    Sim (c.Agreeing A) (c.compile n ref ctx) (c.compile n ref ctx)
  compileResolved : ∀ r A, c.graph.Registered r → c.graph.Budget A 1 n →
    Sim (c.Agreeing A) (c.compileResolved n r) (c.compileResolved n r)
  compileFresh : ∀ r A, c.graph.Budget A 4 n →
    Sim (c.Agreeing A) (c.compileFresh n r) (c.compileFresh n r)
  formula : ∀ m ctx A, c.graph.Budget A 3 n →
    Sim (c.Agreeing A) (c.formula n m ctx) (c.formula n m ctx)

variable {c}

theorem memoTransparent (h_models : c.graph.DotFreeModels) : ∀ n, c.MemoTransparent n
  | 0 => {
      compile := fun _ _ _ h => absurd h.pos (Nat.lt_irrefl 0)
      compileResolved := fun _ _ _ h => absurd h.pos (Nat.lt_irrefl 0)
      compileFresh := fun _ _ h => absurd h.pos (Nat.lt_irrefl 0)
      formula := fun _ _ _ h => absurd h.pos (Nat.lt_irrefl 0) }
  | n + 1 => by
    have ih := memoTransparent h_models n
    refine ⟨fun ref ctx A h => ?_, fun r A h_reg h => ?_, fun r A h => ?_, fun m ctx A h => ?_⟩
    · rw [compile]
      exact Sim.ofExcept_bind fun r h_r =>
        ih.compileResolved r A (resolveMetric_registered h_r) h.pred
    · exact sim_compileResolved_succ h_models h_reg h fun h_new =>
        ih.compileFresh r _ (h.push h_new h_reg.canonical_mem)
    · exact c.sim_compileFresh_succ (fun ref _ => ih.compile ref _ A (h.pred.weaken (by omega)))
        (ih.formula _ _ A h.pred)
    · exact c.sim_formula_succ fun d _ => ih.compile d ctx A h.pred

/-- The input of a window metric agrees on valid memories with nothing being compiled. -/
theorem sim_windowInput (h_models : c.graph.DotFreeModels) {r : ResolvedMetric}
    (h_reg : c.graph.Registered r) : Sim (c.Agreeing []) (c.windowInput r) (c.windowInput r) := by
  have h_ref : ∀ ref ctx, Sim (c.Agreeing []) (c.compileRef ref ctx) (c.compileRef ref ctx) :=
    fun ref ctx => (memoTransparent h_models c.depth).compile ref ctx []
      (Budget.nil (by unfold depth; omega))
  have h_metric : Sim (c.Agreeing []) (c.compileMetric r) (c.compileMetric r) :=
    (memoTransparent h_models c.depth).compileResolved r [] h_reg
      (Budget.nil (by unfold depth; omega))
  unfold windowInput
  dsimp only
  rcases r.metric.kind <;> simp only
  case timeComparison =>
    cases r.metric.comparison <;> simp only
    · exact Sim.throw _
    · exact h_ref _ _
  case cumulative =>
    cases c.graph.dependencies r.metric r.modelName <;> simp only
    · cases r.model <;> simp only
      · exact Sim.throw _
      · exact Sim.ofExcept _
    · exact h_ref _ _
  all_goals exact h_metric

end MetricCompiler

-- ============================================================================
-- Calls on one compiler
-- ============================================================================

/-- A call a query makes on its metric compiler: compile a reference seen from a model, compile a
resolved metric, or compile the input of a window metric. -/
inductive CompileCall where
  | reference (reference : String) (context : Option String)
  | resolved (r : ResolvedMetric)
  | window (r : ResolvedMetric)

namespace CompileCall

/-- What the call runs. -/
def run (c : MetricCompiler) : CompileCall → CompileM Expr
  | .reference ref ctx => c.compileRef ref ctx
  | .resolved r => c.compileMetric r
  | .window r => c.windowInput r

/-- The resolved metric a call names is one the graph holds, as resolution gives it. -/
def Registered (g : Graph) : CompileCall → Prop
  | .reference _ _ => True
  | .resolved r => g.Registered r
  | .window r => g.Registered r

end CompileCall

/-- The outcomes of calls made one after another on one compiler, which keeps its memory from
each call to the next. -/
def MetricCompiler.runShared (c : MetricCompiler) : List CompileCall → Memo → List (Except Error Expr)
  | [], _ => []
  | call :: calls, σ =>
    ((call.run c).run.run σ).1 :: c.runShared calls ((call.run c).run.run σ).2

namespace MetricCompiler

variable {c : MetricCompiler}

theorem sim_call (h_models : c.graph.DotFreeModels) {call : CompileCall}
    (h_call : call.Registered c.graph) : Sim (c.Agreeing []) (call.run c) (call.run c) := by
  have h_budget : ∀ {k}, k ≤ 8 → c.graph.Budget [] k c.depth :=
    fun h_k => Budget.nil (by unfold depth; omega)
  cases call with
  | reference ref ctx => exact (memoTransparent h_models c.depth).compile ref ctx [] (h_budget (by omega))
  | resolved r => exact (memoTransparent h_models c.depth).compileResolved r [] h_call (h_budget (by omega))
  | window r => exact sim_windowInput h_models h_call

/-- From a valid memory with nothing being compiled, each call of a sequence on one compiler gets
what a fresh compiler gives it. -/
theorem runShared_of_valid (h_models : c.graph.DotFreeModels) :
    ∀ {calls : List CompileCall} {σ : Memo}, (∀ call ∈ calls, call.Registered c.graph) →
      σ.active = [] → c.Valid σ → c.runShared calls σ = calls.map fun call => (call.run c).runFresh
  | [], _, _, _, _ => rfl
  | call :: calls, σ, h_calls, h_active, h_valid => by
    obtain ⟨h_out, h_active', -, h_valid', -⟩ :=
      sim_call h_models (h_calls call List.mem_cons_self) σ ⟨[], []⟩
        ⟨h_active, rfl, h_valid, Valid.empty []⟩
    rw [runShared, List.map_cons, runShared_of_valid h_models
      (fun call' h_call' => h_calls call' (List.mem_cons_of_mem call h_call')) h_active' h_valid']
    exact congrArg (· :: _) h_out

end MetricCompiler

/-- A compiler shared by a sequence of calls answers each call as a fresh compiler does, when no
model name has a dot and the resolved metrics passed in are ones the graph holds. -/
theorem runShared_eq_fresh {c : MetricCompiler} (h_models : c.graph.DotFreeModels)
    {calls : List CompileCall} (h_calls : ∀ call ∈ calls, call.Registered c.graph) :
    c.runShared calls {} = calls.map fun call => (call.run c).runFresh :=
  MetricCompiler.runShared_of_valid h_models h_calls rfl (MetricCompiler.Valid.empty [])

/-- Orders with a revenue sum. -/
def revenueOrders : Model :=
  { name := "orders", table := some "orders", primaryKey := "order_id",
    metrics := [{ name := "revenue", agg := some .sum, sql := some "amount" }] }

/-- Revenue counted twice: a graph-level metric naming `orders.revenue` twice. -/
def doubleRevenue : Metric :=
  { name := "double_revenue", kind := .derived, sql := some "orders.revenue + orders.revenue" }

def revenueCompiler : MetricCompiler :=
  ⟨{ models := [revenueOrders], metrics := [doubleRevenue] }, .duckdb, .grouped [("orders", "orders_cte")]⟩

/-- Revenue, then the metric that names it twice, then revenue again as a resolved metric. -/
def revenueCalls : List CompileCall :=
  [.reference "orders.revenue" none, .reference "double_revenue" none,
    .resolved ⟨some revenueOrders, { name := "revenue", agg := some .sum, sql := some "amount" }⟩]

/-- Calls that share the revenue metric get what fresh compilers give them. -/
theorem doubleRevenue_shared_as_fresh :
    revenueCompiler.graph.DotFreeModels ∧
      (∀ call ∈ revenueCalls, call.Registered revenueCompiler.graph) ∧
      revenueCompiler.runShared revenueCalls {} =
        revenueCalls.map fun call => (call.run revenueCompiler).runFresh := by
  have h_models : revenueCompiler.graph.DotFreeModels := by decide
  have h_calls : ∀ call ∈ revenueCalls, call.Registered revenueCompiler.graph := by
    intro call h_call
    simp only [revenueCalls, List.mem_cons, List.not_mem_nil, or_false] at h_call
    rcases h_call with rfl | rfl | rfl
    · trivial
    · trivial
    · exact .model rfl rfl
  exact ⟨h_models, h_calls, runShared_eq_fresh h_models h_calls⟩

/-- Model `a` with a sum `b.x`, whose canonical name `a.b.x` is also that of `x` in model `a.b`. -/
def priceA : Model :=
  { name := "a", table := some "a", primaryKey := "id",
    metrics := [{ name := "b.x", agg := some .sum, sql := some "price" }] }

def dottedSums : MetricCompiler :=
  ⟨{ models := [nestedAb, priceA] }, .duckdb, .grouped [("a", "a_rel"), ("a.b", "ab_rel")]⟩

/-- `a.b.x`, then `x`, both seen from model `a.b`. -/
def dottedCalls : List CompileCall := [.reference "a.b.x" (some "a.b"), .reference "x" (some "a.b")]

/-- With a dot in a model name, `a.b.x` resolves to `b.x` of model `a`, and `x` seen from `a.b`
to `x` of model `a.b`; both have the canonical name `a.b.x`. A shared compiler answers the second
with the first's expression, where a fresh one reads model `a.b`. -/
theorem dottedModel_memo_answers_for_other_metric :
    (dottedSums.runShared dottedCalls {}).map (fun o => o.toOption.map (·.render .duckdb)) =
        [some "SUM(\"a_rel\".\"b.x_raw\")", some "SUM(\"a_rel\".\"b.x_raw\")"] ∧
      dottedCalls.map (fun call => (call.run dottedSums).runFresh.toOption.map (·.render .duckdb)) =
        [some "SUM(\"a_rel\".\"b.x_raw\")", some "SUM(\"ab_rel\".\"x_raw\")"] := by
  decide +kernel

end MetricLayer
