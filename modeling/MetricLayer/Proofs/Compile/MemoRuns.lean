import MetricLayer.Proofs.Graph.CanonicalNames
import MetricLayer.Compile.Metric
import MetricLayer.Proofs.Compile.OutputColumns
/-!
# Runs of the metric compiler

A metric compiler remembers the metrics it has compiled, by canonical name (`Memo.done`), and the
metrics it is compiling (`Memo.active`). This module says how one run of it behaves.

* `run_compileResolved_succ`: the one step that reads and writes the memory, as an equation.
* `CompileM.Sim`: two computations run from related memories have the same outcome and end in
  related memories. It is closed under the monad's operations, so a property of the compiler is
  proved once for the memory step and carried through the rest (`Sim.compileFresh_succ`).
* `Graph.Needs`: the metrics a metric is compiled from, the edges of the dependency graph.
* `keepsMemory`: what the memory remembers, it keeps.
* `framed`: the outcome of a call depends on the metrics being compiled only through those its
  metric reaches, and not on the fuel once there is enough (`Graph.Budget`).
* `compileFresh_remembers`: a compilation that succeeds remembers every metric its metric needs.
-/

namespace MetricLayer

open MetricLayer.Sql MetricLayer.Text Relation

-- ============================================================================
-- Running a compilation step
-- ============================================================================

namespace CompileM

theorem run_get (σ : Memo) : (get : CompileM Memo).run.run σ = (.ok σ, σ) := rfl

theorem run_modify (f : Memo → Memo) (σ : Memo) :
    (modify f : CompileM Unit).run.run σ = (.ok (), f σ) :=
  rfl

theorem run_bind {α β : Type} (m : CompileM α) (f : α → CompileM β) (σ : Memo) :
    (m >>= f).run.run σ =
      match m.run.run σ with
      | (.ok a, σ') => (f a).run.run σ'
      | (.error e, σ') => (.error e, σ') := by
  simp only [ExceptT.run_bind, StateT.run_bind]
  rcases m.run.run σ with ⟨_ | a, σ'⟩ <;> rfl

/-- A failure caught as a value: the outcome becomes the result, and the memory is kept. -/
theorem run_tryCatch {α : Type} (m : CompileM α) (σ : Memo) :
    (tryCatch (Except.ok <$> m) (fun e => pure (Except.error e)) :
      CompileM (Except Error α)).run.run σ = (.ok (m.run.run σ).1, (m.run.run σ).2) := by
  simp only [ExceptT.run_tryCatch, ExceptT.run_map, StateT.run_bind, StateT.run_map]
  rcases m.run.run σ with ⟨_ | a, σ'⟩ <;> rfl

/-- A sequence succeeds when both of its steps do. -/
theorem run_bind_ok {α β : Type} {m : CompileM α} {f : α → CompileM β} {σ σ' : Memo} {b : β}
    (h : (m >>= f).run.run σ = (.ok b, σ')) :
    ∃ a σ₁, m.run.run σ = (.ok a, σ₁) ∧ (f a).run.run σ₁ = (.ok b, σ') := by
  rw [run_bind] at h
  rcases h_m : m.run.run σ with ⟨_ | a, σ₁⟩
  · rw [h_m] at h
    cases h
  · rw [h_m] at h
    exact ⟨a, σ₁, rfl, h⟩

end CompileM

namespace MetricCompiler

open CompileM

variable (c : MetricCompiler)

theorem run_compile_succ (n : Nat) (ref : String) (ctx : Option String) (σ : Memo) :
    (c.compile (n + 1) ref ctx).run.run σ =
      match c.graph.resolveMetric ref ctx with
      | .ok r => (c.compileResolved n r).run.run σ
      | .error e => (.error e, σ) := by
  rw [compile, run_bind]
  cases c.graph.resolveMetric ref ctx <;> rfl

/-- The memory step: a remembered metric is answered from memory; one being compiled is a
cycle; any other is compiled while marked active, and remembered when that succeeds. -/
theorem run_compileResolved_succ (n : Nat) (r : ResolvedMetric) (σ : Memo) :
    (c.compileResolved (n + 1) r).run.run σ =
      match σ.done.lookup r.canonical with
      | some e => (.ok e, σ)
      | none =>
        if r.canonical ∈ σ.active then (.error (.cyclicDependency [r.canonical, r.canonical]), σ)
        else
          let inner := (c.compileFresh n r).run.run { σ with active := r.canonical :: σ.active }
          let σ' := { inner.2 with active := inner.2.active.erase r.canonical }
          match inner.1 with
          | .ok e => (.ok e, { σ' with done := (r.canonical, e) :: σ'.done })
          | .error e => (.error e, σ') := by
  rw [compileResolved]
  simp only [run_bind, run_get]
  cases σ.done.lookup r.canonical with
  | some e => rfl
  | none =>
    simp only [List.contains_iff_mem]
    split
    · rfl
    · simp only [run_bind, run_modify, run_tryCatch]
      rcases (c.compileFresh n r).run.run { σ with active := r.canonical :: σ.active } with
        ⟨_ | e, σ'⟩ <;> rfl

end MetricCompiler

-- ============================================================================
-- Computations that agree
-- ============================================================================

namespace CompileM

/-- Run from memories related by `R`, the two computations have the same outcome and end in
memories related by `R`. -/
def Sim {α : Type} (R : Memo → Memo → Prop) (m₁ m₂ : CompileM α) : Prop :=
  ∀ σ₁ σ₂, R σ₁ σ₂ →
    (m₁.run.run σ₁).1 = (m₂.run.run σ₂).1 ∧ R (m₁.run.run σ₁).2 (m₂.run.run σ₂).2

namespace Sim

variable {R : Memo → Memo → Prop}

protected theorem pure {α : Type} (a : α) : Sim R (pure a) (pure a) :=
  fun _ _ h => ⟨rfl, h⟩

protected theorem throw {α : Type} (e : Error) : Sim R (throw e : CompileM α) (throw e) :=
  fun _ _ h => ⟨rfl, h⟩

protected theorem bind {α β : Type} {m₁ m₂ : CompileM α} {f₁ f₂ : α → CompileM β}
    (h_m : Sim R m₁ m₂) (h_f : ∀ a, Sim R (f₁ a) (f₂ a)) : Sim R (m₁ >>= f₁) (m₂ >>= f₂) := by
  intro σ₁ σ₂ h_R
  obtain ⟨h_out, h_R'⟩ := h_m σ₁ σ₂ h_R
  rw [run_bind, run_bind]
  rcases h₁ : m₁.run.run σ₁ with ⟨x, σ₁'⟩
  rcases h₂ : m₂.run.run σ₂ with ⟨y, σ₂'⟩
  rw [h₁, h₂] at h_out h_R'
  cases h_out
  cases x with
  | ok a => exact h_f a σ₁' σ₂' h_R'
  | error e => exact ⟨rfl, h_R'⟩

/-- A step that first takes a result apart need only agree on the result it finds. -/
theorem ofExcept_bind {α β : Type} {x : Except Error α} {f₁ f₂ : α → CompileM β}
    (h_f : ∀ a, x = .ok a → Sim R (f₁ a) (f₂ a)) :
    Sim R (CompileM.ofExcept x >>= f₁) (CompileM.ofExcept x >>= f₂) := by
  intro σ₁ σ₂ h_R
  rw [run_bind, run_bind]
  cases x with
  | error e => exact ⟨rfl, h_R⟩
  | ok a => exact h_f a rfl σ₁ σ₂ h_R

protected theorem ofExcept {α : Type} (x : Except Error α) :
    Sim R (CompileM.ofExcept x) (CompileM.ofExcept x) := by
  cases x with
  | error e => exact Sim.throw e
  | ok a => exact Sim.pure a

protected theorem mapM {α β : Type} {f₁ f₂ : α → CompileM β} :
    ∀ {xs : List α}, (∀ x ∈ xs, Sim R (f₁ x) (f₂ x)) → Sim R (xs.mapM f₁) (xs.mapM f₂)
  | [], _ => Sim.pure []
  | x :: xs, h => by
    rw [List.mapM_cons, List.mapM_cons]
    exact Sim.bind (h x List.mem_cons_self) fun b =>
      Sim.bind (Sim.mapM fun y h_y => h y (List.mem_cons_of_mem x h_y)) fun bs => Sim.pure _

end Sim

end CompileM

-- ============================================================================
-- The dependency graph, and how much fuel it takes
-- ============================================================================

namespace Graph

variable {g : Graph}

/-- Both operands of a ratio are among its dependencies, trimmed. -/
theorem trimBlank_mem_dependencies_of_ratio {m : Metric} {ctx : Option String} {num den : String}
    (h_kind : m.kind = .ratio) (h_num : m.numerator = some num) (h_den : m.denominator = some den) :
    trimBlank num ∈ g.dependencies m ctx ∧ trimBlank den ∈ g.dependencies m ctx := by
  have h_agg : m.isAggregate = false := by simp [Metric.isAggregate, h_kind]
  unfold dependencies
  simp only [h_agg, h_kind, h_num, h_den]
  constructor <;> exact mem_foldl_insert _ _ (.inr (by simp))

/-- The dependencies of a ratio are its operands, trimmed. -/
theorem mem_dependencies_of_ratio {m : Metric} {ctx : Option String} {num den d : String}
    (h_kind : m.kind = .ratio) (h_num : m.numerator = some num) (h_den : m.denominator = some den)
    (h_d : d ∈ g.dependencies m ctx) : d = trimBlank num ∨ d = trimBlank den := by
  have h_agg : m.isAggregate = false := by simp [Metric.isAggregate, h_kind]
  unfold dependencies at h_d
  simp only [h_agg, h_kind, h_num, h_den] at h_d
  rcases mem_of_mem_foldl_insert _ _ h_d with h | h
  · cases h
  · simpa using h

/-- A reference is resolved trimmed. -/
theorem resolveMetric_trimBlank (ref : String) (ctx : Option String) :
    g.resolveMetric (trimBlank ref) ctx = g.resolveMetric ref ctx := by
  unfold resolveMetric
  simp only [trimBlank_trimBlank]

/-- `r` needs `r'` when `r'` is what one of the names `r` depends on resolves to, seen from
`r`'s model. Compiling a metric compiles what it needs and nothing else. -/
def Needs (g : Graph) (r r' : ResolvedMetric) : Prop :=
  ∃ d ∈ g.dependencies r.metric r.modelName, g.resolveMetric d r.modelName = .ok r'

/-- Two lists of metrics being compiled agree on every metric `r` reaches. -/
def ActiveAgree (g : Graph) (r : ResolvedMetric) (A₁ A₂ : List String) : Prop :=
  ∀ r', ReflTransGen g.Needs r r' → (r'.canonical ∈ A₁ ↔ r'.canonical ∈ A₂)

namespace ActiveAgree

variable {r r' : ResolvedMetric} {A₁ A₂ : List String}

theorem self (h : g.ActiveAgree r A₁ A₂) : r.canonical ∈ A₁ ↔ r.canonical ∈ A₂ :=
  h r .refl

theorem needs (h : g.ActiveAgree r A₁ A₂) (h_needs : g.Needs r r') : g.ActiveAgree r' A₁ A₂ :=
  fun r'' h_reach => h r'' (.head h_needs h_reach)

theorem cons (h : g.ActiveAgree r A₁ A₂) (k : String) : g.ActiveAgree r (k :: A₁) (k :: A₂) :=
  fun r' h_reach => by
    simp only [List.mem_cons]
    exact or_congr Iff.rfl (h r' h_reach)

end ActiveAgree

/-- Four steps of fuel for each metric of the graph that is not being compiled. -/
def fuelFor (g : Graph) (active : List String) : Nat := 4 * (g.metricCount - active.length)

/-- Fuel `n` is enough for a call that takes `extra` steps of its own while `active` is being
compiled: the metrics being compiled are distinct metrics of the graph, and `n` covers four
steps for each other metric and `extra` more. -/
def Budget (g : Graph) (active : List String) (extra n : Nat) : Prop :=
  active.Nodup ∧ active ⊆ g.metricNames ∧ g.fuelFor active + extra ≤ n

namespace Budget

variable {A : List String} {k n : Nat}

theorem pos (h : g.Budget A (k + 1) n) : 0 < n := by
  have := h.2.2
  omega

theorem pred (h : g.Budget A (k + 1) (n + 1)) : g.Budget A k n :=
  ⟨h.1, h.2.1, by have := h.2.2; omega⟩

theorem weaken {j : Nat} (h : g.Budget A k n) (h_le : j ≤ k) : g.Budget A j n :=
  ⟨h.1, h.2.1, by have := h.2.2; omega⟩

/-- Marking a new metric of the graph active costs four steps of fuel. -/
theorem push {name : String} (h : g.Budget A 1 (n + 1)) (h_new : name ∉ A)
    (h_mem : name ∈ g.metricNames) : g.Budget (name :: A) 4 n := by
  obtain ⟨h_nodup, h_sub, h_fuel⟩ := h
  have h_nodup' : (name :: A).Nodup := List.nodup_cons.mpr ⟨h_new, h_nodup⟩
  have h_sub' : name :: A ⊆ g.metricNames := List.cons_subset.mpr ⟨h_mem, h_sub⟩
  have h_len := h_nodup'.length_le_of_subset h_sub'
  rw [metricNames_length, List.length_cons] at h_len
  refine ⟨h_nodup', h_sub', ?_⟩
  unfold fuelFor at h_fuel ⊢
  rw [List.length_cons]
  omega

theorem nil (h : 4 * g.metricCount + k ≤ n) : g.Budget [] k n :=
  ⟨List.nodup_nil, List.nil_subset _, by simpa [fuelFor] using h⟩

end Budget

end Graph

/-- What the memory remembers a compiled expression for. -/
def Memo.Remembers (σ : Memo) (name : String) : Prop := (σ.done.lookup name).isSome

theorem Memo.Remembers.store {σ : Memo} {name : String} (h : σ.Remembers name) (key : String)
    (e : Expr) (active : List String) :
    ({ done := (key, e) :: σ.done, active := active } : Memo).Remembers name := by
  unfold Memo.Remembers at h ⊢
  rw [List.lookup_cons]
  split <;> simp_all

theorem Memo.remembers_store_self (σ : Memo) (key : String) (e : Expr) (active : List String) :
    ({ done := (key, e) :: σ.done, active := active } : Memo).Remembers key := by
  simp [Memo.Remembers]

-- ============================================================================
-- The compiler's body, in any relation
-- ============================================================================

namespace MetricCompiler

open CompileM MetricLayer.Graph

variable (c : MetricCompiler) {R : Memo → Memo → Prop}

/-- A formula agrees when compiling each of its dependencies does. -/
theorem sim_formula_succ {n n' : Nat} {m : Metric} {ctx : Option String}
    (h : ∀ d ∈ c.graph.dependencies m ctx, Sim R (c.compile n d ctx) (c.compile n' d ctx)) :
    Sim R (c.formula (n + 1) m ctx) (c.formula (n' + 1) m ctx) := by
  rw [formula, formula]
  exact Sim.bind (Sim.mapM fun d h_d => Sim.bind (h d h_d) fun _ => Sim.pure _) fun _ => Sim.pure _

/-- Compiling a metric agrees when compiling each reference it needs does, and its formula. -/
theorem sim_compileFresh_succ {n n' : Nat} {r : ResolvedMetric}
    (h_compile : ∀ ref, (∀ r', c.graph.resolveMetric ref r.modelName = .ok r' → c.graph.Needs r r') →
      Sim R (c.compile n ref r.modelName) (c.compile n' ref r.modelName))
    (h_formula : Sim R (c.formula n r.metric r.modelName) (c.formula n' r.metric r.modelName)) :
    Sim R (c.compileFresh (n + 1) r) (c.compileFresh (n' + 1) r) := by
  rw [compileFresh, compileFresh]
  have h_fill : ∀ e, Sim R (pure (r.metric.fillNulls e)) (pure (r.metric.fillNulls e)) :=
    fun e => Sim.pure _
  rcases h_kind : r.metric.kind <;> simp only
  case simple =>
    by_cases h_agg : r.metric.agg.isSome = true
    · rw [if_pos h_agg, if_pos h_agg]
      cases r.model <;> simp only
      · exact Sim.bind (Sim.throw _) h_fill
      · exact Sim.bind (Sim.ofExcept _) h_fill
    · rw [if_neg h_agg, if_neg h_agg]
      exact Sim.bind h_formula h_fill
  case derived => exact Sim.bind h_formula h_fill
  case ratio =>
    rcases h_num : r.metric.numerator with _ | num <;>
      rcases h_den : r.metric.denominator with _ | den <;> simp only
    case some.some =>
      -- both operands resolve as the trimmed names the ratio depends on
      have h_ops : trimBlank num ∈ c.graph.dependencies r.metric r.modelName ∧
          trimBlank den ∈ c.graph.dependencies r.metric r.modelName :=
        trimBlank_mem_dependencies_of_ratio h_kind h_num h_den
      have h_needs : ∀ ref, trimBlank ref ∈ c.graph.dependencies r.metric r.modelName →
          ∀ r', c.graph.resolveMetric ref r.modelName = .ok r' → c.graph.Needs r r' :=
        fun ref h_ref r' h_r' => ⟨_, h_ref, by rwa [resolveMetric_trimBlank]⟩
      exact Sim.bind (h_compile num (h_needs num h_ops.1)) fun _ =>
        Sim.bind (h_compile den (h_needs den h_ops.2)) fun _ => Sim.bind (Sim.pure _) h_fill
    all_goals exact Sim.bind (Sim.throw _) h_fill
  all_goals exact Sim.bind (Sim.throw _) h_fill

-- ============================================================================
-- The memory only grows
-- ============================================================================

/-- Runs from one memory, which remembers `name`. -/
def Remembering (name : String) (σ₁ σ₂ : Memo) : Prop := σ₁ = σ₂ ∧ σ₁.Remembers name

/-- At fuel `n`, no call forgets what the memory remembers. -/
structure KeepsMemory (n : Nat) : Prop where
  compile : ∀ ref ctx name, Sim (Remembering name) (c.compile n ref ctx) (c.compile n ref ctx)
  compileResolved : ∀ r name,
    Sim (Remembering name) (c.compileResolved n r) (c.compileResolved n r)
  compileFresh : ∀ r name, Sim (Remembering name) (c.compileFresh n r) (c.compileFresh n r)
  formula : ∀ m ctx name, Sim (Remembering name) (c.formula n m ctx) (c.formula n m ctx)

theorem keepsMemory : ∀ n, c.KeepsMemory n
  | 0 => {
      compile := fun _ _ _ => by rw [compile]; exact Sim.throw _
      compileResolved := fun _ _ => by rw [compileResolved]; exact Sim.throw _
      compileFresh := fun _ _ => by rw [compileFresh]; exact Sim.throw _
      formula := fun _ _ _ => by rw [formula]; exact Sim.throw _ }
  | n + 1 => by
    have ih := keepsMemory n
    refine ⟨fun ref ctx name => ?_, fun r name => ?_, fun r name => ?_, fun m ctx name => ?_⟩
    · rw [compile]
      exact Sim.ofExcept_bind fun r _ => ih.compileResolved r name
    · -- the memory step only ever adds to what is remembered
      rintro ⟨D, A⟩ _ ⟨rfl, h_name⟩
      rw [run_compileResolved_succ]
      refine ⟨rfl, rfl, ?_⟩
      dsimp only
      split
      · exact h_name
      · split
        · exact h_name
        · have h_inner := ((ih.compileFresh r name) ⟨D, r.canonical :: A⟩ _ ⟨rfl, h_name⟩).2.2
          generalize (c.compileFresh n r).run.run ⟨D, r.canonical :: A⟩ = inner at h_inner ⊢
          rcases inner with ⟨_ | e, τ⟩
          · exact h_inner
          · exact h_inner.store _ _ _
    · exact c.sim_compileFresh_succ (fun ref _ => ih.compile ref _ name) (ih.formula _ _ name)
    · exact c.sim_formula_succ fun d _ => ih.compile d ctx name

theorem Remembers.of_run {α : Type} {m : CompileM α} {name : String} {σ σ' : Memo}
    {x : Except Error α} (h_keeps : Sim (Remembering name) m m) (h_run : m.run.run σ = (x, σ'))
    (h : σ.Remembers name) : σ'.Remembers name := by
  have := (h_keeps σ σ ⟨rfl, h⟩).2.2
  rwa [h_run] at this

-- ============================================================================
-- Only the metrics reached matter, and not the fuel
-- ============================================================================

/-- Runs from memories that remember the same, while `A₁` and `A₂` are being compiled. -/
def Shared (A₁ A₂ : List String) (σ₁ σ₂ : Memo) : Prop :=
  σ₁.done = σ₂.done ∧ σ₁.active = A₁ ∧ σ₂.active = A₂

/-- At fuel `n` against any fuel `n'`, both enough: a call has the same outcome, and remembers
the same, whichever metrics are being compiled, as long as the two lists agree on the metrics
the call reaches. -/
structure Framed (n : Nat) : Prop where
  compile : ∀ n' ref ctx A₁ A₂, c.graph.Budget A₁ 2 n → c.graph.Budget A₂ 2 n' →
    (∀ r, c.graph.resolveMetric ref ctx = .ok r → c.graph.ActiveAgree r A₁ A₂) →
    Sim (Shared A₁ A₂) (c.compile n ref ctx) (c.compile n' ref ctx)
  compileResolved : ∀ n' r A₁ A₂, c.graph.Registered r → c.graph.Budget A₁ 1 n →
    c.graph.Budget A₂ 1 n' → c.graph.ActiveAgree r A₁ A₂ →
    Sim (Shared A₁ A₂) (c.compileResolved n r) (c.compileResolved n' r)
  compileFresh : ∀ n' r A₁ A₂, c.graph.Budget A₁ 4 n → c.graph.Budget A₂ 4 n' →
    (∀ r', c.graph.Needs r r' → c.graph.ActiveAgree r' A₁ A₂) →
    Sim (Shared A₁ A₂) (c.compileFresh n r) (c.compileFresh n' r)
  formula : ∀ n' m ctx A₁ A₂, c.graph.Budget A₁ 3 n → c.graph.Budget A₂ 3 n' →
    (∀ d ∈ c.graph.dependencies m ctx, ∀ r', c.graph.resolveMetric d ctx = .ok r' →
      c.graph.ActiveAgree r' A₁ A₂) →
    Sim (Shared A₁ A₂) (c.formula n m ctx) (c.formula n' m ctx)

theorem framed : ∀ n, c.Framed n
  | 0 => {
      compile := fun _ _ _ _ _ h => absurd h.pos (Nat.lt_irrefl 0)
      compileResolved := fun _ _ _ _ _ h => absurd h.pos (Nat.lt_irrefl 0)
      compileFresh := fun _ _ _ _ h => absurd h.pos (Nat.lt_irrefl 0)
      formula := fun _ _ _ _ _ h => absurd h.pos (Nat.lt_irrefl 0) }
  | n + 1 => by
    have ih := framed n
    refine ⟨fun n' ref ctx A₁ A₂ h₁ h₂ h_agree => ?_, fun n' r A₁ A₂ h_reg h₁ h₂ h_agree => ?_,
      fun n' r A₁ A₂ h₁ h₂ h_needs => ?_, fun n' m ctx A₁ A₂ h₁ h₂ h_deps => ?_⟩
    all_goals obtain ⟨n', rfl⟩ := Nat.exists_eq_add_one.mpr h₂.pos
    · rw [compile, compile]
      exact Sim.ofExcept_bind fun r h_r =>
        ih.compileResolved n' r A₁ A₂ (resolveMetric_registered h_r) h₁.pred h₂.pred (h_agree r h_r)
    · -- the memory step: both memories remember the same, and agree on whether `r` is active
      rintro ⟨D, A₁'⟩ ⟨D', A₂'⟩ ⟨h_D, h_A₁, h_A₂⟩
      dsimp only at h_D h_A₁ h_A₂
      subst D' A₁' A₂'
      rw [run_compileResolved_succ, run_compileResolved_succ]
      dsimp only
      split
      · exact ⟨rfl, rfl, rfl, rfl⟩
      · by_cases h_in : r.canonical ∈ A₁
        · rw [if_pos h_in, if_pos (h_agree.self.mp h_in)]
          exact ⟨rfl, rfl, rfl, rfl⟩
        · have h_in₂ : r.canonical ∉ A₂ := mt h_agree.self.mpr h_in
          rw [if_neg h_in, if_neg h_in₂]
          have h_mem := h_reg.canonical_mem
          have h_push := ih.compileFresh n' r (r.canonical :: A₁) (r.canonical :: A₂)
            (h₁.push h_in h_mem) (h₂.push h_in₂ h_mem)
            (fun r' h_r' => (h_agree.needs h_r').cons r.canonical)
            ⟨D, r.canonical :: A₁⟩ ⟨D, r.canonical :: A₂⟩ ⟨rfl, rfl, rfl⟩
          generalize (c.compileFresh n r).run.run ⟨D, r.canonical :: A₁⟩ = inner₁ at h_push ⊢
          generalize (c.compileFresh n' r).run.run ⟨D, r.canonical :: A₂⟩ = inner₂ at h_push ⊢
          obtain ⟨h_out, h_D, h_A₁, h_A₂⟩ := h_push
          rcases inner₁ with ⟨x, D₁, _⟩
          rcases inner₂ with ⟨_, D₂, _⟩
          dsimp only at h_out h_D h_A₁ h_A₂
          subst h_out h_D h_A₁ h_A₂
          cases x
          · exact ⟨rfl, rfl, by simp, by simp⟩
          · exact ⟨rfl, rfl, by simp, by simp⟩
    · exact c.sim_compileFresh_succ
        (fun ref h_ref => ih.compile n' ref _ A₁ A₂ (h₁.pred.weaken (by omega))
          (h₂.pred.weaken (by omega)) fun r' h_r' => h_needs r' (h_ref r' h_r'))
        (ih.formula n' _ _ A₁ A₂ h₁.pred h₂.pred fun d h_d r' h_r' => h_needs r' ⟨d, h_d, h_r'⟩)
    · exact c.sim_formula_succ fun d h_d =>
        ih.compile n' d ctx A₁ A₂ h₁.pred h₂.pred fun r' h_r' => h_deps d h_d r' h_r'

-- ============================================================================
-- What a success remembers
-- ============================================================================

/-- A reference compiled successfully resolves, and its metric is remembered afterwards. -/
theorem compile_remembers {n : Nat} {ref : String} {ctx : Option String} {σ σ' : Memo} {e : Expr}
    (h : (c.compile n ref ctx).run.run σ = (.ok e, σ')) :
    ∃ r, c.graph.resolveMetric ref ctx = .ok r ∧ σ'.Remembers r.canonical := by
  cases n with
  | zero => rw [compile] at h; cases h
  | succ n =>
    rw [run_compile_succ] at h
    cases h_res : c.graph.resolveMetric ref ctx with
    | error err => rw [h_res] at h; cases h
    | ok r =>
      rw [h_res] at h
      dsimp only at h
      refine ⟨r, rfl, ?_⟩
      cases n with
      | zero => rw [compileResolved] at h; cases h
      | succ n =>
        rw [run_compileResolved_succ] at h
        split at h
        · -- answered from memory
          rename_i e' h_look
          cases h
          simp [Memo.Remembers, h_look]
        · split at h
          · cases h
          · dsimp only at h
            generalize (c.compileFresh n r).run.run _ = inner at h
            rcases inner with ⟨_ | e', τ⟩
            · cases h
            · cases h
              exact Memo.remembers_store_self _ _ _ _

/-- The references of a formula compiled successfully all resolve, and are remembered. -/
theorem mapM_remembers {n : Nat} {ctx : Option String} :
    ∀ {deps : List String} {σ σ' : Memo} {out : List (String × String)},
      (deps.mapM fun dep => do
          let e ← c.compile n dep ctx
          pure (dep, e.render c.dialect)).run.run σ = (.ok out, σ') →
      ∀ d ∈ deps, ∃ r, c.graph.resolveMetric d ctx = .ok r ∧ σ'.Remembers r.canonical
  | [], _, _, _, _ => fun d h_d => absurd h_d List.not_mem_nil
  | dep :: deps, σ, σ', out, h => by
    rw [List.mapM_cons] at h
    obtain ⟨p, σ₁, h_first, h_rest⟩ := run_bind_ok h
    obtain ⟨e, σ₀, h_dep, h_pair⟩ := run_bind_ok h_first
    obtain ⟨ps, σ₂, h_deps, h_list⟩ := run_bind_ok h_rest
    cases h_pair
    cases h_list
    intro d h_d
    rcases List.mem_cons.mp h_d with rfl | h_d
    · -- the first reference is remembered, and the rest of the formula keeps it
      obtain ⟨r, h_r, h_rem⟩ := c.compile_remembers h_dep
      have h_keeps : Sim (Remembering r.canonical)
          (deps.mapM fun dep => do let e ← c.compile n dep ctx; pure (dep, e.render c.dialect))
          (deps.mapM fun dep => do let e ← c.compile n dep ctx; pure (dep, e.render c.dialect)) :=
        Sim.mapM fun d _ => Sim.bind ((c.keepsMemory n).compile d ctx _) fun _ => Sim.pure _
      exact ⟨r, h_r, Remembers.of_run h_keeps h_deps h_rem⟩
    · exact mapM_remembers h_deps d h_d

/-- A formula compiled successfully remembers what each of its references resolves to. -/
theorem formula_remembers {n : Nat} {m : Metric} {ctx : Option String} {σ σ' : Memo} {e : Expr}
    (h : (c.formula n m ctx).run.run σ = (.ok e, σ')) :
    ∀ d ∈ c.graph.dependencies m ctx,
      ∃ r, c.graph.resolveMetric d ctx = .ok r ∧ σ'.Remembers r.canonical := by
  cases n with
  | zero => rw [formula] at h; cases h
  | succ n =>
    rw [formula] at h
    obtain ⟨out, σ₁, h_deps, h_raw⟩ := run_bind_ok h
    cases h_raw
    exact c.mapM_remembers h_deps

/-- A metric compiled successfully remembers every metric it needs. -/
theorem compileFresh_remembers {n : Nat} {r : ResolvedMetric} {σ σ' : Memo} {e : Expr}
    (h : (c.compileFresh n r).run.run σ = (.ok e, σ')) :
    ∀ r', c.graph.Needs r r' → σ'.Remembers r'.canonical := by
  rintro r' ⟨d, h_d, h_r'⟩
  cases n with
  | zero => rw [compileFresh] at h; cases h
  | succ n =>
    rw [compileFresh] at h
    cases h_kind : r.metric.kind <;> rw [h_kind] at h <;> dsimp only at h
    case simple =>
      by_cases h_agg : r.metric.agg.isSome = true
      · -- an aggregate needs nothing
        have h_aggregate : r.metric.isAggregate = true := by
          simp [Metric.isAggregate, h_kind, h_agg]
        simp [Graph.dependencies, h_aggregate] at h_d
      · rw [if_neg h_agg] at h
        obtain ⟨_, _, h_formula, h_fill⟩ := run_bind_ok h
        cases h_fill
        obtain ⟨r'', h_r'', h_rem⟩ := c.formula_remembers h_formula d h_d
        rw [h_r'] at h_r''
        cases h_r''
        exact h_rem
    case derived =>
      obtain ⟨_, _, h_formula, h_fill⟩ := run_bind_ok h
      cases h_fill
      obtain ⟨r'', h_r'', h_rem⟩ := c.formula_remembers h_formula d h_d
      rw [h_r'] at h_r''
      cases h_r''
      exact h_rem
    case ratio =>
      rcases h_num : r.metric.numerator with _ | num <;>
        rcases h_den : r.metric.denominator with _ | den <;> simp only [h_num, h_den] at h
      case some.some =>
        obtain ⟨_, σ₁, h_num_run, h_rest⟩ := run_bind_ok h
        obtain ⟨_, σ₂, h_den_run, h_rest⟩ := run_bind_ok h_rest
        obtain ⟨_, _, h_div, h_fill⟩ := run_bind_ok h_rest
        cases h_div
        cases h_fill
        -- `d` is one of the two operands, trimmed
        have h_resolves : ∀ ref, d = trimBlank ref →
            c.graph.resolveMetric ref r.modelName = .ok r' := fun ref h_eq => by
          rw [← resolveMetric_trimBlank, ← h_eq, h_r']
        rcases mem_dependencies_of_ratio h_kind h_num h_den h_d with h_eq | h_eq
        · obtain ⟨r₁, h_r₁, h_rem⟩ := c.compile_remembers h_num_run
          rw [h_resolves num h_eq] at h_r₁
          cases h_r₁
          exact Remembers.of_run ((c.keepsMemory n).compile den _ _) h_den_run h_rem
        · obtain ⟨r₂, h_r₂, h_rem⟩ := c.compile_remembers h_den_run
          rw [h_resolves den h_eq] at h_r₂
          cases h_r₂
          exact h_rem
      all_goals obtain ⟨_, _, h_throw, _⟩ := run_bind_ok h; cases h_throw
    all_goals obtain ⟨_, _, h_throw, _⟩ := run_bind_ok h; cases h_throw

end MetricCompiler

end MetricLayer
