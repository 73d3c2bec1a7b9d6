import MetricLayer.Proofs.Compile.Memo
/-!
# The metrics being compiled

A metric compiler marks a metric active while it compiles it (`Memo.active`); meeting an active
metric again is a dependency cycle. This module says what the marks do over a whole call.

* `restoresActive`: every call, successful or failed, leaves the active metrics as it found them,
  so each call of a sequence made on one compiler starts with none active.
* `CompileM.FailsWith`: the errors a computation can end with. Like `CompileM.Sim`, it is closed
  under the monad's operations, once each step is known to put the active metrics back.
* `Graph.Entering`, `Graph.Compiling`: during a call that started from a metric, the active metrics
  lie on a path of dependency edges from it, and each of them reaches the metric compiled now.
* `reportsSoundErrors`: so a call from no active metric never runs out of fuel, and reports a
  cycle `[k, k]` only for a name `k` on a dependency cycle reachable from its metric.

Main statement: `compileRef_restores_active_and_cycles_reachable`. The cycle is one that
`Graph.findCycle` finds when no model name has a dot. With a dot in a model name, a metric an
earlier call remembered can hide from the search the cycle a later call meets
(`sharedCompiler_cycle_unseen_by_search`).
-/

namespace MetricLayer

open MetricLayer.Sql MetricLayer.Graph CompileM Relation

theorem ResolvedMetric.canonical_eq_canonicalIn (r : ResolvedMetric) :
    r.canonical = r.metric.canonicalIn r.modelName := by
  rcases r with ⟨_ | model, metric⟩ <;> rfl

/-- Resolution fails only for want of a model or of a metric. -/
theorem Graph.resolveMetric_error {g : Graph} {ref : String} {ctx : Option String} {e : Error}
    (h : g.resolveMetric ref ctx = .error e) :
    (∃ name, e = .modelNotFound name) ∨ ∃ name, e = .metricNotFound name := by
  unfold resolveMetric at h
  dsimp only at h
  split at h
  · -- `model.metric`: the model, then its metric
    rw [getModel] at h
    split at h
    · simp only [bind, Except.bind] at h
      split at h
      · cases h
      · cases h
        exact .inr ⟨_, rfl⟩
    · cases h
      exact .inl ⟨_, rfl⟩
  · -- a bare name: the context model's metric, then a graph-level one
    split at h
    · cases h
    · rw [getMetric] at h
      split at h
      · cases h
      · cases h
        exact .inr ⟨_, rfl⟩

/-- An aggregate fails only for a model the query does not read. -/
theorem aggregateIn_error {scope : Scope} {d : Dialect} {model : Model} {m : Metric} {e : Error}
    (h : aggregateIn scope d model m = .error e) :
    e = .unsupportedMetric (model.name ++ "." ++ m.name)
      s!"model '{model.name}' is not part of this query" := by
  unfold aggregateIn sourceFor at h
  split at h
  · cases h
  all_goals
    split at h
    · cases h
    · cases h
      rfl

-- ============================================================================
-- The path of active metrics
-- ============================================================================

namespace Graph

section Stack

variable (g : Graph) (m : Metric) (c : Option String)

/-- The errors a compilation that started from `m` seen in `c` may end with: never the fuel
running out, and a cycle only as `[k, k]` for a name `k` on a dependency cycle reachable from
`m`. -/
def SoundError : Error → Prop
  | .unsupportedMetric _ reason => reason ≠ "dependency chain too deep"
  | .cyclicDependency path => ∃ k, path = [k, k] ∧
      ReflTransGen (g.DependsOn m c) (m.canonicalIn c) k ∧ TransGen (g.DependsOn m c) k k
  | _ => True

/-- `r` is about to be compiled while the names `A` are active: the start reaches it, every active
name reaches it by at least one edge, it is active or the node of its metric, and the start is
active or is `r`. -/
structure Entering (A : List String) (r : ResolvedMetric) : Prop where
  reached : ReflTransGen (g.DependsOn m c) (m.canonicalIn c) r.canonical
  from_active : ∀ k ∈ A, TransGen (g.DependsOn m c) k r.canonical
  node : r.canonical ∈ A ∨ g.NodeAt m c r.canonical r.metric r.modelName
  start_mem : m.canonicalIn c ∈ r.canonical :: A

/-- `r` is being compiled, its name the last of the active names `A`: the start reaches it,
every active name reaches it, its name is the node of its metric, and the start is active. -/
structure Compiling (A : List String) (r : ResolvedMetric) : Prop where
  reached : ReflTransGen (g.DependsOn m c) (m.canonicalIn c) r.canonical
  to_top : ∀ k ∈ A, ReflTransGen (g.DependsOn m c) k r.canonical
  node : g.NodeAt m c r.canonical r.metric r.modelName
  start_mem : m.canonicalIn c ∈ A

variable {g m c}

theorem SoundError.of_reason {name reason : String} (h : reason ≠ "dependency chain too deep") :
    g.SoundError m c (.unsupportedMetric name reason) :=
  h

/-- The node of a metric has an edge to the name of each of its dependencies. -/
theorem NodeAt.dependsOn {n : String} {x : Metric} {ctx : Option String} (h : g.NodeAt m c n x ctx)
    {d : String} (h_d : d ∈ g.dependencies x ctx) : g.DependsOn m c n (g.dependencyName d ctx) := by
  rcases h with ⟨rfl, rfl, rfl⟩ | ⟨h_ne, ref, ctx₀, r, h_r, rfl, rfl, rfl⟩
  · exact .start h_d
  · exact .resolved h_r h_ne h_d

/-- A call starts with nothing active, from the node of the metric its reference resolves to. -/
theorem entering_start (r : ResolvedMetric) : g.Entering r.metric r.modelName [] r where
  reached := by
    rw [r.canonical_eq_canonicalIn]
  from_active _ h := absurd h List.not_mem_nil
  node := .inr (.inl ⟨r.canonical_eq_canonicalIn, rfl, rfl⟩)
  start_mem := by
    rw [r.canonical_eq_canonicalIn]
    exact List.mem_singleton_self _

variable {A : List String} {r r' : ResolvedMetric}

/-- Meeting an active name closes a cycle through it, reachable from the start. -/
theorem Entering.cycle (h : g.Entering m c A r) (h_mem : r.canonical ∈ A) :
    g.SoundError m c (.cyclicDependency [r.canonical, r.canonical]) :=
  ⟨r.canonical, rfl, h.reached, h.from_active _ h_mem⟩

/-- A name not yet active is marked active and compiled. -/
theorem Entering.push (h : g.Entering m c A r) (h_new : r.canonical ∉ A) :
    g.Compiling m c (r.canonical :: A) r where
  reached := h.reached
  to_top k h_k := by
    rcases List.mem_cons.mp h_k with rfl | h_k
    · exact .refl
    · exact (h.from_active k h_k).to_reflTransGen
  node := h.node.resolve_left h_new
  start_mem := h.start_mem

/-- What the metric being compiled needs is entered along one more edge. -/
theorem Compiling.enter (h : g.Compiling m c A r) (h_needs : g.Needs r r') : g.Entering m c A r' := by
  obtain ⟨d, h_d, h_r'⟩ := h_needs
  have h_edge : g.DependsOn m c r.canonical r'.canonical := by
    rw [← dependencyName_of_ok h_r']
    exact h.node.dependsOn h_d
  refine ⟨h.reached.tail h_edge, fun k h_k => TransGen.tail' (h.to_top k h_k) h_edge, ?_,
    List.mem_cons_of_mem _ h.start_mem⟩
  by_cases h_mem : r'.canonical ∈ A
  · exact .inl h_mem
  · -- a name not active is not the start, so it is the node of what it resolves to
    have h_ne : r'.canonical ≠ m.canonicalIn c := fun h_eq => h_mem (h_eq ▸ h.start_mem)
    exact .inr (.inr ⟨h_ne, d, r.modelName, r', h_r', rfl, rfl, rfl⟩)

end Stack

end Graph

-- ============================================================================
-- The errors a computation ends with
-- ============================================================================

namespace CompileM

/-- Runs from one memory while `A` is active. -/
def Restoring (A : List String) (σ₁ σ₂ : Memo) : Prop := σ₁ = σ₂ ∧ σ₁.active = A

/-- A computation that puts the active metrics back ends with `A` active when it starts so. -/
theorem Sim.restores {α : Type} {A : List String} {m : CompileM α} (h : Sim (Restoring A) m m)
    {σ : Memo} (h_σ : σ.active = A) : (m.run.run σ).2.active = A :=
  (h σ σ ⟨rfl, h_σ⟩).2.2

/-- Run while `A` is active, `m` fails only with errors that satisfy `Q`. -/
def FailsWith {α : Type} (A : List String) (Q : Error → Prop) (m : CompileM α) : Prop :=
  ∀ σ : Memo, σ.active = A → ∀ e, (m.run.run σ).1 = .error e → Q e

namespace FailsWith

variable {A : List String} {Q : Error → Prop}

protected theorem pure {α : Type} (a : α) : FailsWith A Q (pure a) :=
  fun _ _ _ h => nomatch h

protected theorem throw {α : Type} {e : Error} (h : Q e) : FailsWith A Q (throw e : CompileM α) :=
  fun _ _ _ h_e => by
    cases h_e
    exact h

protected theorem ofExcept {α : Type} {x : Except Error α} (h : ∀ e, x = .error e → Q e) :
    FailsWith A Q (CompileM.ofExcept x) := by
  cases x with
  | error e => exact FailsWith.throw (h e rfl)
  | ok a => exact FailsWith.pure a

/-- A sequence fails as its first step does, or as its second does from where the first left the
active metrics. -/
protected theorem bind {α β : Type} {m : CompileM α} {f : α → CompileM β}
    (h_m : FailsWith A Q m) (h_keep : Sim (Restoring A) m m) (h_f : ∀ a, FailsWith A Q (f a)) :
    FailsWith A Q (m >>= f) := by
  intro σ h_σ e h_e
  have h_active := h_keep.restores h_σ
  rw [run_bind] at h_e
  rcases h_run : m.run.run σ with ⟨_ | a, σ'⟩
  · rw [h_run] at h_e
    cases h_e
    exact h_m σ h_σ _ (by rw [h_run])
  · rw [h_run] at h_e h_active
    exact h_f a σ' h_active e h_e

/-- A step that cannot fail adds no error. -/
theorem bind_pure {α β : Type} {m : CompileM α} {f : α → β} (h : FailsWith A Q m) :
    FailsWith A Q (m >>= fun a => pure (f a)) := by
  intro σ h_σ e h_e
  rw [run_bind] at h_e
  rcases h_run : m.run.run σ with ⟨_ | a, σ'⟩
  · rw [h_run] at h_e
    cases h_e
    exact h σ h_σ _ (by rw [h_run])
  · rw [h_run] at h_e
    cases h_e

theorem ofExcept_bind {α β : Type} {x : Except Error α} {f : α → CompileM β}
    (h_x : ∀ e, x = .error e → Q e) (h_f : ∀ a, x = .ok a → FailsWith A Q (f a)) :
    FailsWith A Q (CompileM.ofExcept x >>= f) := by
  cases x with
  | error e =>
    intro σ _ e' h_e
    cases h_e
    exact h_x e rfl
  | ok a => exact h_f a rfl

protected theorem mapM {α β : Type} {f : α → CompileM β} :
    ∀ {xs : List α}, (∀ x ∈ xs, FailsWith A Q (f x) ∧ Sim (Restoring A) (f x) (f x)) →
      FailsWith A Q (xs.mapM f)
  | [], _ => FailsWith.pure []
  | x :: xs, h => by
    rw [List.mapM_cons]
    obtain ⟨h_x, h_keep⟩ := h x List.mem_cons_self
    exact FailsWith.bind h_x h_keep fun _ =>
      bind_pure (FailsWith.mapM fun y h_y => h y (List.mem_cons_of_mem x h_y))

end FailsWith

end CompileM

-- ============================================================================
-- Every call puts the active metrics back
-- ============================================================================

namespace MetricCompiler

open CompileM

variable (c : MetricCompiler)

/-- At fuel `n`, every call ends with the active metrics it started with. -/
structure RestoresActive (n : Nat) : Prop where
  compile : ∀ ref ctx A, Sim (Restoring A) (c.compile n ref ctx) (c.compile n ref ctx)
  compileResolved : ∀ r A, Sim (Restoring A) (c.compileResolved n r) (c.compileResolved n r)
  compileFresh : ∀ r A, Sim (Restoring A) (c.compileFresh n r) (c.compileFresh n r)
  formula : ∀ m ctx A, Sim (Restoring A) (c.formula n m ctx) (c.formula n m ctx)

theorem restoresActive : ∀ n, c.RestoresActive n
  | 0 => {
      compile := fun _ _ _ => by rw [compile]; exact Sim.throw _
      compileResolved := fun _ _ => by rw [compileResolved]; exact Sim.throw _
      compileFresh := fun _ _ => by rw [compileFresh]; exact Sim.throw _
      formula := fun _ _ _ => by rw [formula]; exact Sim.throw _ }
  | n + 1 => by
    have ih := restoresActive n
    refine ⟨fun ref ctx A => ?_, fun r A => ?_, fun r A => ?_, fun m ctx A => ?_⟩
    · rw [compile]
      exact Sim.ofExcept_bind fun r _ => ih.compileResolved r A
    · -- the memory step marks the metric active, and takes the mark off whatever the outcome
      rintro ⟨D, A'⟩ _ ⟨rfl, h_A⟩
      dsimp only at h_A
      subst A'
      rw [run_compileResolved_succ]
      refine ⟨rfl, rfl, ?_⟩
      dsimp only
      split
      · rfl
      · split
        · rfl
        · have h_inner : ((c.compileFresh n r).run.run ⟨D, r.canonical :: A⟩).2.active =
              r.canonical :: A :=
            (ih.compileFresh r (r.canonical :: A)).restores rfl
          generalize (c.compileFresh n r).run.run ⟨D, r.canonical :: A⟩ = inner at h_inner ⊢
          rcases inner with ⟨_ | e, τ⟩ <;> dsimp only at h_inner ⊢ <;>
            rw [h_inner, List.erase_cons_head]
    · exact c.sim_compileFresh_succ (fun ref _ => ih.compile ref _ A) (ih.formula _ _ A)
    · exact c.sim_formula_succ fun d _ => ih.compile d ctx A

-- ============================================================================
-- The errors a call reports
-- ============================================================================

/-- The errors a metric's own compilation raises are none of the fuel running out. -/
theorem failsWith_compileFresh_succ {n : Nat} {r : ResolvedMetric} {A : List String}
    {Q : Error → Prop} (h_own : ∀ name reason, reason ≠ "dependency chain too deep" →
      Q (.unsupportedMetric name reason))
    (h_compile : ∀ ref, (∀ r', c.graph.resolveMetric ref r.modelName = .ok r' → c.graph.Needs r r') →
      FailsWith A Q (c.compile n ref r.modelName))
    (h_formula : FailsWith A Q (c.formula n r.metric r.modelName)) :
    FailsWith A Q (c.compileFresh (n + 1) r) := by
  rw [compileFresh]
  rcases h_kind : r.metric.kind <;> simp only
  case simple =>
    by_cases h_agg : r.metric.agg.isSome = true
    · rw [if_pos h_agg]
      cases r.model <;> simp only
      · exact FailsWith.bind_pure (FailsWith.throw (h_own _ _ (by decide)))
      · refine FailsWith.bind_pure (FailsWith.ofExcept fun e h_e => ?_)
        rw [aggregateIn_error h_e]
        refine h_own _ _ fun h_eq => ?_
        -- the two reasons differ in their first letter
        have h_head := congrArg (fun s => s.toList.head?) h_eq
        simp at h_head
    · rw [if_neg h_agg]
      exact FailsWith.bind_pure h_formula
  case derived => exact FailsWith.bind_pure h_formula
  case ratio =>
    rcases h_num : r.metric.numerator with _ | num <;>
      rcases h_den : r.metric.denominator with _ | den <;> simp only
    case some.some =>
      have h_ops : Text.trimBlank num ∈ c.graph.dependencies r.metric r.modelName ∧
          Text.trimBlank den ∈ c.graph.dependencies r.metric r.modelName :=
        trimBlank_mem_dependencies_of_ratio h_kind h_num h_den
      have h_needs : ∀ ref, Text.trimBlank ref ∈ c.graph.dependencies r.metric r.modelName →
          ∀ r', c.graph.resolveMetric ref r.modelName = .ok r' → c.graph.Needs r r' :=
        fun ref h_ref r' h_r' => ⟨_, h_ref, by rwa [resolveMetric_trimBlank]⟩
      exact FailsWith.bind (h_compile num (h_needs num h_ops.1))
        ((c.restoresActive n).compile num _ A) fun _ =>
          FailsWith.bind (h_compile den (h_needs den h_ops.2))
            ((c.restoresActive n).compile den _ A) fun _ => FailsWith.bind_pure (FailsWith.pure _)
    all_goals exact FailsWith.bind_pure (FailsWith.throw (h_own _ _ (by decide)))
  all_goals exact FailsWith.bind_pure (FailsWith.throw (h_own _ _ (by decide)))

variable (m : Metric) (ctx₀ : Option String)

/-- At fuel `n`, enough for the active metrics, a call made during a compilation that started from
`m` seen in `ctx₀` fails only with a `Graph.SoundError`, as long as the active metrics lie on a
path from the start to the metric compiled. -/
structure ReportsSoundErrors (n : Nat) : Prop where
  compile : ∀ ref ctx A, c.graph.Budget A 2 n →
    (∀ r, c.graph.resolveMetric ref ctx = .ok r → c.graph.Entering m ctx₀ A r) →
    FailsWith A (c.graph.SoundError m ctx₀) (c.compile n ref ctx)
  compileResolved : ∀ r A, c.graph.Registered r → c.graph.Budget A 1 n →
    c.graph.Entering m ctx₀ A r → FailsWith A (c.graph.SoundError m ctx₀) (c.compileResolved n r)
  compileFresh : ∀ r A, c.graph.Budget A 4 n → c.graph.Compiling m ctx₀ A r →
    FailsWith A (c.graph.SoundError m ctx₀) (c.compileFresh n r)
  formula : ∀ x ctx A, c.graph.Budget A 3 n →
    (∀ d ∈ c.graph.dependencies x ctx, ∀ r, c.graph.resolveMetric d ctx = .ok r →
      c.graph.Entering m ctx₀ A r) →
    FailsWith A (c.graph.SoundError m ctx₀) (c.formula n x ctx)

theorem reportsSoundErrors : ∀ n, c.ReportsSoundErrors m ctx₀ n
  | 0 => {
      compile := fun _ _ _ h => absurd h.pos (Nat.lt_irrefl 0)
      compileResolved := fun _ _ _ h => absurd h.pos (Nat.lt_irrefl 0)
      compileFresh := fun _ _ h => absurd h.pos (Nat.lt_irrefl 0)
      formula := fun _ _ _ h => absurd h.pos (Nat.lt_irrefl 0) }
  | n + 1 => by
    have ih := reportsSoundErrors n
    refine ⟨fun ref ctx A h_budget h_enter => ?_, fun r A h_reg h_budget h_enter => ?_,
      fun r A h_budget h_compiling => ?_, fun x ctx A h_budget h_deps => ?_⟩
    · rw [compile]
      refine FailsWith.ofExcept_bind (fun e h_e => ?_) fun r h_r =>
        ih.compileResolved r A (resolveMetric_registered h_r) h_budget.pred (h_enter r h_r)
      rcases resolveMetric_error h_e with ⟨_, rfl⟩ | ⟨_, rfl⟩ <;> trivial
    · -- the memory step: an active name is a cycle; any other is pushed onto the path
      intro σ h_σ e h_e
      rw [run_compileResolved_succ] at h_e
      dsimp only at h_e
      split at h_e
      · cases h_e
      · split at h_e
        · rename_i h_mem
          cases h_e
          exact h_enter.cycle (h_σ ▸ h_mem)
        · rename_i h_mem
          have h_new : r.canonical ∉ A := h_σ ▸ h_mem
          have h_inner := (ih.compileFresh r (r.canonical :: A)
            (h_budget.push h_new h_reg.canonical_mem) (h_enter.push h_new))
            { σ with active := r.canonical :: σ.active } (by rw [h_σ])
          generalize (c.compileFresh n r).run.run { σ with active := r.canonical :: σ.active } =
            inner at h_inner h_e
          rcases inner with ⟨_ | e', τ⟩
          · cases h_e
            exact h_inner _ rfl
          · cases h_e
    · exact c.failsWith_compileFresh_succ (fun _ _ h => SoundError.of_reason h)
        (fun ref h_ref => ih.compile ref _ A (h_budget.pred.weaken (by omega))
          fun r' h_r' => h_compiling.enter (h_ref r' h_r'))
        (ih.formula _ _ A h_budget.pred fun d h_d r' h_r' => h_compiling.enter ⟨d, h_d, h_r'⟩)
    · rw [formula]
      exact FailsWith.bind_pure (FailsWith.mapM fun d h_d =>
        ⟨FailsWith.bind_pure (ih.compile d ctx A h_budget.pred (h_deps d h_d)),
          Sim.bind ((c.restoresActive n).compile d ctx A) fun _ => Sim.pure _⟩)

/-- A reference compiled with no metric active fails neither for want of fuel nor with a cycle
that does not pass through a name reachable from the metric it resolves to. -/
theorem compile_soundError {n : Nat} {ref : String} {ctx : Option String} {σ : Memo}
    (h_budget : c.graph.Budget [] 2 n) (h_σ : σ.active = []) {e : Error}
    (h_e : ((c.compile n ref ctx).run.run σ).1 = .error e) :
    (∀ name, e ≠ .unsupportedMetric name "dependency chain too deep") ∧
      ∀ path, e = .cyclicDependency path → ∃ r, c.graph.resolveMetric ref ctx = .ok r ∧
        c.graph.SoundError r.metric r.modelName (.cyclicDependency path) := by
  cases h_res : c.graph.resolveMetric ref ctx with
  | error e' =>
    -- resolution failed, and its error is the outcome
    obtain ⟨n, rfl⟩ := Nat.exists_eq_add_one.mpr h_budget.pos
    rw [run_compile_succ, h_res] at h_e
    cases h_e
    rcases resolveMetric_error h_res with ⟨_, rfl⟩ | ⟨_, rfl⟩ <;> simp
  | ok r =>
    have h_sound := (c.reportsSoundErrors r.metric r.modelName n).compile ref ctx [] h_budget
      (fun r' h_r' => by
        rw [h_res] at h_r'
        cases h_r'
        exact entering_start r) σ h_σ e h_e
    refine ⟨fun name h_eq => ?_, fun path h_eq => ⟨r, rfl, h_eq ▸ h_sound⟩⟩
    subst h_eq
    exact h_sound rfl

/-- Two memories that remember the same, with the same metrics active, are one. -/
theorem Shared.eq {A : List String} {σ₁ σ₂ : Memo} (h : Shared A A σ₁ σ₂) : σ₁ = σ₂ := by
  obtain ⟨D₁, A₁⟩ := σ₁
  obtain ⟨D₂, A₂⟩ := σ₂
  obtain ⟨h_D, h_A₁, h_A₂⟩ := h
  dsimp only at h_D h_A₁ h_A₂
  subst h_D h_A₁ h_A₂
  rfl

end MetricCompiler

/-- Compiling a reference terminates with the active metrics as it found them, whatever the
memory. From no active metric, as every call of a sequence on one compiler starts, the fuel never
runs out and more fuel changes nothing; and a cycle `[k, k]` is reported only for a name `k` on a
dependency cycle reachable from the metric the reference resolves to, a cycle that the cycle
search finds when no model name has a dot. -/
theorem compileRef_restores_active_and_cycles_reachable (c : MetricCompiler) (ref : String)
    (ctx : Option String) (σ : Memo) :
    ((c.compileRef ref ctx).run.run σ).2.active = σ.active ∧
      (σ.active = [] →
        (∀ n, c.depth ≤ n → (c.compile n ref ctx).run.run σ = (c.compileRef ref ctx).run.run σ) ∧
        (∀ name, ((c.compileRef ref ctx).run.run σ).1 ≠
          .error (.unsupportedMetric name "dependency chain too deep")) ∧
        ∀ path, ((c.compileRef ref ctx).run.run σ).1 = .error (.cyclicDependency path) →
          ∃ r, c.graph.resolveMetric ref ctx = .ok r ∧
            (∃ k, path = [k, k] ∧ ReflTransGen (c.graph.DependsOn r.metric r.modelName) r.canonical k ∧
              TransGen (c.graph.DependsOn r.metric r.modelName) k k) ∧
            (c.graph.DotFreeModels → ∃ cycle, c.graph.findCycle r.metric r.modelName = some cycle)) := by
  unfold MetricCompiler.compileRef
  refine ⟨(c.restoresActive c.depth |>.compile ref ctx σ.active).restores rfl, fun h_σ => ?_⟩
  have h_budget : ∀ {n}, c.depth ≤ n → c.graph.Budget [] 2 n :=
    fun h_n => Budget.nil (by unfold MetricCompiler.depth at h_n; omega)
  refine ⟨fun n h_n => ?_, fun name h_e => ?_, fun path h_e => ?_⟩
  · -- any fuel from `depth` on gives the same outcome and the same memory
    obtain ⟨h_out, h_shared⟩ := (c.framed c.depth).compile n ref ctx [] []
      (h_budget le_rfl) (h_budget h_n) (fun _ _ _ _ => Iff.rfl) σ σ ⟨rfl, h_σ, h_σ⟩
    exact Prod.ext h_out.symm h_shared.eq.symm
  · exact (c.compile_soundError (h_budget le_rfl) h_σ h_e).1 name rfl
  · obtain ⟨r, h_r, k, rfl, h_reach, h_loop⟩ :=
      (c.compile_soundError (h_budget le_rfl) h_σ h_e).2 path rfl
    refine ⟨r, h_r, ⟨k, rfl, r.canonical_eq_canonicalIn ▸ h_reach, h_loop⟩, fun h_models => ?_⟩
    -- the context of a resolved metric has no dot, so the search is complete there
    have h_context := (resolveMetric_registered h_r).modelName_dot_free h_models
    exact (findCycle_iff_cycle_reachable h_models h_context).2.1.mpr ⟨k, h_reach, h_loop⟩

def loopingCompiler : MetricCompiler := ⟨loopingGraph, .duckdb, .grouped [("orders", "orders_cte")]⟩

/-- Net revenue names gross revenue, which names net revenue: compiling it meets the cycle, and
the search finds one from it. -/
theorem netRevenue_compile_meets_found_cycle :
    ((loopingCompiler.compileRef "orders.net_revenue" none).run.run {}).1 =
        .error (.cyclicDependency ["orders.net_revenue", "orders.net_revenue"]) ∧
      ∃ r, loopingGraph.resolveMetric "orders.net_revenue" none = .ok r ∧
        ∃ cycle, loopingGraph.findCycle r.metric r.modelName = some cycle := by
  have h_run : ((loopingCompiler.compileRef "orders.net_revenue" none).run.run {}).1 =
      .error (.cyclicDependency ["orders.net_revenue", "orders.net_revenue"]) :=
    eq_error_of_errorPart (by decide +kernel)
  obtain ⟨-, h_empty⟩ :=
    compileRef_restores_active_and_cycles_reachable loopingCompiler "orders.net_revenue" none {}
  obtain ⟨r, h_r, -, h_found⟩ := (h_empty rfl).2.2 _ h_run
  exact ⟨h_run, r, h_r, h_found (by decide)⟩

/-- `s` = `p / a.b.x`. -/
def pOverAbx : Metric :=
  { name := "s", kind := .ratio, numerator := some "p", denominator := some "a.b.x" }

/-- Model `a.b`: a sum `x`, `p` = `x / x`, and `s`. -/
def ratiosAb : Model :=
  { name := "a.b", table := some "ab", primaryKey := "id",
    metrics := [{ name := "x", agg := some .sum, sql := some "amount" },
      { name := "p", kind := .ratio, numerator := some "x", denominator := some "x" }, pOverAbx] }

/-- Model `a`: a sum `b.p`, and the ratio `b.x` of `a.b.x` by itself. -/
def sumAndLoopA : Model :=
  { name := "a", table := some "a", primaryKey := "id",
    metrics := [{ name := "b.p", agg := some .sum, sql := some "price" }, selfRatio] }

def dottedRatios : MetricCompiler :=
  ⟨{ models := [ratiosAb, sumAndLoopA] }, .duckdb, .grouped [("a", "a_rel"), ("a.b", "ab_rel")]⟩

/-- With a dot in a model name, `a.b.p` and `p` seen from `a.b` share a canonical name, and so do
the sum `x` of `a.b` and the ratio `b.x` of `a`. A compiler that compiled `a.b.p` answers `p` from
memory when it compiles `s`, so the next name it compiles is `a.b.x` as the ratio, which meets
itself. A fresh compiler compiles `p` first, which remembers `a.b.x` as the sum, and `s` compiles.
The search from `s` goes the fresh compiler's way and finds no cycle. -/
theorem sharedCompiler_cycle_unseen_by_search :
    ((dottedRatios.compileRef "s" (some "a.b")).run.run
        ((dottedRatios.compileRef "a.b.p" (some "a.b")).run.run {}).2).1 =
      .error (.cyclicDependency ["a.b.x", "a.b.x"]) ∧
    (dottedRatios.compileRef "s" (some "a.b")).runFresh.isOk = true ∧
    ∃ r, dottedRatios.graph.resolveMetric "s" (some "a.b") = .ok r ∧
      dottedRatios.graph.findCycle r.metric r.modelName = none := by
  have h_res : dottedRatios.graph.resolveMetric pOverAbx.name (some "a.b") =
      .ok ⟨some ratiosAb, pOverAbx⟩ :=
    resolveMetric_in_context (by decide) (by decide) rfl rfl
  exact ⟨eq_error_of_errorPart (by decide +kernel), by decide +kernel, _, h_res, by decide +kernel⟩

end MetricLayer
