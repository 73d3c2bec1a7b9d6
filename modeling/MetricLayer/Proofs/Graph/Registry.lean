import MetricLayer.Graph.Registry
import MetricLayer.Proofs.Outcome
/-!
# The registry after any sequence of registrations

A session registers models, graph-level metrics and parameters one call at a time
(`Graph.registerAll`); a call that fails leaves the graph as it was. Every call adds to the list
of its kind by one rule: under a new name the definition is appended once it passes its check,
under a taken name nothing changes (`Graph.addNamed`). The list of a kind is therefore the first
definition under each name among those that passed (`firstByName`).

Models and parameters are checked on their own, so after any sequence of calls their lists are
exactly the valid ones of the calls, the first under each name, in the order of the calls. A
graph-level metric is checked against the graph it is added to: each registered metric was added
by a call at which its name was new and it passed that check, and every such call added it.

Main statement: `Graph.registerAll_consistent`.
-/

namespace MetricLayer

/-- One registration call. -/
inductive Registration where
  | model (m : Model)
  | metric (m : Metric)
  | parameter (p : Parameter)
  deriving BEq

namespace Registration

/-- The model a call registers. -/
def model? : Registration → Option Model
  | .model m => some m
  | _ => none

/-- The graph-level metric a call registers. -/
def metric? : Registration → Option Metric
  | .metric m => some m
  | _ => none

/-- The parameter a call registers. -/
def parameter? : Registration → Option Parameter
  | .parameter p => some p
  | _ => none

/-- The kind of definition a call registers. -/
def kind : Registration → DefinitionKind
  | .model _ => .model
  | .metric _ => .metric
  | .parameter _ => .parameter

/-- The name a call registers its definition under. -/
def name : Registration → String
  | .model m => m.name
  | .metric m => m.name
  | .parameter p => p.name

@[simp] theorem model_beq_model (a b : Model) : (Registration.model a == .model b) = (a == b) := rfl

@[simp] theorem metric_beq_metric (a b : Metric) : (Registration.metric a == .metric b) = (a == b) := rfl

@[simp] theorem parameter_beq_parameter (a b : Parameter) :
    (Registration.parameter a == .parameter b) = (a == b) := rfl

end Registration

/-- `xs` with `x` after it, unless a definition of `x`'s name is there already. -/
def addFirst {α : Type} (name : α → String) (xs : List α) (x : α) : List α :=
  if xs.any (fun y => name y == name x) then xs else xs ++ [x]

/-- The first definition under each name, in order. -/
def firstByName {α : Type} (name : α → String) (xs : List α) : List α :=
  xs.foldl (addFirst name) []

namespace Graph

/-- Makes one registration call. -/
def register (g : Graph) : Registration → Except Error Graph
  | .model m => g.addModel m
  | .metric m => g.addMetric m
  | .parameter p => g.addParameter p

/-- The graph after one call: what the call returned, or the graph as it was when it failed. -/
def afterCall (g : Graph) (r : Registration) : Graph :=
  match g.register r with
  | .ok g' => g'
  | .error _ => g

/-- The graph after a sequence of calls. -/
def registerAll (g : Graph) (calls : List Registration) : Graph :=
  calls.foldl afterCall g

/-- The definition of a call's kind registered under the call's name. -/
def lookup (g : Graph) : Registration → Option Registration
  | .model m => (g.model? m.name).map .model
  | .metric m => (g.metric? m.name).map .metric
  | .parameter p => (g.parameter? p.name).map .parameter

-- ============================================================================
-- One rule for every kind
-- ============================================================================

section AddNamed

variable {α β : Type} [BEq α] {kind : DefinitionKind} {name : α → String} {xs : List α} {x : α}
  {check : Except Error Unit}

omit [BEq α] in
/-- A name is taken exactly when a definition under it is found. -/
theorem any_name_eq_true_of_find? {e : α} (h : xs.find? (fun y => name y == name x) = some e) :
    xs.any (fun y => name y == name x) = true := by
  have h_name := List.find?_some h
  exact List.any_eq_true.mpr ⟨e, List.mem_of_find?_eq_some h, h_name⟩

omit [BEq α] in
theorem any_name_eq_false_of_find? (h : xs.find? (fun y => name y == name x) = none) :
    xs.any (fun y => name y == name x) = false := by
  rw [List.find?_eq_none] at h
  exact List.any_eq_false.mpr h

/-- Under a taken name an add answers from the definition found: no change when it is equal,
    a duplicate otherwise. -/
theorem addNamed_of_find? {e : α} (h : xs.find? (fun y => name y == name x) = some e) :
    addNamed kind name xs x check = if e == x then .ok xs else .error (.duplicate kind (name x)) := by
  unfold addNamed
  rw [h]

/-- The same, for an add whose list is then put back into what holds it. -/
theorem map_addNamed_of_find? (f : List α → β) {e : α}
    (h : xs.find? (fun y => name y == name x) = some e) :
    f <$> addNamed kind name xs x check =
      if e == x then .ok (f xs) else .error (.duplicate kind (name x)) := by
  rw [addNamed_of_find? h]
  by_cases h_eq : e == x
  · rw [if_pos h_eq, if_pos h_eq]
    rfl
  · rw [if_neg h_eq, if_neg h_eq]
    rfl

/-- An add succeeds with the first definition under each name among those that pass the check,
    or fails, and then that list is the one it started from. -/
theorem addNamed_outcome :
    addNamed kind name xs x check = .ok (if check.isOk then addFirst name xs x else xs) ∨
      ((if check.isOk then addFirst name xs x else xs) = xs ∧
        ∃ err, addNamed kind name xs x check = .error err) := by
  unfold addFirst
  cases h_find : xs.find? (fun y => name y == name x) with
  | some e =>
    -- a taken name: an equal definition is kept as it is, a different one refused
    rw [addNamed_of_find? h_find, any_name_eq_true_of_find? h_find, if_pos rfl, ite_self]
    by_cases h_eq : e == x
    · exact .inl (if_pos h_eq)
    · exact .inr ⟨rfl, _, if_neg h_eq⟩
  | none =>
    -- a new name: the definition is appended exactly when it passes
    have h_add : addNamed kind name xs x check = check.bind fun _ => .ok (xs ++ [x]) := by
      unfold addNamed
      rw [h_find]
      rfl
    rw [h_add, any_name_eq_false_of_find? h_find]
    cases check with
    | ok u => exact .inl rfl
    | error err => exact .inr ⟨rfl, err, rfl⟩

end AddNamed

-- ============================================================================
-- One call
-- ============================================================================

/-- A model call keeps the first valid model under each name. -/
theorem afterCall_model (g : Graph) (m : Model) :
    g.afterCall (.model m) =
      { g with models := if m.validate.isOk then addFirst (·.name) g.models m else g.models } := by
  rw [afterCall, register, addModel]
  rcases @addNamed_outcome Model _ .model (·.name) g.models m m.validate with h_ok | ⟨h_keep, err, h_err⟩
  · rw [h_ok]
    rfl
  · rw [h_err, h_keep]
    rfl

/-- A metric call keeps the first metric under each name that passes its check against the
    graph it is added to. -/
theorem afterCall_metric (g : Graph) (m : Metric) :
    g.afterCall (.metric m) =
      { g with metrics :=
          if (g.validateMetric m none).isOk then addFirst (·.name) g.metrics m else g.metrics } := by
  rw [afterCall, register, addMetric]
  rcases @addNamed_outcome Metric _ .metric (·.name) g.metrics m (g.validateMetric m none) with h_ok | ⟨h_keep, err, h_err⟩
  · rw [h_ok]
    rfl
  · rw [h_err, h_keep]
    rfl

/-- A parameter call keeps the first valid parameter under each name. -/
theorem afterCall_parameter (g : Graph) (p : Parameter) :
    g.afterCall (.parameter p) =
      { g with parameters :=
          if p.validate.isOk then addFirst (·.name) g.parameters p else g.parameters } := by
  rw [afterCall, register, addParameter]
  rcases @addNamed_outcome Parameter _ .parameter (·.name) g.parameters p p.validate with h_ok | ⟨h_keep, err, h_err⟩
  · rw [h_ok]
    rfl
  · rw [h_err, h_keep]
    rfl

theorem afterCall_models (g : Graph) (r : Registration) :
    (g.afterCall r).models = r.model?.elim g.models fun m =>
      if m.validate.isOk then addFirst (·.name) g.models m else g.models := by
  cases r with
  | model m => simp only [afterCall_model, Registration.model?, Option.elim_some]
  | metric m => simp only [afterCall_metric, Registration.model?, Option.elim_none]
  | parameter p => simp only [afterCall_parameter, Registration.model?, Option.elim_none]

theorem afterCall_parameters (g : Graph) (r : Registration) :
    (g.afterCall r).parameters = r.parameter?.elim g.parameters fun p =>
      if p.validate.isOk then addFirst (·.name) g.parameters p else g.parameters := by
  cases r with
  | model m => simp only [afterCall_model, Registration.parameter?, Option.elim_none]
  | metric m => simp only [afterCall_metric, Registration.parameter?, Option.elim_none]
  | parameter p => simp only [afterCall_parameter, Registration.parameter?, Option.elim_some]

theorem afterCall_metrics (g : Graph) (r : Registration) :
    (g.afterCall r).metrics = r.metric?.elim g.metrics fun m =>
      if (g.validateMetric m none).isOk then addFirst (·.name) g.metrics m else g.metrics := by
  cases r with
  | model m => simp only [afterCall_model, Registration.metric?, Option.elim_none]
  | metric m => simp only [afterCall_metric, Registration.metric?, Option.elim_some]
  | parameter p => simp only [afterCall_parameter, Registration.metric?, Option.elim_none]

/-- A call under a registered name answers from the registered definition: success and no
    change when it is equal to the call's, a duplicate otherwise. -/
theorem register_of_lookup {g : Graph} {r e : Registration} (h : g.lookup r = some e) :
    g.register r = if e == r then .ok g else .error (.duplicate r.kind r.name) := by
  cases r with
  | model m =>
    obtain ⟨e', h_e', rfl⟩ := Option.map_eq_some_iff.mp h
    rw [Registration.model_beq_model]
    exact map_addNamed_of_find? (fun models => { g with models := models }) h_e'
  | metric m =>
    obtain ⟨e', h_e', rfl⟩ := Option.map_eq_some_iff.mp h
    rw [Registration.metric_beq_metric]
    exact map_addNamed_of_find? (fun metrics => { g with metrics := metrics }) h_e'
  | parameter p =>
    obtain ⟨e', h_e', rfl⟩ := Option.map_eq_some_iff.mp h
    rw [Registration.parameter_beq_parameter]
    exact map_addNamed_of_find? (fun parameters => { g with parameters := parameters }) h_e'

/-- A call that fails leaves the graph as it was. -/
theorem afterCall_of_error {g : Graph} {r : Registration} {err : Error}
    (h : g.register r = .error err) : g.afterCall r = g := by
  unfold afterCall
  rw [h]

-- ============================================================================
-- Lists that keep the first definition under each name
-- ============================================================================

section FirstByName

variable {α : Type} {name : α → String}

theorem mem_addFirst {xs : List α} {x y : α} :
    y ∈ addFirst name xs x ↔ y ∈ xs ∨ (y = x ∧ xs.any (fun z => name z == name x) = false) := by
  unfold addFirst
  cases h_any : xs.any (fun z => name z == name x) <;> simp [or_comm]

theorem prefix_addFirst (xs : List α) (x : α) : xs <+: addFirst name xs x := by
  unfold addFirst
  split
  · exact List.prefix_refl xs
  · exact List.prefix_append xs [x]

theorem nodup_addFirst {xs : List α} (x : α) (h : (xs.map name).Nodup) :
    ((addFirst name xs x).map name).Nodup := by
  unfold addFirst
  cases h_any : xs.any (fun z => name z == name x) with
  | true => exact h
  | false =>
    -- the name is new, so it stays apart from every name before it
    have h_new : name x ∉ xs.map name := by
      intro h_mem
      obtain ⟨z, h_z, h_eq⟩ := List.mem_map.mp h_mem
      have := List.any_eq_false.mp h_any z h_z
      simp [h_eq] at this
    simpa [List.nodup_append, h] using h_new

/-- Looking a name up after `addFirst` finds what it finds with `x` after the list. -/
theorem find?_addFirst (xs : List α) (x : α) (n : String) :
    (addFirst name xs x).find? (fun y => name y == n) = (xs ++ [x]).find? (fun y => name y == n) := by
  unfold addFirst
  cases h_any : xs.any (fun z => name z == name x) with
  | false => rfl
  | true =>
    rw [if_pos rfl, List.find?_append]
    by_cases h_n : name x = n
    · -- the name of `x` is found before `x`
      subst h_n
      obtain ⟨z, h_z, h_eq⟩ := List.any_eq_true.mp h_any
      cases h_find : xs.find? (fun y => name y == name x) with
      | none => exact absurd h_eq (List.find?_eq_none.mp h_find z h_z)
      | some w => rfl
    · have h_skip : [x].find? (fun y => name y == n) = none := by simp [h_n]
      rw [h_skip, Option.or_none]

/-- Keeping the first under each name changes no lookup by name. -/
theorem find?_foldl_addFirst (n : String) :
    ∀ (xs acc : List α), (xs.foldl (addFirst name) acc).find? (fun y => name y == n) =
      (acc ++ xs).find? (fun y => name y == n) := by
  intro xs
  induction xs with
  | nil => intro acc; rw [List.foldl_nil, List.append_nil]
  | cons x xs ih =>
    intro acc
    have h_cons : (x :: xs).find? (fun y => name y == n) =
        ([x].find? (fun y => name y == n)).or (xs.find? (fun y => name y == n)) := by
      rw [← List.find?_append]
      rfl
    rw [List.foldl_cons, ih, List.find?_append, find?_addFirst, List.find?_append,
      List.find?_append, h_cons, Option.or_assoc]

theorem nodup_foldl_addFirst :
    ∀ (xs acc : List α), (acc.map name).Nodup → ((xs.foldl (addFirst name) acc).map name).Nodup := by
  intro xs
  induction xs with
  | nil => intro acc h; exact h
  | cons x xs ih => intro acc h; exact ih _ (nodup_addFirst x h)

end FirstByName

-- ============================================================================
-- Runs of calls
-- ============================================================================

theorem registerAll_cons (g : Graph) (r : Registration) (rs : List Registration) :
    g.registerAll (r :: rs) = (g.afterCall r).registerAll rs := rfl

theorem registerAll_append (g : Graph) (pre post : List Registration) :
    g.registerAll (pre ++ post) = (g.registerAll pre).registerAll post :=
  List.foldl_append

/-- A list of definitions that each call extends by `addFirst` with the definition it selects,
    when that passes `ok`, ends a run as the first under each name of the passing definitions of
    the calls. -/
theorem registerAll_view {α : Type} (view : Graph → List α) (name : α → String)
    (sel : Registration → Option α) (ok : α → Bool)
    (h_step : ∀ g r, view (g.afterCall r) =
      (sel r).elim (view g) fun x => if ok x then addFirst name (view g) x else view g) :
    ∀ (calls : List Registration) (g : Graph),
      view (g.registerAll calls) = ((calls.filterMap sel).filter ok).foldl (addFirst name) (view g) := by
  intro calls
  induction calls with
  | nil => intro g; rfl
  | cons r rs ih =>
    intro g
    rw [registerAll_cons, ih, h_step]
    cases h_sel : sel r with
    | none => simp only [List.filterMap_cons, h_sel, Option.elim]
    | some x =>
      by_cases h_ok : ok x
      · simp only [List.filterMap_cons, h_sel, h_ok, Option.elim, List.filter_cons, if_true,
          List.foldl_cons]
      · simp only [List.filterMap_cons, h_sel, h_ok, Option.elim, List.filter_cons, if_false,
          Bool.false_eq_true]

theorem registerAll_models (calls : List Registration) (g : Graph) :
    (g.registerAll calls).models =
      ((calls.filterMap Registration.model?).filter (·.validate.isOk)).foldl (addFirst (·.name)) g.models :=
  registerAll_view (·.models) (·.name) Registration.model? (·.validate.isOk) afterCall_models calls g

theorem registerAll_parameters (calls : List Registration) (g : Graph) :
    (g.registerAll calls).parameters =
      ((calls.filterMap Registration.parameter?).filter (·.validate.isOk)).foldl
        (addFirst (·.name)) g.parameters :=
  registerAll_view (·.parameters) (·.name) Registration.parameter? (·.validate.isOk)
    afterCall_parameters calls g

-- ============================================================================
-- The history of the graph-level metrics
-- ============================================================================

theorem metric?_eq_none_iff {g : Graph} {n : String} :
    g.metric? n = none ↔ g.metrics.any (fun y => y.name == n) = false := by
  unfold metric?
  rw [List.find?_eq_none, List.any_eq_false]

theorem isOk_iff {c : Except Error Unit} : c.isOk = true ↔ c = .ok () := by
  cases c <;> simp [Except.isOk, Except.toBool]

/-- Metrics are only ever appended. -/
theorem metrics_prefix_registerAll :
    ∀ (calls : List Registration) (g : Graph), g.metrics <+: (g.registerAll calls).metrics := by
  intro calls
  induction calls with
  | nil => intro g; exact List.prefix_refl _
  | cons r rs ih =>
    intro g
    refine List.IsPrefix.trans ?_ (ih (g.afterCall r))
    rw [afterCall_metrics]
    cases r.metric? with
    | none => exact List.prefix_refl _
    | some m =>
      by_cases h_ok : (g.validateMetric m none).isOk
      · simp only [Option.elim, h_ok, if_true]
        exact prefix_addFirst _ _
      · simp only [Option.elim, h_ok, if_false, Bool.false_eq_true]
        exact List.prefix_refl _

/-- The metrics follow the order of the calls that added them. -/
theorem registerAll_metrics_sublist :
    ∀ (calls : List Registration) (g : Graph),
      List.Sublist (g.registerAll calls).metrics (g.metrics ++ calls.filterMap Registration.metric?) := by
  intro calls
  induction calls with
  | nil =>
    intro g
    rw [List.filterMap_nil, List.append_nil]
    exact List.Sublist.refl _
  | cons r rs ih =>
    intro g
    refine (ih (g.afterCall r)).trans ?_
    rw [afterCall_metrics]
    cases r with
    | metric m =>
      simp only [Registration.metric?, List.filterMap_cons, Option.elim]
      -- the call adds `m` at the end, or nothing
      have h_step : List.Sublist
          (if (g.validateMetric m none).isOk then addFirst (·.name) g.metrics m else g.metrics)
          (g.metrics ++ [m]) := by
        split
        · unfold addFirst
          split
          · exact List.sublist_append_left _ _
          · exact List.Sublist.refl _
        · exact List.sublist_append_left _ _
      simpa using h_step.append_right (rs.filterMap Registration.metric?)
    | model m => simp [Registration.metric?, Option.elim, List.filterMap_cons]
    | parameter p => simp [Registration.metric?, Option.elim, List.filterMap_cons]

/-- Every metric of a run is one the graph had, or one added by a call at which its name was
    new and it passed its check against the graph as it then stood. -/
theorem registerAll_metrics_history :
    ∀ (calls : List Registration) (g : Graph), ∀ x ∈ (g.registerAll calls).metrics,
      x ∈ g.metrics ∨ ∃ pre post, calls = pre ++ .metric x :: post ∧
        (g.registerAll pre).metric? x.name = none ∧
        (g.registerAll pre).validateMetric x none = .ok () := by
  intro calls
  induction calls with
  | nil => intro g x h; exact .inl h
  | cons r rs ih =>
    intro g x h_x
    rcases ih (g.afterCall r) x h_x with h_first | ⟨pre, post, h_calls, h_new, h_valid⟩
    · -- `x` was there after the first call: before it, or added by it
      rw [afterCall_metrics] at h_first
      cases h_r : r with
      | metric m =>
        rw [h_r] at h_first
        simp only [Registration.metric?, Option.elim] at h_first
        split at h_first
        · rename_i h_ok
          rcases mem_addFirst.mp h_first with h_old | ⟨rfl, h_fresh⟩
          · exact .inl h_old
          · exact .inr ⟨[], rs, rfl, metric?_eq_none_iff.mpr h_fresh, isOk_iff.mp h_ok⟩
        · exact .inl h_first
      | model m =>
        rw [h_r] at h_first
        exact .inl h_first
      | parameter p =>
        rw [h_r] at h_first
        exact .inl h_first
    · exact .inr ⟨r :: pre, post, by rw [h_calls]; rfl, h_new, h_valid⟩

/-- A call at which a metric's name is new and the metric passes its check adds it for good. -/
theorem mem_metrics_registerAll {g : Graph} {pre post : List Registration} {x : Metric}
    (h_new : (g.registerAll pre).metric? x.name = none)
    (h_valid : (g.registerAll pre).validateMetric x none = .ok ()) :
    x ∈ (g.registerAll (pre ++ .metric x :: post)).metrics := by
  rw [registerAll_append, registerAll_cons]
  apply (metrics_prefix_registerAll post _).subset
  rw [afterCall_metric, if_pos (isOk_iff.mpr h_valid)]
  exact mem_addFirst.mpr (.inr ⟨rfl, metric?_eq_none_iff.mp h_new⟩)

theorem nodup_metric_names_registerAll :
    ∀ (calls : List Registration) (g : Graph), (g.metrics.map (·.name)).Nodup →
      ((g.registerAll calls).metrics.map (·.name)).Nodup := by
  intro calls g h
  unfold registerAll
  refine foldl_invariant (fun (g : Graph) => (g.metrics.map (·.name)).Nodup) ?_ h
  intro g r _ h_g
  show ((g.afterCall r).metrics.map (·.name)).Nodup
  rw [afterCall_metrics]
  cases r.metric? with
  | none => exact h_g
  | some m =>
    by_cases h_ok : (g.validateMetric m none).isOk
    · simp only [Option.elim, h_ok, if_true]
      exact nodup_addFirst m h_g
    · simp only [Option.elim, h_ok, if_false, Bool.false_eq_true]
      exact h_g

-- ============================================================================
-- The registry after any sequence of calls
-- ============================================================================

/-- What the registry promises once the calls `calls`, made from the empty graph, led to `g`. -/
structure Consistent (calls : List Registration) (g : Graph) : Prop where
  /-- One model, one graph-level metric and one parameter under each name. -/
  models_nodup : (g.models.map (·.name)).Nodup
  metrics_nodup : (g.metrics.map (·.name)).Nodup
  parameters_nodup : (g.parameters.map (·.name)).Nodup
  /-- The models are the valid models of the calls, the first under each name, in the order of
      the calls; looking a name up finds the first valid model of the calls under it. -/
  models_eq : g.models =
    firstByName (·.name) ((calls.filterMap Registration.model?).filter (·.validate.isOk))
  model?_eq : ∀ n, g.model? n =
    ((calls.filterMap Registration.model?).filter (·.validate.isOk)).find? (·.name == n)
  /-- Likewise the parameters. -/
  parameters_eq : g.parameters =
    firstByName (·.name) ((calls.filterMap Registration.parameter?).filter (·.validate.isOk))
  parameter?_eq : ∀ n, g.parameter? n =
    ((calls.filterMap Registration.parameter?).filter (·.validate.isOk)).find? (·.name == n)
  /-- The graph-level metrics are in the order of their calls. Each was added by a call at which
      its name was new and it passed its check against the graph as it then stood, and every
      such call added its metric. -/
  metrics_ordered : List.Sublist g.metrics (calls.filterMap Registration.metric?)
  metrics_checked : ∀ x ∈ g.metrics, ∃ pre post, calls = pre ++ .metric x :: post ∧
    (({} : Graph).registerAll pre).metric? x.name = none ∧
    (({} : Graph).registerAll pre).validateMetric x none = .ok ()
  metrics_complete : ∀ pre x post, calls = pre ++ .metric x :: post →
    (({} : Graph).registerAll pre).metric? x.name = none →
    (({} : Graph).registerAll pre).validateMetric x none = .ok () → x ∈ g.metrics
  /-- A further call under a registered name succeeds without change when its definition is
      equal to the registered one, and is a duplicate otherwise. -/
  registered : ∀ r e, g.lookup r = some e →
    g.register r = if e == r then .ok g else .error (.duplicate r.kind r.name)
  /-- A further call that fails leaves the graph as it was. -/
  failed : ∀ r err, g.register r = .error err → g.afterCall r = g

/-- Whatever calls were made, each possibly failing, the registry keeps one definition under each
    name, the first registered, in the order of registration; a repeated call changes nothing, a
    conflicting one is a duplicate, a failed one leaves the graph as it was, and each definition
    passed its check against the graph it was added to. -/
theorem registerAll_consistent (calls : List Registration) :
    Consistent calls (({} : Graph).registerAll calls) where
  models_nodup := by
    rw [registerAll_models]
    exact nodup_foldl_addFirst _ _ List.nodup_nil
  metrics_nodup := nodup_metric_names_registerAll calls {} List.nodup_nil
  parameters_nodup := by
    rw [registerAll_parameters]
    exact nodup_foldl_addFirst _ _ List.nodup_nil
  models_eq := registerAll_models calls {}
  model?_eq n := by
    unfold model?
    rw [registerAll_models, find?_foldl_addFirst]
    rfl
  parameters_eq := registerAll_parameters calls {}
  parameter?_eq n := by
    unfold parameter?
    rw [registerAll_parameters, find?_foldl_addFirst]
    rfl
  metrics_ordered := registerAll_metrics_sublist calls {}
  metrics_checked x h_x := (registerAll_metrics_history calls {} x h_x).resolve_left List.not_mem_nil
  metrics_complete pre x post h_calls h_new h_valid := h_calls ▸ mem_metrics_registerAll h_new h_valid
  registered _ _ h := register_of_lookup h
  failed _ _ h := afterCall_of_error h

end Graph

end MetricLayer
