import MetricLayer.Error
/-!
# Outcomes of computations that may fail

Most functions of the library return `Except Error α`. The lemmas here take a successful or
failed outcome apart, so that a proof peels a computation one bind at a time instead of
unfolding it, and carry an invariant through the folds the library computes with.
-/

namespace MetricLayer

/-- A bind succeeds exactly when its first part succeeds and the rest succeeds on its value. -/
theorem Except.bind_eq_ok {ε α β : Type} {x : Except ε α} {f : α → Except ε β} {b : β} :
    x >>= f = .ok b ↔ ∃ a, x = .ok a ∧ f a = .ok b := by
  cases x <;> simp [bind, Except.bind]

/-- A bind succeeds when its first part succeeds with a value from which the rest succeeds. -/
theorem Except.bind_ok_of {ε α β : Type} {x : Except ε α} {f : α → Except ε β} (P : α → Prop)
    (Q : β → Prop) (h_x : ∃ a, x = .ok a ∧ P a) (h_f : ∀ a, P a → ∃ b, f a = .ok b ∧ Q b) :
    ∃ b, x >>= f = .ok b ∧ Q b := by
  obtain ⟨a, rfl, h_a⟩ := h_x
  exact h_f a h_a

/-- Each result of a successful `mapM` is the result of one of the inputs. -/
theorem mapM_ok_of_mem {ε α β : Type} {f : α → Except ε β} {xs : List α} {ys : List β}
    (h : xs.mapM f = .ok ys) : ∀ y ∈ ys, ∃ x ∈ xs, f x = .ok y := by
  induction xs generalizing ys with
  | nil =>
    cases h
    simp
  | cons x xs ih =>
    rw [List.mapM_cons] at h
    obtain ⟨y₀, h_y₀, h_rest⟩ := Except.bind_eq_ok.mp h
    obtain ⟨ys', h_ys', h_done⟩ := Except.bind_eq_ok.mp h_rest
    cases h_done
    intro y h_mem
    rcases List.mem_cons.mp h_mem with rfl | h_in
    · exact ⟨x, List.mem_cons_self, h_y₀⟩
    · obtain ⟨x', h_x', h_f⟩ := ih h_ys' y h_in
      exact ⟨x', List.mem_cons_of_mem _ h_x', h_f⟩

/-- Each input of a successful `mapM` has its result among the results. -/
theorem mapM_ok_of_input {ε α β : Type} {f : α → Except ε β} {xs : List α} {ys : List β}
    (h : xs.mapM f = .ok ys) : ∀ x ∈ xs, ∃ y ∈ ys, f x = .ok y := by
  induction xs generalizing ys with
  | nil => simp
  | cons x xs ih =>
    rw [List.mapM_cons] at h
    obtain ⟨y₀, h_y₀, h_rest⟩ := Except.bind_eq_ok.mp h
    obtain ⟨ys', h_ys', h_done⟩ := Except.bind_eq_ok.mp h_rest
    cases h_done
    intro x' h_mem
    rcases List.mem_cons.mp h_mem with rfl | h_in
    · exact ⟨y₀, List.mem_cons_self, h_y₀⟩
    · obtain ⟨y, h_y, h_f⟩ := ih h_ys' x' h_in
      exact ⟨y, List.mem_cons_of_mem _ h_y, h_f⟩

/-- A successful `mapM` whose results each name their input gives back its inputs. -/
theorem mapM_ok_map {ε α β : Type} {f : α → Except ε β} {g : β → α}
    (h_f : ∀ x y, f x = .ok y → g y = x) :
    ∀ {xs : List α} {ys : List β}, xs.mapM f = .ok ys → ys.map g = xs := by
  intro xs
  induction xs with
  | nil => intro ys h; cases h; rfl
  | cons x xs ih =>
    intro ys h
    rw [List.mapM_cons] at h
    obtain ⟨y, h_y, h_rest⟩ := Except.bind_eq_ok.mp h
    obtain ⟨ys', h_ys', h_done⟩ := Except.bind_eq_ok.mp h_rest
    cases h_done
    rw [List.map_cons, h_f x y h_y, ih h_ys']

/-- What every step of a fold keeps, the fold's result has. -/
theorem foldl_invariant {α β : Type} {f : β → α → β} {xs : List α} {init : β} (P : β → Prop)
    (h_step : ∀ b x, x ∈ xs → P b → P (f b x)) (h_init : P init) : P (xs.foldl f init) := by
  induction xs generalizing init with
  | nil => exact h_init
  | cons x xs ih =>
    rw [List.foldl_cons]
    exact ih (fun b y h_y => h_step b y (List.mem_cons_of_mem _ h_y)) (h_step init x List.mem_cons_self h_init)

/-- What each step of a fold gives the element it is at, when later steps keep it, the fold's
    result has for every element. -/
theorem foldl_keeps {α β : Type} {f : β → α → β} (Q : α → β → Prop)
    (h_step : ∀ b x, Q x (f b x)) (h_keep : ∀ b x y, Q y b → Q y (f b x)) :
    ∀ (xs : List α) (init : β), ∀ x ∈ xs, Q x (xs.foldl f init) := by
  intro xs
  induction xs with
  | nil => simp
  | cons x xs ih =>
    intro init y h_y
    rw [List.foldl_cons]
    rcases List.mem_cons.mp h_y with rfl | h_in
    · exact foldl_invariant (Q y) (fun b z _ h => h_keep b z y h) (h_step init y)
    · exact ih _ y h_in

/-- What every successful step of a `foldlM` keeps, its successful result has. -/
theorem foldlM_ok_invariant {ε α β : Type} {f : β → α → Except ε β} (P : β → Prop)
    (h_step : ∀ b x b', P b → f b x = .ok b' → P b') :
    ∀ (xs : List α) (init r : β), P init → xs.foldlM f init = .ok r → P r := by
  intro xs
  induction xs with
  | nil =>
    intro init r h_init h_run
    cases h_run
    exact h_init
  | cons x xs ih =>
    intro init r h_init h_run
    rw [List.foldlM_cons] at h_run
    obtain ⟨b, h_b, h_rest⟩ := Except.bind_eq_ok.mp h_run
    exact ih b r (h_step init x b h_init h_b) h_rest

/-- What holds after `n` successful steps of a `foldlM` over some of the elements holds after
    all of them, `n` being the number of steps. -/
theorem foldlM_ok_count {ε α β : Type} {f : β → α → Except ε β} (P : Nat → β → Prop) :
    ∀ (xs : List α), (∀ n b x b', x ∈ xs → P n b → f b x = .ok b' → P (n + 1) b') →
      ∀ (n : Nat) (init r : β), P n init → xs.foldlM f init = .ok r → P (n + xs.length) r := by
  intro xs
  induction xs with
  | nil =>
    intro _ n init r h_init h_run
    cases h_run
    exact h_init
  | cons x xs ih =>
    intro h_step n init r h_init h_run
    rw [List.foldlM_cons] at h_run
    obtain ⟨b, h_b, h_rest⟩ := Except.bind_eq_ok.mp h_run
    have h_next := ih (fun n b y b' h_y => h_step n b y b' (List.mem_cons_of_mem _ h_y)) (n + 1) b r
      (h_step n init x b List.mem_cons_self h_init h_b) h_rest
    rwa [List.length_cons, Nat.add_comm xs.length 1, ← Nat.add_assoc]

/-- A `foldlM` whose every step, from a value with `P`, succeeds with a value with `P`, succeeds
    with such a value. -/
theorem foldlM_ok_of_step {ε α β : Type} {f : β → α → Except ε β} (P : β → Prop) :
    ∀ (xs : List α), (∀ b x, x ∈ xs → P b → ∃ b', f b x = .ok b' ∧ P b') →
      ∀ (init : β), P init → ∃ r, xs.foldlM f init = .ok r ∧ P r := by
  intro xs
  induction xs with
  | nil =>
    intro _ init h_init
    exact ⟨init, rfl, h_init⟩
  | cons x xs ih =>
    intro h_step init h_init
    obtain ⟨b, h_b, h_P⟩ := h_step init x List.mem_cons_self h_init
    obtain ⟨r, h_run, h_r⟩ := ih (fun b y h_y => h_step b y (List.mem_cons_of_mem _ h_y)) b h_P
    refine ⟨r, ?_, h_r⟩
    rw [List.foldlM_cons, h_b]
    exact h_run

/-- A fold whose every step appends one item for its element, whatever else it does, ends with
    the items it started with, then one for each element. -/
theorem foldlM_ok_append {ε α β γ : Type} {f : β → α → Except ε β} (items : β → List γ) (g : α → γ)
    (h_step : ∀ b x b', f b x = .ok b' → items b' = items b ++ [g x]) :
    ∀ (xs : List α) (init r : β), xs.foldlM f init = .ok r → items r = items init ++ xs.map g := by
  intro xs
  induction xs with
  | nil =>
    intro init r h_run
    cases h_run
    simp
  | cons x xs ih =>
    intro init r h_run
    rw [List.foldlM_cons] at h_run
    obtain ⟨b, h_b, h_rest⟩ := Except.bind_eq_ok.mp h_run
    rw [ih b r h_rest, h_step init x b h_b, List.map_cons, List.append_assoc, List.singleton_append]

/-- An outcome meets `P` and `Q` when it is a value with `P` or an error with `Q`. -/
def Except.Meets {ε α : Type} (P : α → Prop) (Q : ε → Prop) : Except ε α → Prop
  | .ok a => P a
  | .error e => Q e

@[simp] theorem Except.meets_ok {ε α : Type} {P : α → Prop} {Q : ε → Prop} {a : α} :
    Except.Meets P Q (Except.ok a : Except ε α) ↔ P a := Iff.rfl

@[simp] theorem Except.meets_error {ε α : Type} {P : α → Prop} {Q : ε → Prop} {e : ε} :
    Except.Meets P Q (Except.error e : Except ε α) ↔ Q e := Iff.rfl

theorem Except.Meets.bind {ε α β : Type} {P : α → Prop} {P' : β → Prop} {Q : ε → Prop}
    {x : Except ε α} {f : α → Except ε β} (h_x : Except.Meets P Q x)
    (h_f : ∀ a, P a → Except.Meets P' Q (f a)) : Except.Meets P' Q (x >>= f) := by
  cases x with
  | error e => exact h_x
  | ok a => exact h_f a h_x

theorem Except.Meets.mono {ε α : Type} {P P' : α → Prop} {Q : ε → Prop} {x : Except ε α}
    (h_x : Except.Meets P Q x) (h : ∀ a, P a → P' a) : Except.Meets P' Q x := by
  cases x with
  | error e => exact h_x
  | ok a => exact h a h_x

/-- A `foldlM` meets `I xs` and `Q` when each step, from a value meeting `I` of the elements
before it, meets `I` of those and its own, or fails with `Q`. -/
theorem foldlM_meets {ε α β : Type} {f : β → α → Except ε β} (I : List α → β → Prop)
    (Q : ε → Prop) (xs : List α)
    (h_step : ∀ pre b x, x ∈ xs → I pre b → Except.Meets (I (pre ++ [x])) Q (f b x)) :
    ∀ init, I [] init → Except.Meets (I xs) Q (xs.foldlM f init) := by
  -- carry the elements already folded, as a prefix of `xs`
  suffices h_rest : ∀ (ys pre : List α) (init : β), (∀ x ∈ ys, x ∈ xs) → I pre init →
      Except.Meets (I (pre ++ ys)) Q (ys.foldlM f init) by
    intro init h_init
    simpa using h_rest xs [] init (fun _ h => h) h_init
  intro ys
  induction ys with
  | nil =>
    intro pre init _ h_init
    rw [List.append_nil]
    exact h_init
  | cons y ys ih =>
    intro pre init h_sub h_init
    rw [List.foldlM_cons]
    refine Except.Meets.bind (h_step pre init y (h_sub y List.mem_cons_self) h_init) ?_
    intro b h_b
    have h_tail := ih (pre ++ [y]) b (fun x h_x => h_sub x (List.mem_cons_of_mem y h_x)) h_b
    simpa using h_tail

/-- A thrown error is no result. -/
@[simp] theorem throw_ne_ok {ε α : Type} (e : ε) (a : α) : (throw e : Except ε α) ≠ .ok a := nofun

/-- A computation that starts by throwing has no result. -/
@[simp] theorem throw_bind_ne_ok {ε α β : Type} (e : ε) (f : α → Except ε β) (b : β) :
    (throw e >>= f : Except ε β) ≠ .ok b := nofun

@[simp] theorem throw_map_ne_ok {ε α β : Type} (e : ε) (f : α → β) (b : β) :
    (f <$> throw e : Except ε β) ≠ .ok b := nofun

/-- An outcome is the error its error part names. -/
theorem eq_error_of_errorPart {α : Type} {x : Except Error α} {e : Error}
    (h : (match x with | .error e' => some e' | .ok _ => none) = some e) : x = .error e := by
  cases x <;> simp_all

/-! ## Expected texts

A closed statement that a computation yields a long text is checked by the kernel, which encodes
a text literal by pushing its bytes onto an array one at a time, at a cost that grows with the
square of its length. Joined from its characters one by one, the same text is encoded in linear
time, and the literal is matched against its characters without being encoded at all. -/

/-- A text is its characters joined one by one. -/
theorem String.foldr_singleton_eq_ofList (cs : List Char) :
    cs.foldr (fun c t => String.singleton c ++ t) "" = String.ofList cs := by
  induction cs with
  | nil => rfl
  | cons c cs ih =>
    rw [List.foldr_cons, ih, String.singleton_eq_ofList, ← String.ofList_append]
    rfl

/-- A computation yields a text when it yields the text's characters joined one by one. -/
theorem Option.eq_some_of_chars {x : Option String} {s : String} {cs : List Char}
    (h_chars : String.ofList cs = s)
    (h : x = some (cs.foldr (fun c t => String.singleton c ++ t) "")) : x = some s := by
  rw [← h_chars, ← String.foldr_singleton_eq_ofList]
  exact h

end MetricLayer
