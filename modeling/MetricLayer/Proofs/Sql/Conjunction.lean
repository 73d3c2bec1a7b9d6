import MetricLayer.Proofs.Sql.Reading
/-!
# Conditions joined with AND, parentheses read

`Reading` reads the `OR`s and `AND`s of a condition wherever they stand. Here parentheses are
read too. A token's depth is the number of parentheses open before it (`nest`); only the
keywords at depth zero join conditions (`splitTop`); and a conjunct whose comparison is one
parenthesized condition holds as that condition does (`evaluate`, by recursion on the number of
tokens).

A condition *binds as a conjunct* (`Conjunctive`) when its parentheses pair up and no `OR`
stands at depth zero. Conditions that each bind as a conjunct, joined by ` AND `, hold exactly
when every one of them does (`holdsText_intercalate_and`). A condition between parentheses binds
as a conjunct, whatever its `OR`s, and holds as the condition does (`holdsText_paren`).
-/

namespace MetricLayer.Sql

open MetricLayer.Text

/-! ## Depth -/

/-- The number of parentheses open after a token, given the number open before it. -/
def depthAfter (depth : Int) (t : List Char) : Int :=
  if t = ['('] then depth + 1 else if t = [')'] then depth - 1 else depth

/-- Each token with the number of parentheses open before it, `depth` being open at the start. -/
def nest (depth : Int) : List (List Char) → List (Int × List Char)
  | [] => []
  | t :: ts => (depth, t) :: nest (depthAfter depth t) ts

/-- Tokens whose parentheses pair up: no token stands where more have closed than opened, and as
many close as open. -/
def Balanced (ts : List (List Char)) : Prop :=
  (∀ p ∈ nest 0 ts, 0 ≤ p.1) ∧ ts.foldl depthAfter 0 = 0

instance (ts : List (List Char)) : Decidable (Balanced ts) :=
  inferInstanceAs (Decidable (_ ∧ _))

@[simp] theorem length_nest (depth : Int) (ts : List (List Char)) :
    (nest depth ts).length = ts.length := by
  induction ts generalizing depth with
  | nil => rfl
  | cons t ts ih => simp [nest, ih]

@[simp] theorem map_snd_nest (depth : Int) (ts : List (List Char)) :
    (nest depth ts).map Prod.snd = ts := by
  induction ts generalizing depth with
  | nil => rfl
  | cons t ts ih => simp [nest, ih]

theorem nest_append (depth : Int) (xs ys : List (List Char)) :
    nest depth (xs ++ ys) = nest depth xs ++ nest (xs.foldl depthAfter depth) ys := by
  induction xs generalizing depth with
  | nil => rfl
  | cons t ts ih => simp [nest, ih]

theorem depthAfter_add (depth k : Int) (t : List Char) :
    depthAfter (depth + k) t = depthAfter depth t + k := by
  unfold depthAfter
  split
  · omega
  · split <;> omega

theorem foldl_depthAfter_add (depth k : Int) (ts : List (List Char)) :
    ts.foldl depthAfter (depth + k) = ts.foldl depthAfter depth + k := by
  induction ts generalizing depth with
  | nil => rfl
  | cons t ts ih => rw [List.foldl_cons, List.foldl_cons, depthAfter_add, ih]

/-- Starting `k` parentheses deeper puts every token `k` deeper. -/
theorem nest_add (depth k : Int) (ts : List (List Char)) :
    nest (depth + k) ts = (nest depth ts).map fun p => (p.1 + k, p.2) := by
  induction ts generalizing depth with
  | nil => rfl
  | cons t ts ih => rw [nest, nest, depthAfter_add, ih, List.map_cons]

/-! ## Reading with parentheses -/

/-- Whether a token is the keyword `kw` outside every parenthesis. -/
def isTopKeyword (kw : String) (p : Int × List Char) : Bool := p.1 == 0 && isKeyword kw p.2

/-- The parts of the tokens between the keywords `kw` that stand outside every parenthesis. -/
def splitTop (kw : String) (ts : List (List Char)) : List (List (List Char)) :=
  ((nest 0 ts).splitOnP (isTopKeyword kw)).map (·.map Prod.snd)

/-- The parts a list splits into are no longer than the list. -/
theorem length_le_of_mem_splitOnP {α : Type} (p : α → Bool) (xs : List α) :
    ∀ part ∈ xs.splitOnP p, part.length ≤ xs.length := by
  induction xs with
  | nil => simp
  | cons x xs ih =>
    intro part h_part
    rw [List.splitOnP_cons_eq_if_modifyHead] at h_part
    split at h_part
    · rcases List.mem_cons.mp h_part with rfl | h_in
      · simp
      · exact Nat.le_succ_of_le (ih part h_in)
    · obtain ⟨first, rest, h_split⟩ :=
        List.exists_cons_of_ne_nil (List.splitOnP_ne_nil p xs)
      rw [h_split, List.modifyHead_cons] at h_part
      rcases List.mem_cons.mp h_part with rfl | h_in
      · simpa using ih first (h_split ▸ List.mem_cons_self)
      · exact Nat.le_succ_of_le (ih part (h_split ▸ List.mem_cons_of_mem _ h_in))

theorem length_le_of_mem_splitTop {kw : String} {ts part : List (List Char)}
    (h : part ∈ splitTop kw ts) : part.length ≤ ts.length := by
  obtain ⟨annotated, h_mem, rfl⟩ := List.mem_map.mp h
  simpa using length_le_of_mem_splitOnP _ _ annotated h_mem

/-- The tokens inside a pair of parentheses that encloses all the others, with the proof that
they are fewer. -/
def enclosed (ts : List (List Char)) : Option { inner : List (List Char) // inner.length < ts.length } :=
  if h : ts.head? = some ['('] ∧ ts.getLast? = some [')'] ∧ Balanced ts.tail.dropLast then
    some ⟨ts.tail.dropLast, by
      have h_ne : ts ≠ [] := by
        intro h_nil
        simp [h_nil] at h
      have h_len := List.length_pos_iff.mpr h_ne
      simp only [List.length_dropLast, List.length_tail]
      omega⟩
  else none

/-- Whether a token sequence holds when each comparison `a` has the truth value `I a`: one of
its disjuncts, split at the `OR`s outside parentheses, has all its conjuncts, split at the
`AND`s outside parentheses, true. A conjunct is its comparison after its leading `NOT`s, and a
comparison that is one parenthesized condition holds as that condition does. -/
def evaluate (I : List (List Char) → Bool) (ts : List (List Char)) : Bool :=
  (splitTop "OR" ts).attach.any fun d => (splitTop "AND" d.1).attach.all fun c =>
    (conjunct c.1).1 != match enclosed (conjunct c.1).2 with
      | some inner => evaluate I inner.1
      | none => I (conjunct c.1).2
termination_by ts.length
decreasing_by
  -- the enclosed tokens are fewer than the comparison's, which are part of a part of `ts`
  have h_c := length_le_of_mem_splitTop c.2
  have h_d := length_le_of_mem_splitTop d.2
  have h_atom : (conjunct c.1).2.length ≤ c.1.length := (List.dropWhile_suffix _).length_le
  have := inner.2
  omega

/-- Whether a conjunct holds under `I`: its comparison, or the parenthesized condition it is,
negated when the conjunct is. -/
def conjunctHolds (I : List (List Char) → Bool) (c : List (List Char)) : Bool :=
  (conjunct c).1 != match enclosed (conjunct c).2 with
    | some inner => evaluate I inner.1
    | none => I (conjunct c).2

theorem evaluate_eq (I : List (List Char) → Bool) (ts : List (List Char)) :
    evaluate I ts = (splitTop "OR" ts).any fun d => (splitTop "AND" d).all (conjunctHolds I) := by
  rw [evaluate]
  -- the parts are read through their values alone
  conv => rhs; rw [← List.attach_map_subtype_val (splitTop "OR" ts), List.any_map]
  congr 1
  funext d
  conv => rhs; rw [Function.comp_apply, ← List.attach_map_subtype_val (splitTop "AND" d.1),
    List.all_map]
  congr 1
  funext c
  rw [Function.comp_apply, conjunctHolds]
  cases enclosed (conjunct c.1).2 <;> rfl

/-! ## Conditions that bind as conjuncts -/

/-- Tokens that bind at least as tightly as `AND`: their parentheses pair up and no `OR` stands
outside them. -/
structure Conjunctive (ts : List (List Char)) : Prop where
  balanced : Balanced ts
  no_top_or : ∀ p ∈ nest 0 ts, isTopKeyword "OR" p = false

instance (ts : List (List Char)) : Decidable (Conjunctive ts) :=
  decidable_of_iff (Balanced ts ∧ ∀ p ∈ nest 0 ts, isTopKeyword "OR" p = false)
    ⟨fun h => ⟨h.1, h.2⟩, fun h => ⟨h.1, h.2⟩⟩

theorem splitTop_eq_singleton {kw : String} {ts : List (List Char)}
    (h : ∀ p ∈ nest 0 ts, isTopKeyword kw p = false) : splitTop kw ts = [ts] := by
  rw [splitTop, List.splitOnP_eq_singleton h, List.map_singleton, map_snd_nest]

/-- A condition that binds as a conjunct is one disjunct: it holds when its conjuncts do. -/
theorem evaluate_of_conjunctive (I : List (List Char) → Bool) {ts : List (List Char)}
    (h : Conjunctive ts) : evaluate I ts = (splitTop "AND" ts).all (conjunctHolds I) := by
  rw [evaluate_eq, splitTop_eq_singleton h.no_top_or, List.any_cons, List.any_nil, Bool.or_false]

theorem depthAfter_and (depth : Int) : depthAfter depth ['A', 'N', 'D'] = depth := by
  simp [depthAfter]

theorem nest_append_and {xs : List (List Char)} (h_xs : Balanced xs) (ys : List (List Char)) :
    nest 0 (xs ++ ['A', 'N', 'D'] :: ys) = nest 0 xs ++ (0, ['A', 'N', 'D']) :: nest 0 ys := by
  rw [nest_append, h_xs.2, nest, depthAfter_and]

theorem mem_nest_append_and {xs : List (List Char)} (h_xs : Balanced xs) {ys : List (List Char)}
    {p : Int × List Char} (h : p ∈ nest 0 (xs ++ ['A', 'N', 'D'] :: ys)) :
    p ∈ nest 0 xs ∨ p = (0, ['A', 'N', 'D']) ∨ p ∈ nest 0 ys := by
  rw [nest_append_and h_xs] at h
  simpa using h

/-- Two conditions that bind as conjuncts, joined by `AND`, bind as a conjunct. -/
theorem Conjunctive.append_and {xs ys : List (List Char)} (h_xs : Conjunctive xs)
    (h_ys : Conjunctive ys) : Conjunctive (xs ++ ['A', 'N', 'D'] :: ys) := by
  refine ⟨⟨fun p h_p => ?_, ?_⟩, fun p h_p => ?_⟩
  · rcases mem_nest_append_and h_xs.balanced h_p with h_p | rfl | h_p
    · exact h_xs.balanced.1 p h_p
    · exact Int.le_refl 0
    · exact h_ys.balanced.1 p h_p
  · rw [List.foldl_append, List.foldl_cons, h_xs.balanced.2, depthAfter_and, h_ys.balanced.2]
  · rcases mem_nest_append_and h_xs.balanced h_p with h_p | rfl | h_p
    · exact h_xs.no_top_or p h_p
    · decide
    · exact h_ys.no_top_or p h_p

theorem splitTop_append_and {xs : List (List Char)} (h_xs : Balanced xs) (ys : List (List Char)) :
    splitTop "AND" (xs ++ ['A', 'N', 'D'] :: ys) = splitTop "AND" xs ++ splitTop "AND" ys := by
  have h_sep : isTopKeyword "AND" (0, ['A', 'N', 'D']) = true := by decide
  rw [splitTop, nest_append_and h_xs, List.splitOnP_append_cons _ _ h_sep, List.map_append]
  rfl

/-- `AND` between two conditions that bind as conjuncts holds when both do. -/
theorem evaluate_append_and (I : List (List Char) → Bool) {xs ys : List (List Char)}
    (h_xs : Conjunctive xs) (h_ys : Conjunctive ys) :
    evaluate I (xs ++ ['A', 'N', 'D'] :: ys) = (evaluate I xs && evaluate I ys) := by
  rw [evaluate_of_conjunctive I (h_xs.append_and h_ys), splitTop_append_and h_xs.balanced,
    List.all_append, evaluate_of_conjunctive I h_xs, evaluate_of_conjunctive I h_ys]

/-! ## A condition between parentheses -/

theorem depthAfter_open (depth : Int) : depthAfter depth ['('] = depth + 1 := by
  simp [depthAfter]

theorem depthAfter_close (depth : Int) : depthAfter depth [')'] = depth - 1 := by
  simp [depthAfter]

/-- After balanced tokens as many parentheses are open as before them. -/
theorem Balanced.foldl_depthAfter {ts : List (List Char)} (h : Balanced ts) (depth : Int) :
    ts.foldl depthAfter depth = depth := by
  have h_shift := foldl_depthAfter_add 0 depth ts
  rw [h.2, Int.zero_add] at h_shift
  exact h_shift

/-- Inside a pair of parentheses every token stands one deeper than it does alone. -/
theorem nest_paren {ts : List (List Char)} (h : Balanced ts) :
    nest 0 (['('] :: ts ++ [[')']]) =
      (0, ['(']) :: (nest 0 ts).map (fun p => (p.1 + 1, p.2)) ++ [(1, [')'])] := by
  rw [List.cons_append, nest, depthAfter_open, nest_append, h.foldl_depthAfter, ← nest_add]
  rfl

theorem mem_nest_paren {ts : List (List Char)} (h : Balanced ts) {p : Int × List Char}
    (h_p : p ∈ nest 0 (['('] :: ts ++ [[')']])) :
    p = (0, ['(']) ∨ (∃ q ∈ nest 0 ts, p = (q.1 + 1, q.2)) ∨ p = (1, [')']) := by
  rw [nest_paren h] at h_p
  simp only [List.mem_cons, List.mem_append, List.mem_map, List.not_mem_nil, or_false] at h_p
  rcases h_p with (h_open | ⟨q, h_q, rfl⟩) | h_close
  · exact .inl h_open
  · exact .inr (.inl ⟨q, h_q, rfl⟩)
  · exact .inr (.inr h_close)

/-- Between parentheses, only the opening one stands outside them. -/
theorem isTopKeyword_paren {kw : String} (h_kw : isKeyword kw ['('] = false)
    {ts : List (List Char)} (h : Balanced ts) :
    ∀ p ∈ nest 0 (['('] :: ts ++ [[')']]), isTopKeyword kw p = false := by
  intro p h_p
  rcases mem_nest_paren h h_p with rfl | ⟨q, h_q, rfl⟩ | rfl
  · simp [isTopKeyword, h_kw]
  · have h_depth := h.1 q h_q
    simp only [isTopKeyword, Bool.and_eq_false_iff, beq_eq_false_iff_ne]
    left
    omega
  · rfl

theorem Balanced.paren {ts : List (List Char)} (h : Balanced ts) :
    Balanced (['('] :: ts ++ [[')']]) := by
  refine ⟨fun p h_p => ?_, ?_⟩
  · rcases mem_nest_paren h h_p with rfl | ⟨q, h_q, rfl⟩ | rfl
    · exact Int.le_refl 0
    · have h_depth := h.1 q h_q
      dsimp only
      omega
    · decide
  · rw [List.cons_append, List.foldl_cons, List.foldl_append, depthAfter_open, h.foldl_depthAfter,
      List.foldl_cons, List.foldl_nil, depthAfter_close]
    rfl

theorem Conjunctive.paren {ts : List (List Char)} (h : Balanced ts) :
    Conjunctive (['('] :: ts ++ [[')']]) :=
  ⟨h.paren, isTopKeyword_paren (by decide) h⟩

theorem enclosed_paren {ts : List (List Char)} (h : Balanced ts) :
    (enclosed (['('] :: ts ++ [[')']])).map Subtype.val = some ts := by
  have h_last : (['('] :: ts ++ [[')']]).getLast? = some [')'] := by
    rw [List.cons_append, List.getLast?_cons, List.getLast?_append, List.getLast?_singleton]
    rfl
  have h_inner : (['('] :: ts ++ [[')']]).tail.dropLast = ts := by
    rw [List.cons_append, List.tail_cons, List.dropLast_concat]
  have h_cond : (['('] :: ts ++ [[')']]).head? = some ['('] ∧
      (['('] :: ts ++ [[')']]).getLast? = some [')'] ∧
      Balanced (['('] :: ts ++ [[')']]).tail.dropLast := by
    refine ⟨rfl, h_last, ?_⟩
    rw [h_inner]
    exact h
  rw [enclosed, dif_pos h_cond, Option.map_some]
  exact congrArg some h_inner

/-- A conjunct that is not negated and whose comparison encloses `inner` in parentheses holds as
`inner` does. -/
theorem conjunctHolds_of_enclosed (I : List (List Char) → Bool) {c inner : List (List Char)}
    (h_neg : (conjunct c).1 = false)
    (h_enc : (enclosed (conjunct c).2).map Subtype.val = some inner) :
    conjunctHolds I c = evaluate I inner := by
  unfold conjunctHolds
  cases h_e : enclosed (conjunct c).2 with
  | none =>
    rw [h_e] at h_enc
    cases h_enc
  | some e =>
    rw [h_e, Option.map_some] at h_enc
    cases Option.some.inj h_enc
    rw [h_neg, Bool.false_bne]

/-- A condition between parentheses holds as the condition does. -/
theorem evaluate_paren (I : List (List Char) → Bool) {ts : List (List Char)} (h : Balanced ts) :
    evaluate I (['('] :: ts ++ [[')']]) = evaluate I ts := by
  have h_conj : conjunct (['('] :: ts ++ [[')']]) = (false, ['('] :: ts ++ [[')']]) := by
    simp [conjunct, isKeyword]
  have h_enc : (enclosed (conjunct (['('] :: ts ++ [[')']])).2).map Subtype.val = some ts := by
    rw [h_conj]
    exact enclosed_paren h
  rw [evaluate_of_conjunctive I (Conjunctive.paren h),
    splitTop_eq_singleton (isTopKeyword_paren (by decide) h), List.all_cons, List.all_nil,
    Bool.and_true, conjunctHolds_of_enclosed I (by rw [h_conj]) h_enc]

/-! ## Texts -/

/-- Whether a condition's text holds when each comparison `a` has the truth value `I a`. -/
def holdsText (I : List (List Char) → Bool) (s : String) : Bool := evaluate I (tokens s.toList)

/-- A condition's text that leaves no literal open and binds as a conjunct. -/
structure ConjunctiveText (s : String) : Prop where
  closed : Closed s.toList
  conjunctive : Conjunctive (tokens s.toList)

instance (s : String) : Decidable (ConjunctiveText s) :=
  decidable_of_iff (Closed s.toList ∧ Conjunctive (tokens s.toList))
    ⟨fun h => ⟨h.1, h.2⟩, fun h => ⟨h.1, h.2⟩⟩

theorem ConjunctiveText.and {a b : String} (h_a : ConjunctiveText a) (h_b : ConjunctiveText b) :
    ConjunctiveText (a ++ " AND " ++ b) := by
  refine ⟨?_, ?_⟩
  · simp only [String.toList_append]
    exact (h_a.closed.append (by decide)).append h_b.closed
  · rw [tokens_and h_a.closed]
    exact h_a.conjunctive.append_and h_b.conjunctive

theorem holdsText_and (I : List (List Char) → Bool) {a b : String} (h_a : ConjunctiveText a)
    (h_b : ConjunctiveText b) :
    holdsText I (a ++ " AND " ++ b) = (holdsText I a && holdsText I b) := by
  rw [holdsText, tokens_and h_a.closed, evaluate_append_and I h_a.conjunctive h_b.conjunctive]
  rfl

theorem ConjunctiveText.intercalate_and {ss : List String} (h_ne : ss ≠ [])
    (h : ∀ s ∈ ss, ConjunctiveText s) : ConjunctiveText (" AND ".intercalate ss) := by
  induction ss with
  | nil => exact absurd rfl h_ne
  | cons s rest ih =>
    have h_s := h s List.mem_cons_self
    by_cases h_rest : rest = []
    · rw [h_rest, String.intercalate_singleton]
      exact h_s
    · rw [String.intercalate_cons_of_ne_nil h_rest]
      exact h_s.and (ih h_rest fun s' h_s' => h s' (List.mem_cons_of_mem _ h_s'))

/-- Conditions that each bind as a conjunct, joined by ` AND `, hold exactly when every one of
them does. -/
theorem holdsText_intercalate_and (I : List (List Char) → Bool) {ss : List String}
    (h_ne : ss ≠ []) (h : ∀ s ∈ ss, ConjunctiveText s) :
    holdsText I (" AND ".intercalate ss) = ss.all (holdsText I) := by
  induction ss with
  | nil => exact absurd rfl h_ne
  | cons s rest ih =>
    have h_s := h s List.mem_cons_self
    have h_rest_each : ∀ s' ∈ rest, ConjunctiveText s' := fun s' h_s' =>
      h s' (List.mem_cons_of_mem _ h_s')
    by_cases h_rest : rest = []
    · subst h_rest
      rw [String.intercalate_singleton, List.all_cons, List.all_nil, Bool.and_true]
    · rw [String.intercalate_cons_of_ne_nil h_rest,
        holdsText_and I h_s (ConjunctiveText.intercalate_and h_rest h_rest_each),
        ih h_rest h_rest_each, List.all_cons]

theorem toList_paren (t : String) : ("(" ++ t ++ ")").toList = '(' :: t.toList ++ [')'] := by
  simp [String.toList_append]

theorem tokens_paren {t : List Char} (h_t : Closed t) :
    tokens ('(' :: t ++ [')']) = ['('] :: tokens t ++ [[')']] := by
  have h_open : tokens ['('] = [['(']] := by decide
  have h_close : tokens [')'] = [[')']] := by decide
  have h_front : Closed ('(' :: t) := Closed.append (a := ['(']) (by decide) h_t
  rw [tokens_append h_front (.inr (by decide)), h_close,
    show '(' :: t = ['('] ++ t from rfl, tokens_append (by decide) (.inl (by decide)), h_open]
  rfl

/-- A condition between parentheses binds as a conjunct, whatever its `OR`s, when it leaves no
literal open and its parentheses pair up. -/
theorem ConjunctiveText.paren {t : String} (h_closed : Closed t.toList)
    (h_bal : Balanced (tokens t.toList)) : ConjunctiveText ("(" ++ t ++ ")") := by
  refine ⟨?_, ?_⟩
  · rw [toList_paren]
    exact Closed.append (a := '(' :: t.toList) (Closed.append (a := ['(']) (by decide) h_closed)
      (by decide)
  · rw [toList_paren, tokens_paren h_closed]
    exact Conjunctive.paren h_bal

/-- A condition between parentheses holds as the condition does. -/
theorem holdsText_paren (I : List (List Char) → Bool) {t : String} (h_closed : Closed t.toList)
    (h_bal : Balanced (tokens t.toList)) : holdsText I ("(" ++ t ++ ")") = holdsText I t := by
  rw [holdsText, toList_paren, tokens_paren h_closed, evaluate_paren I h_bal]
  rfl

/-! ## Blanks around a condition -/

/-- The literal a text leaves open was opened by a quote. -/
theorem isQuote_of_openAfter {q : Char} (cs : List Char) :
    ∀ {o : Option Char}, (∀ c ∈ o, isQuote c = true) → openAfter o cs = some q →
      isQuote q = true := by
  induction cs with
  | nil =>
    intro o h_o h
    rw [openAfter_nil] at h
    exact h_o q h
  | cons c rest ih =>
    intro o h_o h
    cases o with
    | none =>
      rw [openAfter] at h
      refine ih (fun c' h_c' => ?_) h
      by_cases h_c : isQuote c = true
      · rw [if_pos h_c] at h_c'
        cases h_c'
        exact h_c
      · rw [if_neg h_c] at h_c'
        cases h_c'
    | some q' =>
      rw [openAfter] at h
      refine ih (fun c' h_c' => ?_) h
      by_cases h_c : (c == q') = true
      · rw [if_pos h_c] at h_c'
        cases h_c'
      · rw [if_neg h_c] at h_c'
        exact h_o c' h_c'

/-- Blanks around a text that leave no literal open leave none open inside them either. -/
theorem Closed.of_between {lead t trail : List Char} (h_lead : ∀ c ∈ lead, isBlank c = true)
    (h_trail : ∀ c ∈ trail, isBlank c = true) (h : Closed (lead ++ t ++ trail)) : Closed t := by
  rw [Closed, openAfter_append, openAfter_append, (marks_blanks h_lead).2] at h
  cases h_t : openAfter none t with
  | none => exact h_t
  | some q =>
    have h_q := isQuote_of_openAfter t (fun _ h_c => by cases h_c) h_t
    have h_ne : ∀ c ∈ trail, c ≠ q := by
      intro c h_c h_eq
      have h_blank := h_trail c h_c
      rw [h_eq] at h_blank
      rcases isQuote_eq_true_iff.mp h_q with rfl | rfl <;> simp [isBlank] at h_blank
    rw [h_t, (marks_inside h_ne).2] at h
    cases h

/-- Trimming the blanks around a text that leaves no literal open keeps its tokens. -/
theorem tokens_trimBlank {s : String} (h : Closed s.toList) :
    Closed (trimBlank s).toList ∧ tokens (trimBlank s).toList = tokens s.toList := by
  obtain ⟨lead, trail, h_s, h_lead, h_trail⟩ := trimBlankList_between s.toList
  have h_inner : Closed (trimBlankList s.toList) := Closed.of_between h_lead h_trail (h_s ▸ h)
  rw [trimBlank, String.toList_ofList]
  refine ⟨h_inner, ?_⟩
  conv => rhs; rw [h_s]
  rw [List.append_assoc, tokens_blanks_append h_lead, tokens_append_blanks h_inner h_trail]

end MetricLayer.Sql
