import MetricLayer.Text.Blank
/-!
# How SQL text reads as a condition

A filter is SQL text, and what it means as a condition is what `AND`, `OR` and `NOT` make of its
comparisons, `AND` binding tighter than `OR`. This module reads that structure off the text:

* the text falls into tokens: runs of word characters, quoted literals (from a quote to the same
  quote again, blanks included) and single punctuation characters; a blank outside a literal only
  separates two tokens;
* a token `AND`, `OR` or `NOT`, in any case, is a keyword;
* the tokens between `OR`s make the disjuncts, the tokens of a disjunct between `AND`s its
  conjuncts, and a conjunct is an atom (the tokens of one comparison) after its leading `NOT`s.

A reading holds under a truth value for each atom when one of its disjuncts has all its
conjuncts true (`holds`). Parentheses and `BETWEEN … AND …` are not read: an `AND` is a connective
wherever it stands.

An operand (`Operand`) is a text that leaves no literal open and holds no `AND` or `OR`: placed
between blanks, it joins the comparison it stands in and splits nothing.
-/

namespace MetricLayer.Sql

open MetricLayer.Text

/-! ## Tokens -/

/-- A quote that opens a literal, closed by the same quote. -/
def isQuote (c : Char) : Bool := c == '\'' || c == '"'

theorem isQuote_eq_true_iff {c : Char} : isQuote c = true ↔ c = '\'' ∨ c = '"' := by
  simp [isQuote]

/-- ASCII punctuation, a token of its own. -/
def standsAlone (c : Char) : Bool :=
  c.toNat < 128 && !c.isAlphanum && c != '_' && !isBlank c && !isQuote c

/-- The characters of a text as the tokens take them, starting inside the literal opened by `q`
if any: `some c` for a character of a token and `none` between two tokens. A character that
stands alone has `none` on both sides. -/
def marks : Option Char → List Char → List (Option Char)
  | _, [] => []
  | none, c :: rest =>
    if isQuote c then some c :: marks (some c) rest
    else if isBlank c then none :: marks none rest
    else if standsAlone c then none :: some c :: none :: marks none rest
    else some c :: marks none rest
  | some q, c :: rest => some c :: marks (if c == q then none else some q) rest

/-- The literal left open after a text that starts inside the literal opened by `q`, if any. -/
def openAfter : Option Char → List Char → Option Char
  | q, [] => q
  | none, c :: rest => openAfter (if isQuote c then some c else none) rest
  | some q, c :: rest => openAfter (if c == q then none else some q) rest

/-- The tokens of marked characters: the runs between the gaps. -/
def pieces (ms : List (Option Char)) : List (List Char) :=
  (ms.splitOnP Option.isNone).filterMap fun t => if t = [] then none else some (t.filterMap id)

/-- The tokens of a text. -/
def tokens (cs : List Char) : List (List Char) := pieces (marks none cs)

/-- A text that leaves no literal open. -/
def Closed (cs : List Char) : Prop := openAfter none cs = none

instance (cs : List Char) : Decidable (Closed cs) := inferInstanceAs (Decidable (_ = _))

/-- A text whose tokens end before its last character: it ends in a blank or in punctuation. -/
def EndsApart (cs : List Char) : Prop := (marks none cs).getLast? = some none

/-- A text whose tokens start after its first character: it starts with a blank or with
punctuation. -/
def StartsApart (cs : List Char) : Prop := (marks none cs).head? = some none

instance (cs : List Char) : Decidable (EndsApart cs) := inferInstanceAs (Decidable (_ = _))

instance (cs : List Char) : Decidable (StartsApart cs) := inferInstanceAs (Decidable (_ = _))

@[simp] theorem marks_nil (q : Option Char) : marks q [] = [] := by
  cases q <;> rfl

@[simp] theorem openAfter_nil (q : Option Char) : openAfter q [] = q := by
  cases q <;> rfl

theorem marks_append (q : Option Char) (a b : List Char) :
    marks q (a ++ b) = marks q a ++ marks (openAfter q a) b := by
  induction a generalizing q with
  | nil => simp
  | cons c rest ih =>
    cases q with
    | none =>
      simp only [List.cons_append, marks, openAfter]
      by_cases h_quote : isQuote c <;> by_cases h_blank : isBlank c <;>
        by_cases h_alone : standsAlone c <;> simp [h_quote, h_blank, h_alone, ih]
    | some q => simp [marks, openAfter, ih]

theorem openAfter_append (q : Option Char) (a b : List Char) :
    openAfter q (a ++ b) = openAfter (openAfter q a) b := by
  induction a generalizing q with
  | nil => simp
  | cons c rest ih => cases q <;> simp [openAfter, ih]

theorem Closed.append {a b : List Char} (h_a : Closed a) (h_b : Closed b) : Closed (a ++ b) := by
  rw [Closed, openAfter_append, h_a, h_b]

/-! ### Tokens across a gap -/

@[simp] theorem pieces_nil : pieces [] = [] := rfl

theorem pieces_append_gap (xs ys : List (Option Char)) :
    pieces (xs ++ none :: ys) = pieces xs ++ pieces ys := by
  rw [pieces, List.splitOnP_append_cons xs ys rfl, List.filterMap_append, pieces, pieces]

theorem pieces_gap_cons (ys : List (Option Char)) : pieces (none :: ys) = pieces ys := by
  simpa using pieces_append_gap [] ys

theorem pieces_append_gap_end (xs : List (Option Char)) : pieces (xs ++ [none]) = pieces xs := by
  simpa using pieces_append_gap xs []

/-- Marked characters with no gap make one token. -/
theorem pieces_of_forall_isSome {xs : List (Option Char)} (h_ne : xs ≠ [])
    (h : ∀ x ∈ xs, x.isSome = true) : pieces xs = [xs.filterMap id] := by
  have h_split : xs.splitOnP Option.isNone = [xs] :=
    List.splitOnP_eq_singleton fun x h_x => by simpa [Option.isNone_iff_eq_none] using h x h_x
  simp [pieces, h_split, h_ne]

/-- A closed text and the text after it keep their tokens apart when a gap falls between them. -/
theorem tokens_append {a b : List Char} (h_a : Closed a) (h : EndsApart a ∨ StartsApart b) :
    tokens (a ++ b) = tokens a ++ tokens b := by
  have h_marks : marks none (a ++ b) = marks none a ++ marks none b := by
    rw [marks_append, h_a]
  rw [tokens, tokens, tokens, h_marks]
  rcases h with h_end | h_start
  · obtain ⟨xs, h_xs⟩ := List.getLast?_eq_some_iff.mp h_end
    rw [h_xs, List.append_assoc, List.singleton_append, pieces_append_gap, pieces_append_gap_end]
  · obtain ⟨ys, h_ys⟩ := List.head?_eq_some_iff.mp h_start
    rw [h_ys, pieces_append_gap, pieces_gap_cons]

theorem EndsApart.append {a b : List Char} (h_a : Closed a) (h_b : EndsApart b) :
    EndsApart (a ++ b) := by
  rw [EndsApart, marks_append, h_a, List.getLast?_append, h_b]
  rfl

theorem StartsApart.append {a b : List Char} (h_a : StartsApart a) : StartsApart (a ++ b) := by
  rw [StartsApart, marks_append, List.head?_append]
  simp [StartsApart] at h_a
  simp [h_a]

/-- Blanks outside a literal are gaps. -/
theorem marks_blanks {bs : List Char} (h : ∀ c ∈ bs, isBlank c = true) :
    marks none bs = bs.map (fun _ => none) ∧ Closed bs := by
  induction bs with
  | nil => exact ⟨rfl, rfl⟩
  | cons c rest ih =>
    obtain ⟨h_c, h_rest⟩ := List.forall_mem_cons.mp h
    have h_quote : isQuote c = false := by
      refine Bool.eq_false_iff.mpr fun h_q => ?_
      rcases isQuote_eq_true_iff.mp h_q with rfl | rfl <;> simp [isBlank] at h_c
    obtain ⟨h_marks, h_closed⟩ := ih h_rest
    exact ⟨by simp [marks, h_quote, h_c, h_marks], by simpa [Closed, openAfter, h_quote] using h_closed⟩

theorem pieces_gaps_append (n : Nat) (ys : List (Option Char)) :
    pieces (List.replicate n none ++ ys) = pieces ys := by
  induction n with
  | zero => rfl
  | succ n ih => rw [List.replicate_succ, List.cons_append, pieces_gap_cons, ih]

theorem pieces_append_gaps (xs : List (Option Char)) (n : Nat) :
    pieces (xs ++ List.replicate n none) = pieces xs := by
  induction n with
  | zero => simp
  | succ n ih =>
    rw [List.replicate_succ', ← List.append_assoc, pieces_append_gap_end, ih]

/-- Blanks before a text add no token. -/
theorem tokens_blanks_append {bs : List Char} (h : ∀ c ∈ bs, isBlank c = true) (cs : List Char) :
    tokens (bs ++ cs) = tokens cs := by
  obtain ⟨h_marks, h_closed⟩ := marks_blanks h
  rw [tokens, marks_append, h_closed, h_marks, List.map_const', pieces_gaps_append, tokens]

/-- Blanks after a closed text add no token. -/
theorem tokens_append_blanks {cs bs : List Char} (h_cs : Closed cs) (h : ∀ c ∈ bs, isBlank c = true) :
    tokens (cs ++ bs) = tokens cs := by
  obtain ⟨h_marks, -⟩ := marks_blanks h
  rw [tokens, marks_append, h_cs, h_marks, List.map_const', pieces_append_gaps, tokens]

/-- Inside the literal opened by `q`, every character up to its closing quote is marked. -/
theorem marks_inside {q : Char} {t : List Char} (h : ∀ c ∈ t, c ≠ q) :
    marks (some q) t = t.map some ∧ openAfter (some q) t = some q := by
  induction t with
  | nil => simp
  | cons c rest ih =>
    obtain ⟨h_c, h_rest⟩ := List.forall_mem_cons.mp h
    have h_ne : (c == q) = false := beq_false_of_ne h_c
    simp [marks, openAfter, h_ne, ih h_rest]

/-- A text is its leading blanks, its trimmed text and its trailing blanks. -/
theorem trimBlankList_between (cs : List Char) :
    ∃ lead trail, cs = lead ++ trimBlankList cs ++ trail ∧ (∀ c ∈ lead, isBlank c = true) ∧
      ∀ c ∈ trail, isBlank c = true := by
  refine ⟨cs.takeWhile isBlank, ((cs.dropWhile isBlank).reverse.takeWhile isBlank).reverse, ?_,
    fun c h_c => List.all_eq_true.mp List.all_takeWhile c h_c,
    fun c h_c => List.all_eq_true.mp List.all_takeWhile c (List.mem_reverse.mp h_c)⟩
  calc cs = cs.takeWhile isBlank ++ cs.dropWhile isBlank := (List.takeWhile_append_dropWhile).symm
    _ = cs.takeWhile isBlank ++ ((cs.dropWhile isBlank).reverse.takeWhile isBlank ++
        (cs.dropWhile isBlank).reverse.dropWhile isBlank).reverse := by
      conv => rhs; rw [List.takeWhile_append_dropWhile, List.reverse_reverse]
    _ = _ := by rw [List.reverse_append, trimBlankList, List.append_assoc]

/-- Two conditions joined by `AND` read as the first's tokens, the keyword and the second's. -/
theorem tokens_and {a b : String} (h_a : Closed a.toList) :
    tokens (a ++ " AND " ++ b).toList = tokens a.toList ++ ['A', 'N', 'D'] :: tokens b.toList := by
  simp only [String.toList_append]
  have h_and : tokens " AND ".toList = [['A', 'N', 'D']] := by decide
  rw [tokens_append (h_a.append (by decide)) (.inl (EndsApart.append h_a (by decide))),
    tokens_append h_a (.inr (by decide)), h_and]
  simp

/-! ## Operands -/

/-- Whether a token is the keyword `kw`, written in upper case, in any case. -/
def isKeyword (kw : String) (t : List Char) : Bool := t.map Char.toUpper == kw.toList

/-- Whether a token joins two conditions: `AND` or `OR`. -/
def isConnective (t : List Char) : Bool := isKeyword "AND" t || isKeyword "OR" t

/-- A text that reads as one operand: it leaves no literal open and none of its tokens joins
two conditions. -/
structure Operand (cs : List Char) : Prop where
  closed : Closed cs
  no_connective : ∀ t ∈ tokens cs, isConnective t = false

instance (cs : List Char) : Decidable (Operand cs) :=
  decidable_of_iff (Closed cs ∧ ∀ t ∈ tokens cs, isConnective t = false)
    ⟨fun h => ⟨h.1, h.2⟩, fun h => ⟨h.1, h.2⟩⟩

theorem Operand.append {a b : List Char} (h_a : Operand a) (h_b : Operand b)
    (h : EndsApart a ∨ StartsApart b) : Operand (a ++ b) := by
  refine ⟨h_a.closed.append h_b.closed, ?_⟩
  rw [tokens_append h_a.closed h]
  intro t h_t
  rcases List.mem_append.mp h_t with h_t | h_t
  · exact h_a.no_connective t h_t
  · exact h_b.no_connective t h_t

/-- An operand between a text that ends apart and one that starts apart. -/
theorem Operand.wrap {a e b : List Char} (h_a : Operand a) (h_ae : EndsApart a) (h_e : Operand e)
    (h_b : Operand b) (h_bs : StartsApart b) : Operand (a ++ e ++ b) :=
  (h_a.append h_e (.inl h_ae)).append h_b (.inr h_bs)

/-- Two operands with a separator between them that is apart from both. -/
theorem Operand.join {a s b : List Char} (h_a : Operand a) (h_s : Operand s) (h_ss : StartsApart s)
    (h_se : EndsApart s) (h_b : Operand b) : Operand (a ++ s ++ b) :=
  (h_a.append h_s (.inr h_ss)).append h_b (.inl (EndsApart.append h_a.closed h_se))

/-- A quoted literal is one token, and no keyword. -/
theorem tokens_quoted {q : Char} {t : List Char} (h : ∀ c ∈ t, c ≠ q) (h_q : isQuote q = true) :
    tokens (q :: t ++ [q]) = [q :: t ++ [q]] ∧ Closed (q :: t ++ [q]) := by
  obtain ⟨h_marks, h_open⟩ := marks_inside h
  have h_all : marks none (q :: t ++ [q]) = (q :: t ++ [q]).map some := by
    simp [marks, h_q, marks_append, h_marks, h_open]
  refine ⟨?_, ?_⟩
  · have h_some : ∀ x ∈ (q :: t ++ [q]).map some, x.isSome = true := by
      intro x h_x
      obtain ⟨c, -, rfl⟩ := List.mem_map.mp h_x
      rfl
    rw [tokens, h_all, pieces_of_forall_isSome (by simp) h_some]
    simp [List.filterMap_map]
  · simp [Closed, openAfter, h_q, openAfter_append, h_open]

theorem isConnective_quoted {q : Char} (h_q : isQuote q = true) (t : List Char) :
    isConnective (q :: t) = false := by
  rcases isQuote_eq_true_iff.mp h_q with rfl | rfl <;> simp [isConnective, isKeyword]

theorem Operand.quoted {q : Char} {t : List Char} (h : ∀ c ∈ t, c ≠ q) (h_q : isQuote q = true) :
    Operand (q :: t ++ [q]) := by
  obtain ⟨h_tokens, h_closed⟩ := tokens_quoted h h_q
  refine ⟨h_closed, ?_⟩
  rw [h_tokens]
  intro w h_w
  rw [List.mem_singleton.mp h_w, List.cons_append]
  exact isConnective_quoted h_q _

/-! ## Reading a condition -/

/-- A conjunct: `true` after an odd number of leading `NOT`s, and the atom after them. -/
def conjunct (ts : List (List Char)) : Bool × List (List Char) :=
  ((ts.takeWhile (isKeyword "NOT")).length % 2 == 1, ts.dropWhile (isKeyword "NOT"))

/-- The reading of a token sequence: its disjuncts, split at `OR`, each a list of conjuncts, split
at `AND`. -/
def readTokens (ts : List (List Char)) : List (List (Bool × List (List Char))) :=
  (ts.splitOnP (isKeyword "OR")).map fun d => (d.splitOnP (isKeyword "AND")).map conjunct

/-- The reading of a text. -/
def reading (cs : List Char) : List (List (Bool × List (List Char))) := readTokens (tokens cs)

/-- Whether a reading holds when each atom `a` has the truth value `I a`; a conjunct holds when
its atom's value differs from its negation flag. -/
def holds (I : List (List Char) → Bool) (D : List (List (Bool × List (List Char)))) : Bool :=
  D.any fun c => c.all fun l => l.1 != I l.2

/-- The conjunct a reading ends with: for a condition that ends in a comparison, whether it is
negated, and the comparison's tokens. -/
def lastConjunct (D : List (List (Bool × List (List Char)))) : Bool × List (List Char) :=
  (D.getLast?.bind List.getLast?).getD (false, [])

theorem isConnective_eq_false {t : List Char} :
    isConnective t = false ↔ isKeyword "AND" t = false ∧ isKeyword "OR" t = false := by
  simp [isConnective]

/-- Tokens that continue the comparison before them: no connective, and no `NOT` first. -/
structure Continues (u : List (List Char)) : Prop where
  no_connective : ∀ t ∈ u, isConnective t = false
  no_negation : ∀ t ∈ u.head?, isKeyword "NOT" t = false

theorem Continues.append {u v : List (List Char)} (h_u : Continues u) (h_ne : u ≠ [])
    (h_v : ∀ t ∈ v, isConnective t = false) : Continues (u ++ v) := by
  refine ⟨fun t h_t => ?_, fun t h_t => ?_⟩
  · rcases List.mem_append.mp h_t with h_t | h_t
    · exact h_u.no_connective t h_t
    · exact h_v t h_t
  · cases u with
    | nil => exact absurd rfl h_ne
    | cons x xs => exact h_u.no_negation t (by simpa using h_t)

/-- Elements that never split extend the last part. -/
theorem splitOnP_append_of_forall {α : Type} (p : α → Bool) (xs : List α) :
    ∃ init last, xs.splitOnP p = init ++ [last] ∧
      ∀ ys, (∀ y ∈ ys, p y = false) → (xs ++ ys).splitOnP p = init ++ [last ++ ys] := by
  induction xs with
  | nil => exact ⟨[], [], rfl, fun ys h_ys => by simp [List.splitOnP_eq_singleton h_ys]⟩
  | cons x xs ih =>
    obtain ⟨init, last, h_xs, h_ys⟩ := ih
    by_cases h_x : p x = true
    · exact ⟨[] :: init, last, by simp [List.splitOnP_cons_eq_if_modifyHead, h_x, h_xs],
        fun ys h => by simp [List.splitOnP_cons_eq_if_modifyHead, h_x, h_ys ys h]⟩
    · cases init with
      | nil =>
        exact ⟨[], x :: last, by simp [List.splitOnP_cons_eq_if_modifyHead, h_x, h_xs],
          fun ys h => by simp [List.splitOnP_cons_eq_if_modifyHead, h_x, h_ys ys h]⟩
      | cons i is =>
        exact ⟨(x :: i) :: is, last, by simp [List.splitOnP_cons_eq_if_modifyHead, h_x, h_xs],
          fun ys h => by simp [List.splitOnP_cons_eq_if_modifyHead, h_x, h_ys ys h]⟩

theorem takeWhile_dropWhile_append (ts : List (List Char)) {u : List (List Char)} (h : Continues u) :
    (ts ++ u).takeWhile (isKeyword "NOT") = ts.takeWhile (isKeyword "NOT") ∧
      (ts ++ u).dropWhile (isKeyword "NOT") = ts.dropWhile (isKeyword "NOT") ++ u := by
  induction ts with
  | nil =>
    cases u with
    | nil => simp
    | cons t rest => simp [h.no_negation t rfl]
  | cons t ts ih => by_cases h_t : isKeyword "NOT" t = true <;> simp [h_t, ih]

theorem conjunct_append {ts u : List (List Char)} (h : Continues u) :
    conjunct (ts ++ u) = ((conjunct ts).1, (conjunct ts).2 ++ u) := by
  obtain ⟨h_take, h_drop⟩ := takeWhile_dropWhile_append ts h
  simp [conjunct, h_take, h_drop]

/-- The reading of a token sequence ends in a conjunct, and tokens that continue it extend that
conjunct's atom and leave the rest of the reading alone. -/
theorem readTokens_append (ts : List (List Char)) :
    ∃ pre mid l, readTokens ts = pre ++ [mid ++ [l]] ∧
      ∀ u, Continues u → readTokens (ts ++ u) = pre ++ [mid ++ [(l.1, l.2 ++ u)]] := by
  obtain ⟨D, dl, h_D, h_D'⟩ := splitOnP_append_of_forall (isKeyword "OR") ts
  obtain ⟨C, cl, h_C, h_C'⟩ := splitOnP_append_of_forall (isKeyword "AND") dl
  refine ⟨D.map fun d => (d.splitOnP (isKeyword "AND")).map conjunct, C.map conjunct, conjunct cl,
    by simp [readTokens, h_D, h_C], fun u h_u => ?_⟩
  have h_or : ∀ t ∈ u, isKeyword "OR" t = false := fun t h_t =>
    (isConnective_eq_false.mp (h_u.no_connective t h_t)).2
  have h_and : ∀ t ∈ u, isKeyword "AND" t = false := fun t h_t =>
    (isConnective_eq_false.mp (h_u.no_connective t h_t)).1
  simp [readTokens, h_D' u h_or, h_C' u h_and, conjunct_append h_u]

theorem lastConjunct_append {ts u : List (List Char)} (h : Continues u) :
    lastConjunct (readTokens (ts ++ u)) =
      ((lastConjunct (readTokens ts)).1, (lastConjunct (readTokens ts)).2 ++ u) := by
  obtain ⟨pre, mid, l, h_ts, h_app⟩ := readTokens_append ts
  simp [lastConjunct, h_ts, h_app u h]

/-- Two conditions that share their beginning and differ in how their last comparison goes on
hold alike when the two last comparisons do. -/
theorem holds_append_congr (I : List (List Char) → Bool) {ts u v : List (List Char)}
    (h_u : Continues u) (h_v : Continues v)
    (h_I : I ((lastConjunct (readTokens ts)).2 ++ u) = I ((lastConjunct (readTokens ts)).2 ++ v)) :
    holds I (readTokens (ts ++ u)) = holds I (readTokens (ts ++ v)) := by
  obtain ⟨pre, mid, l, h_ts, h_app⟩ := readTokens_append ts
  have h_l : lastConjunct (readTokens ts) = l := by simp [lastConjunct, h_ts]
  rw [h_l] at h_I
  simp [holds, h_app u h_u, h_app v h_v, h_I]

/-- `AND` between two conditions with no `OR` holds when both do. -/
theorem holds_and (I : List (List Char) → Bool) {x y : List (List Char)}
    (h_x : ∀ t ∈ x, isKeyword "OR" t = false) (h_y : ∀ t ∈ y, isKeyword "OR" t = false) :
    holds I (readTokens (x ++ ['A', 'N', 'D'] :: y)) =
      (holds I (readTokens x) && holds I (readTokens y)) := by
  have h_and : isKeyword "AND" ['A', 'N', 'D'] = true := by decide
  have h_not_or : isKeyword "OR" ['A', 'N', 'D'] = false := by decide
  have h_all : ∀ t ∈ x ++ ['A', 'N', 'D'] :: y, isKeyword "OR" t = false := by
    simp only [List.mem_append, List.mem_cons]
    rintro t (h_t | rfl | h_t)
    · exact h_x t h_t
    · exact h_not_or
    · exact h_y t h_t
  simp [readTokens, holds, List.splitOnP_eq_singleton h_all, List.splitOnP_eq_singleton h_x,
    List.splitOnP_eq_singleton h_y, List.splitOnP_append_cons x y h_and]

/-- A condition with no `OR` whose last comparison is not negated, written twice around `AND`
with two endings of that comparison, holds as it does with one ending that means both. -/
theorem holds_repeated_and (I : List (List Char) → Bool) {ts u v w : List (List Char)}
    (h_ts : ∀ t ∈ ts, isKeyword "OR" t = false) (h_neg : (lastConjunct (readTokens ts)).1 = false)
    (h_u : Continues u) (h_v : Continues v) (h_w : Continues w)
    (h_I : I ((lastConjunct (readTokens ts)).2 ++ u) =
      (I ((lastConjunct (readTokens ts)).2 ++ v) && I ((lastConjunct (readTokens ts)).2 ++ w))) :
    holds I (readTokens (ts ++ v ++ ['A', 'N', 'D'] :: (ts ++ w))) = holds I (readTokens (ts ++ u)) := by
  obtain ⟨pre, mid, l, h_read, h_app⟩ := readTokens_append ts
  have h_pre : pre = [] := by
    have h_one := congrArg List.length h_read
    simpa [readTokens, List.splitOnP_eq_singleton h_ts] using h_one
  have h_l : lastConjunct (readTokens ts) = l := by simp [lastConjunct, h_read]
  rw [h_l] at h_neg h_I
  have h_no_or : ∀ x, (∀ t ∈ x, isConnective t = false) → ∀ t ∈ ts ++ x, isKeyword "OR" t = false := by
    intro x h_x t h_t
    rcases List.mem_append.mp h_t with h_t | h_t
    · exact h_ts t h_t
    · exact (isConnective_eq_false.mp (h_x t h_t)).2
  rw [holds_and I (h_no_or v h_v.no_connective) (h_no_or w h_w.no_connective)]
  simp [holds, h_app u h_u, h_app v h_v, h_app w h_w, h_pre, h_neg, h_I]
  cases (mid.all fun l => l.1 != I l.2) <;> cases I (l.2 ++ v) <;> cases I (l.2 ++ w) <;> rfl

end MetricLayer.Sql
