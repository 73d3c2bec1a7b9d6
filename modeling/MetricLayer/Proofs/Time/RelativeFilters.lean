import MetricLayer.Proofs.Sql.Reading
import MetricLayer.Time.Relative
import MetricLayer.Proofs.Params.Interpolation
/-!
# Relative dates in filters keep the filter's meaning

`expandRelativeDates` rewrites a filter whose last comparison compares a column with a quoted
relative-date phrase (`created_at = 'this month'`) into comparisons with date expressions. The
phrase stands for comparisons with bounds (`RelativeDate.comparisons`): the first day for `>=`
and `>`, and for `=` the range, from the first day to the end of the period. The rewrite writes
the column text before the operator in front of each, joining two with `AND`.

Read as a condition (`MetricLayer.Sql.reading`), the rewritten filter holds exactly when the
filter does, under every truth value of the comparisons in which the phrase's comparison means
all the comparisons written for it (`expandRelativeDates_keeps_meaning`). For one comparison,
because each date expression is an operand: it leaves no literal open and holds no `AND` or
`OR`, so the new comparison takes the place of the old one. For two, the column text is written
twice, and that keeps the meaning only when the text has no `OR` and does not negate its last
comparison; after an `OR` the range does not bind the column (`thisMonth_after_or_changes_meaning`).
-/

namespace MetricLayer

open MetricLayer.Sql MetricLayer.Text

/-! ## Date expressions are operands -/

theorem isBlank_eq_false_of_isAlphanum {c : Char} (h : c.isAlphanum = true) : isBlank c = false := by
  simp only [Char.isAlphanum, Char.isAlpha, Char.isUpper, Char.isLower, Char.isDigit,
    Bool.or_eq_true, Bool.and_eq_true, decide_eq_true_eq, UInt32.le_iff_toNat_le, Char.toNat_val,
    Char.reduceToNat] at h
  simp [isBlank]
  omega

/-- A run of letters and digits is one token and leaves no literal open. -/
theorem tokens_alphanum {w : List Char} (h : ∀ c ∈ w, c.isAlphanum = true) :
    marks none w = w.map some ∧ Closed w := by
  induction w with
  | nil => exact ⟨rfl, rfl⟩
  | cons c rest ih =>
    obtain ⟨h_c, h_rest⟩ := List.forall_mem_cons.mp h
    have h_quote : isQuote c = false := by
      refine Bool.eq_false_iff.mpr fun h_q => ?_
      rcases isQuote_eq_true_iff.mp h_q with rfl | rfl <;> simp at h_c
    have h_alone : standsAlone c = false := by simp [standsAlone, h_c]
    obtain ⟨h_marks, h_closed⟩ := ih h_rest
    refine ⟨?_, ?_⟩
    · simp [marks, h_quote, isBlank_eq_false_of_isAlphanum h_c, h_alone, h_marks]
    · simpa [Closed, openAfter, h_quote] using h_closed

/-- Digits are one token, and an operand. -/
theorem Operand.digits {ds : List Char} (h : Decimal.Digits ds) : Operand ds := by
  have h_alnum : ∀ c ∈ ds, c.isAlphanum = true := fun c h_c => by
    simp [Char.isAlphanum, h.2 c h_c]
  obtain ⟨h_marks, h_closed⟩ := tokens_alphanum h_alnum
  have h_some : ∀ x ∈ ds.map some, x.isSome = true := by
    intro x h_x
    obtain ⟨c, -, rfl⟩ := List.mem_map.mp h_x
    rfl
  obtain ⟨c, rest, rfl⟩ := List.exists_cons_of_ne_nil h.1
  have h_digit : c.isDigit = true := h.2 c (List.mem_cons_self)
  refine ⟨h_closed, ?_⟩
  rw [tokens, h_marks, pieces_of_forall_isSome (by simp) h_some]
  simp only [List.filterMap_map, List.mem_singleton]
  rintro t rfl
  simp only [Char.isDigit, Bool.and_eq_true, decide_eq_true_eq, UInt32.le_iff_toNat_le,
    Char.toNat_val, Char.reduceToNat] at h_digit
  have h_upper : c.toUpper = c := by
    simp [Char.toUpper, UInt32.le_iff_toNat_le]
    omega
  simp [isConnective, isKeyword, h_upper]
  constructor <;> intro h_eq <;> rw [h_eq] at h_digit <;> simp at h_digit

theorem Operand.intText (n : Int) : Operand (toString n).toList := by
  cases n with
  | ofNat m =>
    have h : (toString (Int.ofNat m)).toList = (Nat.repr m).toList := by simp [toString, Int.repr]
    rw [h]
    exact Operand.digits (Decimal.digits_repr m)
  | negSucc m =>
    have h : (toString (Int.negSucc m)).toList = ['-'] ++ (Nat.repr (m + 1)).toList := by
      simp [toString, Int.repr]
    rw [h]
    exact Operand.append (by decide) (Operand.digits (Decimal.digits_repr (m + 1))) (.inl (by decide))

theorem intText_chars (n : Int) : ∀ c ∈ (toString n).toList, c.isDigit = true ∨ c = '-' := by
  cases n with
  | ofNat m =>
    intro c h_c
    have h : (toString (Int.ofNat m)).toList = (Nat.repr m).toList := by simp [toString, Int.repr]
    rw [h] at h_c
    exact .inl ((Decimal.digits_repr m).2 c h_c)
  | negSucc m =>
    intro c h_c
    have h : (toString (Int.negSucc m)).toList = '-' :: (Nat.repr (m + 1)).toList := by
      simp [toString, Int.repr]
    rw [h] at h_c
    rcases List.mem_cons.mp h_c with rfl | h_c
    · exact .inr rfl
    · exact .inl ((Decimal.digits_repr (m + 1)).2 c h_c)

theorem operand_currentDate (d : Dialect) : Operand d.currentDate.toList := by
  cases d <;> decide

/-- The texts a unit name is written as: an operand in lower and in upper case, with no quote. -/
theorem TimeUnit.name_texts (u : TimeUnit) :
    Operand (toLowerText u.name).toList ∧ Operand (toUpperText u.name).toList ∧
      ∀ c ∈ (toLowerText u.name).toList, c ≠ '\'' := by
  cases u <;> simp [TimeUnit.name, toLowerText, toUpperText, lowerList, lowerChars, upperChars] <;>
    decide

theorem operand_dateTrunc (d : Dialect) (u : TimeUnit) {e : String} (h_e : Operand e.toList) :
    Operand (d.dateTrunc u.name e).toList := by
  cases d with
  | mysql =>
    cases u <;> simp only [Dialect.dateTrunc, Dialect.mysqlTrunc, TimeUnit.name, String.reduceBEq,
      Bool.false_eq_true, ↓reduceIte, String.toList_append]
    case day | month | year => exact Operand.wrap (by decide) (by decide) h_e (by decide) (by decide)
    -- a week and a quarter read the date twice
    all_goals
      refine Operand.wrap ?_ ?_ h_e (by decide) (by decide)
      · exact Operand.wrap (by decide) (by decide) h_e (by decide) (by decide)
      · exact EndsApart.append (Operand.append (by decide) h_e (.inl (by decide))).closed (by decide)
  | bigquery =>
    cases u <;> simp only [Dialect.dateTrunc, TimeUnit.name, String.reduceBEq, Bool.false_eq_true,
      ↓reduceIte, String.toList_append]
    -- the grain follows the date, in upper case
    all_goals
      refine (Operand.append ?_ (by decide) (.inl ?_)).append (by decide) (.inr (by decide))
      · exact Operand.wrap (by decide) (by decide) h_e (by decide) (by decide)
      · exact EndsApart.append (Operand.append (by decide) h_e (.inl (by decide))).closed (by decide)
  | _ =>
    cases u <;> simp only [Dialect.dateTrunc, TimeUnit.name, String.toList_append] <;>
    exact Operand.wrap (by decide) (by decide) h_e (by decide) (by decide)

theorem operand_keywordInterval (n : Int) {unit : String} (h_U : Operand (toUpperText unit).toList) :
    Operand (Dialect.keywordInterval n unit).toList := by
  simp only [Dialect.keywordInterval, String.toList_append]
  exact Operand.join (Operand.append (by decide) (Operand.intText n) (.inl (by decide))) (by decide)
    (by decide) (by decide) h_U

/-- `INTERVAL '3 months'` is two tokens: the keyword and one literal. -/
theorem operand_quotedInterval {n : Int} {unit i : String}
    (h_L : ∀ c ∈ (toLowerText unit).toList, c ≠ '\'') (h : Dialect.quotedInterval n unit = .ok i) :
    Operand i.toList := by
  obtain ⟨a, -, h_i⟩ := Except.bind_eq_ok.mp h
  simp only [pure, Except.pure, Except.ok.injEq] at h_i
  subst h_i
  have h_n : ∀ c ∈ (toString n).toList, c ≠ '\'' := by
    intro c h_c h_quote
    rcases intText_chars n c h_c with h_digit | h_minus
    · rw [h_quote] at h_digit
      simp at h_digit
    · rw [h_quote] at h_minus
      simp at h_minus
  have h_plural : ∀ c ∈ (if (a == 1) = true then "" else "s").toList, c ≠ '\'' := by
    split <;> simp
  have h_body : ∀ c ∈ (toString n).toList ++ ' ' :: ((toLowerText unit).toList ++
      (if (a == 1) = true then "" else "s").toList), c ≠ '\'' := by
    intro c h_c
    simp only [List.mem_append, List.mem_cons] at h_c
    rcases h_c with h_c | rfl | h_c | h_c
    · exact h_n c h_c
    · decide
    · exact h_L c h_c
    · exact h_plural c h_c
  have h_eq : ("INTERVAL '" ++ toString n ++ " " ++ toLowerText unit ++
      (if (a == 1) = true then "" else "s") ++ "'").toList =
      "INTERVAL ".toList ++ ('\'' :: ((toString n).toList ++ ' ' :: ((toLowerText unit).toList ++
        (if (a == 1) = true then "" else "s").toList)) ++ ['\'']) := by
    simp
  rw [h_eq]
  exact Operand.append (by decide) (Operand.quoted h_body rfl) (.inl (by decide))

theorem operand_dateAddCall {e unit : String} (n : Int) (h_e : Operand e.toList)
    (h_L : Operand (toLowerText unit).toList) : Operand (Dialect.dateAddCall e n unit).toList := by
  simp only [Dialect.dateAddCall, String.toList_append]
  refine (Operand.join (Operand.append (Operand.wrap (by decide) (by decide) h_L (by decide)
    (by decide)) (Operand.intText n) (.inl ?_)) (by decide) (by decide) (by decide) h_e).append
    (by decide) (.inr (by decide))
  exact EndsApart.append (Operand.append (by decide) h_L (.inl (by decide))).closed (by decide)

/-- An operand moved by an interval: `e - i` or `e + i`. -/
theorem Operand.shifted {e i : String} (h_e : Operand e.toList) (h_i : Operand i.toList) (neg : Prop)
    [Decidable neg] : Operand (e ++ " " ++ (if neg then "-" else "+") ++ " " ++ i).toList := by
  simp only [String.toList_append]
  have h_op : Operand (if neg then "-" else "+").toList := by split <;> decide
  exact Operand.join (Operand.join h_e (by decide) (by decide) (by decide) h_op) (by decide)
    (by decide) (by decide) h_i

theorem operand_intervalLiteral (d : Dialect) {a : Int} {unit : String} {x : Option String}
    (h_U : Operand (toUpperText unit).toList) (h_q : ∀ c ∈ (toLowerText unit).toList, c ≠ '\'')
    (h : d.intervalLiteral a unit = .ok x) : ∀ i ∈ x, Operand i.toList := by
  intro i h_i
  cases d
  case tsql =>
    simp only [Dialect.intervalLiteral, pure, Except.pure, Except.ok.injEq] at h
    simp [← h] at h_i
  case mysql | bigquery | databricks =>
    simp only [Dialect.intervalLiteral, pure, Except.pure, Except.ok.injEq] at h
    simp only [← h, Option.mem_def, Option.some.injEq] at h_i
    exact h_i ▸ operand_keywordInterval a h_U
  all_goals
    simp only [Dialect.intervalLiteral] at h
    cases h_i' : Dialect.quotedInterval a unit with
    | error err => simp [h_i', Functor.map, Except.map] at h
    | ok i' =>
      simp only [h_i', Functor.map, Except.map, Except.ok.injEq] at h
      simp only [← h, Option.mem_def, Option.some.injEq] at h_i
      exact h_i ▸ operand_quotedInterval h_q h_i'

/-- A date moved by an amount of a unit is an operand in every dialect. -/
theorem operand_dateAdd (d : Dialect) {e s unit : String} {n : Int} (h_e : Operand e.toList)
    (h_L : Operand (toLowerText unit).toList) (h_U : Operand (toUpperText unit).toList)
    (h_q : ∀ c ∈ (toLowerText unit).toList, c ≠ '\'') (h : d.dateAdd e n unit = .ok s) :
    Operand s.toList := by
  simp only [Dialect.dateAdd] at h
  cases d
  case snowflake =>
    simp only [pure, Except.pure, Except.ok.injEq] at h
    exact h ▸ operand_dateAddCall n h_e h_L
  case bigquery =>
    obtain ⟨a, -, h_s⟩ := Except.bind_eq_ok.mp h
    simp only [pure, Except.pure, Except.ok.injEq] at h_s
    subst h_s
    simp only [String.toList_append]
    have h_fn : Operand ((if n < 0 then "DATE_SUB" else "DATE_ADD").toList ++ "(".toList) ∧
        EndsApart ((if n < 0 then "DATE_SUB" else "DATE_ADD").toList ++ "(".toList) := by
      split <;> decide
    exact (Operand.join (Operand.append h_fn.1 h_e (.inl h_fn.2)) (by decide) (by decide)
      (by decide) (operand_keywordInterval a h_U)).append (by decide) (.inr (by decide))
  -- the others write `e - interval` or `e + interval`, or call `DATEADD` without one
  all_goals
    obtain ⟨a, -, h_s⟩ := Except.bind_eq_ok.mp h
    obtain ⟨x, h_x, h_s⟩ := Except.bind_eq_ok.mp h_s
    cases x with
    | some i =>
      simp only [pure, Except.pure, Except.ok.injEq] at h_s
      exact h_s ▸ Operand.shifted h_e (operand_intervalLiteral _ h_U h_q h_x i rfl) (n < 0)
    | none =>
      simp only [pure, Except.pure, Except.ok.injEq] at h_s
      exact h_s ▸ operand_dateAddCall n h_e h_L

/-! ## The comparison a filter ends with -/

/-- A comparison split off a filter is there in its text: the column, blanks, the operator,
blanks, and the value between two quotes. -/
theorem splitComparison_eq_some {s column op value : String}
    (h : splitComparison s = some (column, op, value)) :
    ∃ b₁ b₂ q q', s.toList = column.toList ++ b₁ ++ op.toList ++ b₂ ++ q :: value.toList ++ [q'] ∧
      (∀ c ∈ b₁, isBlank c = true) ∧ (∀ c ∈ b₂, isBlank c = true) ∧ op ∈ comparisonOps ∧
      isQuote q = true ∧ isQuote q' = true := by
  simp only [splitComparison] at h
  obtain ⟨len, -, h_try⟩ := List.exists_of_findSome?_eq_some h
  generalize h_after : (s.toList.drop len).dropWhile isBlank = afterCol at h_try
  cases h_find : comparisonOps.find? (fun op => op.toList.isPrefixOf afterCol) with
  | none => simp [h_find] at h_try
  | some op' =>
    simp only [h_find] at h_try
    generalize h_afterOp : (afterCol.drop op'.length).dropWhile isBlank = afterOp at h_try
    cases afterOp with
    | nil => simp at h_try
    | cons q rest =>
      simp only [Bool.and_eq_true, decide_eq_true_eq] at h_try
      split at h_try
      case isFalse => simp at h_try
      case isTrue h_open =>
      split at h_try
      case isFalse => simp at h_try
      case isTrue h_close =>
      simp only [Option.some.injEq, Prod.mk.injEq] at h_try
      obtain ⟨h_column, h_op, h_value⟩ := h_try
      subst h_op
      obtain ⟨q', h_last, h_q'⟩ : ∃ q', rest.getLast? = some q' ∧ isQuote q' = true := by
        simp only [Option.any_eq_true] at h_close
        exact h_close.1
      have h_prefix : op'.toList.isPrefixOf afterCol = true := by
        simpa using List.find?_some h_find
      obtain ⟨afterOp', h_afterOp'⟩ := List.isPrefixOf_iff_prefix.mp h_prefix
      refine ⟨(s.toList.drop len).takeWhile isBlank, (afterCol.drop op'.length).takeWhile isBlank,
        q, q', ?_, fun c h_c => List.mem_takeWhile_imp h_c, fun c h_c => List.mem_takeWhile_imp h_c,
        List.mem_of_find?_eq_some h_find, h_open.1, h_q'⟩
      obtain ⟨body, rfl⟩ := List.getLast?_eq_some_iff.mp h_last
      rw [← h_column, ← h_value, String.toList_ofList, String.toList_ofList]
      calc s.toList = s.toList.take len ++ s.toList.drop len := (List.take_append_drop len _).symm
        _ = s.toList.take len ++ ((s.toList.drop len).takeWhile isBlank ++ afterCol) := by
          rw [← h_after, List.takeWhile_append_dropWhile]
        _ = s.toList.take len ++ ((s.toList.drop len).takeWhile isBlank ++ (op'.toList ++
            ((afterCol.drop op'.length).takeWhile isBlank ++ q :: (body ++ [q'])))) := by
          rw [← h_afterOp, List.takeWhile_append_dropWhile, ← h_afterOp', ← String.length_toList,
            List.drop_left]
        _ = _ := by simp

/-! ## A relative-date phrase holds no quote -/

theorem splitOnceList_eq_some {pat cs a b : List Char} (h : splitOnceList pat cs = some (a, b)) :
    cs = a ++ pat ++ b := by
  induction cs generalizing a with
  | nil =>
    simp only [splitOnceList] at h
    split at h
    · simp only [Option.some.injEq, Prod.mk.injEq] at h
      obtain ⟨rfl, rfl⟩ := h
      simp_all
    · simp at h
  | cons c rest ih =>
    simp only [splitOnceList] at h
    split at h
    · rename_i h_prefix
      simp only [Option.some.injEq, Prod.mk.injEq] at h
      obtain ⟨rfl, rfl⟩ := h
      obtain ⟨t, h_t⟩ := List.isPrefixOf_iff_prefix.mp h_prefix
      rw [← h_t]
      simp
    · obtain ⟨⟨x, y⟩, h_rest, h_eq⟩ := Option.map_eq_some_iff.mp h
      simp only [Prod.mk.injEq] at h_eq
      obtain ⟨rfl, rfl⟩ := h_eq
      simp [ih h_rest]

theorem splitOnce_eq_some {s sep a b : String} (h : splitOnce s sep = some (a, b)) :
    s.toList = a.toList ++ sep.toList ++ b.toList := by
  obtain ⟨⟨x, y⟩, h_split, h_eq⟩ := Option.map_eq_some_iff.mp h
  simp only [Prod.mk.injEq] at h_eq
  obtain ⟨rfl, rfl⟩ := h_eq
  simpa using splitOnceList_eq_some h_split

/-- A text cut in two around a separator has no quote when neither part nor the separator has. -/
theorem quote_free_of_splitOnce {s sep a b : String} (h : splitOnce s sep = some (a, b))
    (h_a : ∀ c ∈ a.toList, isQuote c = false) (h_sep : ∀ c ∈ sep.toList, isQuote c = false)
    (h_b : ∀ c ∈ b.toList, isQuote c = false) : ∀ c ∈ s.toList, isQuote c = false := by
  rw [splitOnce_eq_some h, List.forall_mem_append, List.forall_mem_append]
  exact ⟨⟨h_a, h_sep⟩, h_b⟩

theorem mem_dropWhile_of_not {p : Char → Bool} {c : Char} {cs : List Char} (h : c ∈ cs)
    (h_c : p c = false) : c ∈ cs.dropWhile p := by
  induction cs with
  | nil => simp at h
  | cons d rest ih =>
    rcases List.mem_cons.mp h with rfl | h
    · simp [h_c]
    · by_cases h_d : p d = true
      · simp [h_d, ih h]
      · simp [h_d, h]

theorem mem_trimBlankList {c : Char} {cs : List Char} (h : c ∈ cs) (h_c : isBlank c = false) :
    c ∈ trimBlankList cs := by
  rw [trimBlankList, List.mem_reverse]
  exact mem_dropWhile_of_not (List.mem_reverse.mpr (mem_dropWhile_of_not h h_c)) h_c

theorem mem_lowerList {c : Char} (h_c : lowerChars c = [c]) (h_sigma : c ≠ 'Σ') :
    ∀ {cs before : List Char}, c ∈ cs → c ∈ lowerList cs before := by
  intro cs
  induction cs with
  | nil => simp
  | cons d rest ih =>
    intro before h
    simp only [lowerList]
    rcases List.mem_cons.mp h with rfl | h
    · simp [h_sigma, h_c]
    · exact List.mem_append_right _ (ih h)

theorem isQuote_eq_false_of_isDigit {c : Char} (h : c.isDigit = true) : isQuote c = false := by
  refine Bool.eq_false_iff.mpr fun h_q => ?_
  rcases isQuote_eq_true_iff.mp h_q with rfl | rfl <;> simp at h

theorem readLastN_quote_free {rest : String} {r : RelativeDate} (h : RelativeDate.readLastN rest = some r) :
    ∀ c ∈ rest.toList, isQuote c = false := by
  simp only [RelativeDate.readLastN] at h
  split at h
  case h_2 => simp at h
  case h_1 digits unitText h_split =>
  split at h
  case isTrue => simp at h
  case isFalse h_digits =>
  have h_digit : ∀ c ∈ digits.toList, isQuote c = false := by
    simp only [Bool.or_eq_true, Bool.not_eq_true', not_or, Bool.not_eq_false,
      List.all_eq_true] at h_digits
    exact fun c h_c => isQuote_eq_false_of_isDigit (h_digits.2 c h_c)
  have h_words : ∀ n ∈ RelativeDate.unitWords, ∀ c ∈ n.toList, isQuote c = false := by
    simp [RelativeDate.unitWords, isQuote]
  have h_unit : ∀ c ∈ unitText.toList, isQuote c = false := by
    by_cases h_word : RelativeDate.unitWords.contains unitText = true
    · exact h_words unitText (by simpa using h_word)
    by_cases h_plural : (unitText.toList.getLast? == some 's' &&
        RelativeDate.unitWords.contains (String.ofList unitText.toList.dropLast)) = true
    · -- a plural: a unit name and an `s`
      simp only [Bool.and_eq_true, beq_iff_eq, List.contains_iff_mem] at h_plural
      obtain ⟨ys, h_ys⟩ := List.getLast?_eq_some_iff.mp h_plural.1
      have h_stem := h_words _ h_plural.2
      rw [h_ys] at h_stem ⊢
      simp only [List.dropLast_concat, String.toList_ofList] at h_stem
      intro c h_c
      rcases List.mem_append.mp h_c with h_c | h_c
      · exact h_stem c h_c
      · simp [List.mem_singleton.mp h_c, isQuote]
    · rw [if_neg h_word, if_neg h_plural] at h
      simp at h
  exact quote_free_of_splitOnce h_split h_digit (by simp [isQuote]) h_unit

/-- A relative-date phrase has no quote, in whatever case and between whatever blanks it is
written. -/
theorem parse_quote_free {value : String} {r : RelativeDate} (h : RelativeDate.parse value = some r) :
    ∀ c ∈ value.toList, isQuote c = false := by
  -- the phrase in lower case and trimmed is one of the forms `parse` reads
  have h_phrase : ∀ c ∈ (toLowerText (trimBlank value)).toList, isQuote c = false := by
    simp only [RelativeDate.parse] at h
    generalize toLowerText (trimBlank value) = p at h
    split at h
    case isTrue h_eq => rw [beq_iff_eq.mp h_eq]; simp [isQuote]
    split at h
    case isTrue h_eq => rw [beq_iff_eq.mp h_eq]; simp [isQuote]
    split at h
    case isTrue h_eq => rw [beq_iff_eq.mp h_eq]; simp [isQuote]
    split at h
    · -- `last N units`
      rename_i r' h_last
      split at h_last
      · rename_i rest h_split
        exact quote_free_of_splitOnce h_split (by simp) (by simp [isQuote])
          (readLastN_quote_free h_last)
      · simp at h_last
    · -- `this|last|next unit`
      split at h
      · rename_i w u h_split
        split at h
        · rename_i s unit h_shift h_unit
          have h_w : w ∈ ["this", "last", "next"] := by
            split at h_shift
            case isTrue h_eq => simp [beq_iff_eq.mp h_eq]
            split at h_shift
            case isTrue h_eq => simp [beq_iff_eq.mp h_eq]
            split at h_shift
            case isTrue h_eq => simp [beq_iff_eq.mp h_eq]
            simp at h_shift
          have h_u : u ∈ RelativeDate.periodWords := by
            split at h_unit
            · simpa using ‹RelativeDate.periodWords.contains u = true›
            · simp at h_unit
          have h_shifts : ∀ n ∈ ["this", "last", "next"], ∀ c ∈ n.toList, isQuote c = false := by
            simp [isQuote]
          have h_units : ∀ n ∈ RelativeDate.periodWords, ∀ c ∈ n.toList, isQuote c = false := by
            simp [RelativeDate.periodWords, isQuote]
          exact quote_free_of_splitOnce h_split (h_shifts w h_w) (by simp [isQuote]) (h_units u h_u)
        · simp at h
      · simp at h
  intro c h_c
  cases h_q : isQuote c with
  | false => rfl
  | true =>
    have h_c' : c = '\'' ∨ c = '"' := isQuote_eq_true_iff.mp h_q
    have h_blank : isBlank c = false := by rcases h_c' with rfl | rfl <;> decide
    have h_lower : lowerChars c = [c] := by rcases h_c' with rfl | rfl <;> decide
    have h_sigma : c ≠ 'Σ' := by rcases h_c' with rfl | rfl <;> decide
    have h_in : c ∈ (toLowerText (trimBlank value)).toList := by
      rw [toLowerText, trimBlank, String.toList_ofList, String.toList_ofList]
      exact mem_lowerList h_lower h_sigma (mem_trimBlankList h_c h_blank)
    exact absurd (h_phrase c h_in) (by simp [h_q])

/-! ## The comparisons a phrase stands for -/

/-- The comparisons of a column that `column op 'phrase'` stands for, each an operator and a
bound. `>=` and `>` compare with the first day of the phrase's range. `=` means the range: the
day itself for `today`, `yesterday` and `tomorrow`, the days from the first on for a rolling
window of days or weeks, and the days from the first to the end of the period otherwise. -/
def RelativeDate.comparisons (r : RelativeDate) (op : String) (d : Dialect) :
    Except Error (List (String × String)) := do
  let start ← r.startSql d
  if op == ">=" || op == ">" then return [(op, start)]
  match r with
  | .today | .yesterday | .tomorrow => return [("=", start)]
  | .lastN _ .day | .lastN _ .week => return [(">=", start)]
  | .lastN _ u => return [(">=", start), ("<", d.dateTrunc u.name d.currentDate)]
  | .period _ u =>
    let (a, unitName) ← u.intervalParts 1
    return [(">=", start), ("<", ← d.dateAdd start a unitName)]

example : ((RelativeDate.lastN 7 .day).comparisons "=" .duckdb).toOption =
    some [(">=", "CURRENT_DATE - INTERVAL '7 days'")] := by decide +kernel

/-- A unit's interval is counted in a unit with a name. -/
theorem intervalParts_name {u : TimeUnit} {n : Int} {x : Int × String} (h : u.intervalParts n = .ok x) :
    ∃ v : TimeUnit, x.2 = v.name := by
  cases u
  case quarter =>
    simp only [TimeUnit.intervalParts] at h
    obtain ⟨b, -, h⟩ := Except.bind_eq_ok.mp h
    simp only [pure, Except.pure, Except.ok.injEq] at h
    exact ⟨.month, by rw [← h]; rfl⟩
  all_goals
    simp only [TimeUnit.intervalParts, pure, Except.pure, Except.ok.injEq] at h
    exact ⟨_, by rw [← h]⟩

/-- A date moved by whole units is an operand. -/
theorem operand_dateAdd_unit (d : Dialect) (u : TimeUnit) {e s : String} {n : Int}
    (h_e : Operand e.toList) (h : d.dateAdd e n u.name = .ok s) : Operand s.toList :=
  operand_dateAdd d h_e u.name_texts.1 u.name_texts.2.1 u.name_texts.2.2 h

/-- The first day of every relative date is an operand in every dialect. -/
theorem operand_startSql {r : RelativeDate} {d : Dialect} {s : String} (h : r.startSql d = .ok s) :
    Operand s.toList := by
  have h_today := operand_currentDate d
  cases r with
  | today =>
    simp only [RelativeDate.startSql, pure, Except.pure, Except.ok.injEq] at h
    exact h ▸ h_today
  | yesterday => exact operand_dateAdd_unit d .day h_today h
  | tomorrow => exact operand_dateAdd_unit d .day h_today h
  | lastN n u =>
    simp only [RelativeDate.startSql] at h
    cases u
    case day =>
      obtain ⟨a, -, h⟩ := Except.bind_eq_ok.mp h
      exact operand_dateAdd_unit d .day h_today h
    case week =>
      obtain ⟨a, -, h⟩ := Except.bind_eq_ok.mp h
      obtain ⟨b, -, h⟩ := Except.bind_eq_ok.mp h
      exact operand_dateAdd_unit d .day h_today h
    all_goals
      obtain ⟨x, h_x, h⟩ := Except.bind_eq_ok.mp h
      obtain ⟨a, -, h⟩ := Except.bind_eq_ok.mp h
      obtain ⟨v, h_v⟩ := intervalParts_name h_x
      rw [h_v] at h
      exact operand_dateAdd_unit d v (operand_dateTrunc d _ h_today) h
  | period k u =>
    simp only [RelativeDate.startSql] at h
    split at h
    · simp only [pure, Except.pure, Except.ok.injEq] at h
      exact h ▸ operand_dateTrunc d u h_today
    · obtain ⟨x, h_x, h⟩ := Except.bind_eq_ok.mp h
      obtain ⟨v, h_v⟩ := intervalParts_name h_x
      rw [h_v] at h
      exact operand_dateAdd_unit d v (operand_dateTrunc d u h_today) h

/-- Each comparison a phrase stands for has an operator a filter may use and a bound that is an
operand. -/
theorem comparisons_read {r : RelativeDate} {op : String} {d : Dialect} {bs : List (String × String)}
    (h_bs : r.comparisons op d = .ok bs) : ∀ b ∈ bs, b.1 ∈ comparisonOps ∧ Operand b.2.toList := by
  obtain ⟨start, h_start, h⟩ := Except.bind_eq_ok.mp h_bs
  clear h_bs
  have h_first := operand_startSql h_start
  split at h
  · rename_i h_op
    simp only [pure, Except.pure, Except.ok.injEq] at h
    subst h
    have h_op' : op = ">=" ∨ op = ">" := by simpa using h_op
    intro b h_b
    rw [List.mem_singleton.mp h_b]
    rcases h_op' with rfl | rfl <;> exact ⟨by simp [comparisonOps], h_first⟩
  · -- `=`: the range's first day, and for a period or a window of months its end
    have h_ops : ">=" ∈ comparisonOps ∧ "<" ∈ comparisonOps ∧ "=" ∈ comparisonOps := by
      simp [comparisonOps]
    have h_range : ∀ stop, Operand stop.toList → bs = [(">=", start), ("<", stop)] →
        ∀ b ∈ bs, b.1 ∈ comparisonOps ∧ Operand b.2.toList := by
      rintro stop h_stop rfl b h_b
      rcases List.mem_pair.mp h_b with rfl | rfl
      · exact ⟨h_ops.1, h_first⟩
      · exact ⟨h_ops.2.1, h_stop⟩
    cases r
    case lastN n u =>
      cases u
      case day | week =>
        simp only [pure, Except.pure, Except.ok.injEq] at h
        subst h
        intro b h_b
        rw [List.mem_singleton.mp h_b]
        exact ⟨h_ops.1, h_first⟩
      all_goals
        simp only [pure, Except.pure, Except.ok.injEq] at h
        exact h_range _ (operand_dateTrunc d _ (operand_currentDate d)) h.symm
    case period k u =>
      obtain ⟨x, h_x, h⟩ := Except.bind_eq_ok.mp h
      obtain ⟨stop, h_stop, h⟩ := Except.bind_eq_ok.mp h
      simp only [pure, Except.pure, Except.ok.injEq] at h
      obtain ⟨v, h_v⟩ := intervalParts_name h_x
      rw [h_v] at h_stop
      exact h_range stop (operand_dateAdd_unit d v h_first h_stop) h.symm
    all_goals
      simp only [pure, Except.pure, Except.ok.injEq] at h
      subst h
      intro b h_b
      rw [List.mem_singleton.mp h_b]
      exact ⟨h_ops.2.2, h_first⟩

/-! ## What the rewrite writes -/

/-- What the rewrite writes for `column = 'phrase'`: the phrase's comparisons of the column,
joined by `AND`. -/
theorem toRange_eq_ok {r : RelativeDate} {column : String} {d : Dialect} {out : String}
    (h : r.toRange column d = .ok out) :
    ∃ bs, r.comparisons "=" d = .ok bs ∧
      ((∃ b, bs = [b] ∧ out = column ++ " " ++ b.1 ++ " " ++ b.2) ∨
        ∃ b₁ b₂, bs = [b₁, b₂] ∧
          out = (column ++ " " ++ b₁.1 ++ " " ++ b₁.2) ++ " AND " ++ (column ++ " " ++ b₂.1 ++ " " ++ b₂.2)) := by
  simp only [RelativeDate.toRange] at h
  obtain ⟨start, h_start, h_out⟩ := Except.bind_eq_ok.mp h
  clear h
  cases r
  case today | yesterday | tomorrow =>
    simp only [pure, Except.pure, Except.ok.injEq] at h_out
    refine ⟨[("=", start)], by simp [RelativeDate.comparisons, h_start], .inl ⟨_, rfl, ?_⟩⟩
    rw [← h_out]
    exact String.toList_inj.mp (by simp)
  case lastN n u =>
    cases u
    case day | week =>
      simp only [pure, Except.pure, Except.ok.injEq] at h_out
      refine ⟨[(">=", start)], by simp [RelativeDate.comparisons, h_start], .inl ⟨_, rfl, ?_⟩⟩
      rw [← h_out]
      exact String.toList_inj.mp (by simp)
    all_goals
      simp only [pure, Except.pure, Except.ok.injEq] at h_out
      subst h_out
      exact ⟨_, by simp [RelativeDate.comparisons, h_start]; exact ⟨rfl, rfl⟩,
        .inr ⟨_, _, rfl, String.toList_inj.mp (by simp)⟩⟩
  case period k u =>
    obtain ⟨x, h_x, h_out⟩ := Except.bind_eq_ok.mp h_out
    obtain ⟨stop, h_stop, h_out⟩ := Except.bind_eq_ok.mp h_out
    simp only [pure, Except.pure, Except.ok.injEq] at h_out
    refine ⟨[(">=", start), ("<", stop)], ?_, .inr ⟨_, _, rfl, ?_⟩⟩
    · simp [RelativeDate.comparisons, h_start, h_x, h_stop, bind, Except.bind, pure, Except.pure]
    rw [← h_out]
    exact String.toList_inj.mp (by simp)

/-- The rewrite keeps the filter, or writes the comparisons its last comparison stands for. -/
theorem expandRelativeDates_eq_ok {F : String} {d : Dialect} {out : String}
    (h : expandRelativeDates F d = .ok out) :
    out = F ∨ ∃ column op value r bs, splitComparison (trimBlank F) = some (column, op, value) ∧
      RelativeDate.parse value = some r ∧ r.comparisons op d = .ok bs ∧
      ((∃ b, bs = [b] ∧ out = column ++ " " ++ b.1 ++ " " ++ b.2) ∨
        ∃ b₁ b₂, bs = [b₁, b₂] ∧
          out = (column ++ " " ++ b₁.1 ++ " " ++ b₁.2) ++ " AND " ++ (column ++ " " ++ b₂.1 ++ " " ++ b₂.2)) := by
  simp only [expandRelativeDates] at h
  split at h
  · simp only [pure, Except.pure, Except.ok.injEq] at h
    exact .inl h.symm
  rename_i column op value h_split
  split at h
  · simp only [pure, Except.pure, Except.ok.injEq] at h
    exact .inl h.symm
  rename_i r h_parse
  split at h
  · -- `>=` and `>`: the comparison with the first day
    rename_i h_op
    obtain ⟨start, h_start, h⟩ := Except.bind_eq_ok.mp h
    simp only [pure, Except.pure, Except.ok.injEq] at h
    refine .inr ⟨column, op, value, r, [(op, start)], h_split, h_parse, ?_, .inl ⟨_, rfl, h.symm⟩⟩
    simp [RelativeDate.comparisons, h_start, h_op, bind, Except.bind, pure, Except.pure]
  split at h
  · -- `=`: the range
    rename_i h_eq
    obtain rfl : op = "=" := beq_iff_eq.mp h_eq
    obtain ⟨bs, h_bs, h_shape⟩ := toRange_eq_ok h
    exact .inr ⟨column, "=", value, r, bs, h_split, h_parse, h_bs, h_shape⟩
  · simp only [pure, Except.pure, Except.ok.injEq] at h
    exact .inl h.symm

/-! ## How the rewritten filter reads -/

/-- The comparison operators stand alone, each made of tokens none of which is a keyword. -/
theorem comparisonOps_read : ∀ op ∈ comparisonOps, Closed op.toList ∧ StartsApart op.toList ∧
    EndsApart op.toList ∧ tokens op.toList ≠ [] ∧
      ∀ t ∈ tokens op.toList, isConnective t = false ∧ isKeyword "NOT" t = false := by
  decide

theorem Continues.comparison {op : String} (h_op : op ∈ comparisonOps) {v : List (List Char)}
    (h_v : ∀ t ∈ v, isConnective t = false) : Continues (tokens op.toList ++ v) := by
  obtain ⟨-, -, -, h_ne, h_tokens⟩ := comparisonOps_read op h_op
  have h_op_tokens : Continues (tokens op.toList) := by
    refine ⟨fun t h_t => (h_tokens t h_t).1, fun t h_t => ?_⟩
    exact (h_tokens t (List.mem_of_mem_head? h_t)).2
  exact h_op_tokens.append h_ne h_v

/-- A filter that ends in a comparison with a relative-date phrase reads as its column followed
by tokens that continue the column's last comparison: the operator and the quoted phrase. -/
theorem tokens_filter {F column op value : String} {r : RelativeDate}
    (h_split : splitComparison (trimBlank F) = some (column, op, value))
    (h_parse : RelativeDate.parse value = some r) (h_closed : Closed column.toList) :
    ∃ u, tokens F.toList = tokens column.toList ++ u ∧ Continues u := by
  obtain ⟨b₁, b₂, q, q', h_eq, h_b₁, h_b₂, h_op, h_q, h_q'⟩ := splitComparison_eq_some h_split
  obtain ⟨lead, trail, h_F, h_lead, h_trail⟩ := trimBlankList_between F.toList
  obtain ⟨h_op_closed, h_op_start, h_op_end, -, -⟩ := comparisonOps_read op h_op
  have h_value := parse_quote_free h_parse
  -- the quoted phrase, and the blanks after it if its quote is left open, make one token
  obtain ⟨lit, h_lit⟩ : ∃ lit, tokens (q :: (value.toList ++ q' :: trail)) = [q :: lit] := by
    have h_in : ∀ c ∈ value.toList, c ≠ q := fun c h_c h_cq => by
      rw [h_cq] at h_c
      simp [h_value q h_c] at h_q
    by_cases h_same : q' = q
    · subst h_same
      obtain ⟨h_tokens, h_lit_closed⟩ := tokens_quoted h_in h_q
      refine ⟨value.toList ++ [q'], ?_⟩
      have h_split_lit : q' :: (value.toList ++ q' :: trail) = (q' :: value.toList ++ [q']) ++ trail := by
        simp
      rw [h_split_lit, tokens_append_blanks h_lit_closed h_trail, h_tokens]
      simp
    · have h_rest : ∀ c ∈ value.toList ++ q' :: trail, c ≠ q := by
        intro c h_c
        simp only [List.mem_append, List.mem_cons] at h_c
        rcases h_c with h_c | rfl | h_c
        · exact h_in c h_c
        · exact h_same
        · intro h_cq
          rw [h_cq] at h_c
          have h_blank := h_trail q h_c
          rcases isQuote_eq_true_iff.mp h_q with rfl | rfl <;> simp [isBlank] at h_blank
      obtain ⟨h_marks, -⟩ := marks_inside h_rest
      refine ⟨value.toList ++ q' :: trail, ?_⟩
      have h_all : marks none (q :: (value.toList ++ q' :: trail)) =
          (q :: (value.toList ++ q' :: trail)).map some := by
        simp [marks, h_q, h_marks]
      have h_some : ∀ x ∈ (q :: (value.toList ++ q' :: trail)).map some, x.isSome = true := by
        intro x h_x
        obtain ⟨c, -, rfl⟩ := List.mem_map.mp h_x
        rfl
      rw [tokens, h_all, pieces_of_forall_isSome (by simp) h_some]
      simp [List.filterMap_map]
  refine ⟨tokens op.toList ++ [q :: lit], ?_, Continues.comparison h_op ?_⟩
  · have h_trim : (trimBlank F).toList = trimBlankList F.toList := String.toList_ofList
    have h_start : StartsApart (b₁ ++ (op.toList ++ (b₂ ++ q :: (value.toList ++ q' :: trail)))) := by
      cases b₁ with
      | nil =>
        rw [List.nil_append]
        exact StartsApart.append h_op_start
      | cons c bs =>
        rw [StartsApart, marks_append, (marks_blanks h_b₁).1]
        simp
    rw [h_F, ← h_trim, h_eq]
    simp only [List.append_assoc, List.cons_append, List.nil_append]
    rw [tokens_blanks_append h_lead, tokens_append h_closed (.inr h_start),
      tokens_blanks_append h_b₁, tokens_append h_op_closed (.inl h_op_end),
      tokens_blanks_append h_b₂, h_lit]
  · intro t h_t
    rw [List.mem_singleton.mp h_t]
    exact isConnective_quoted h_q lit

/-- A comparison written by the rewrite reads as the column's tokens, the operator's and the
bound's. -/
theorem tokens_comparison {column op bound : String} (h_c : Closed column.toList)
    (h_op : op ∈ comparisonOps) (h_b : Operand bound.toList) :
    tokens (column ++ " " ++ op ++ " " ++ bound).toList =
        tokens column.toList ++ (tokens op.toList ++ tokens bound.toList) ∧
      Closed (column ++ " " ++ op ++ " " ++ bound).toList := by
  obtain ⟨h_op_closed, h_op_start, -, -, -⟩ := comparisonOps_read op h_op
  simp only [String.toList_append]
  have h_blank : ∀ c ∈ " ".toList, isBlank c = true := by simp [isBlank]
  have h_c' : Closed (column.toList ++ " ".toList) := h_c.append (by decide)
  have h_op' : Closed (column.toList ++ " ".toList ++ op.toList) := h_c'.append h_op_closed
  have h_end : EndsApart (column.toList ++ " ".toList ++ op.toList ++ " ".toList) :=
    EndsApart.append h_op' (by decide)
  refine ⟨?_, (h_op'.append (by decide)).append h_b.closed⟩
  rw [tokens_append (h_op'.append (by decide)) (.inl h_end), tokens_append_blanks h_op' h_blank,
    tokens_append h_c' (.inr h_op_start), tokens_append_blanks h_c h_blank, List.append_assoc]

/-! ## The rewrite keeps the filter's meaning -/

/-- Expanding a relative date keeps the filter's meaning: under any truth value of the
comparisons in which the phrase's comparison means all of the comparisons written for it, the
rewritten filter holds exactly when the filter does. One comparison replaces the phrase's in
place; two are joined by `AND` with the column written twice, which keeps the meaning when the
column has no `OR` and does not negate its last comparison. -/
theorem expandRelativeDates_keeps_meaning (F : String) (d : Dialect) (out : String)
    (h : expandRelativeDates F d = .ok out) :
    out = F ∨ ∃ column op value r bs,
      splitComparison (trimBlank F) = some (column, op, value) ∧ RelativeDate.parse value = some r ∧
      r.comparisons op d = .ok bs ∧
      ∀ I : List (List Char) → Bool, Closed column.toList →
        (bs.length = 1 ∨ (∀ t ∈ tokens column.toList, isKeyword "OR" t = false) ∧
          (lastConjunct (reading column.toList)).1 = false) →
        I (lastConjunct (reading F.toList)).2 = bs.all (fun b =>
          I ((lastConjunct (reading column.toList)).2 ++ tokens b.1.toList ++ tokens b.2.toList)) →
        holds I (reading out.toList) = holds I (reading F.toList) := by
  rcases expandRelativeDates_eq_ok h with h_out | ⟨column, op, value, r, bs, h_split, h_parse, h_bs,
    h_shape⟩
  · exact .inl h_out
  refine .inr ⟨column, op, value, r, bs, h_split, h_parse, h_bs, fun I h_closed h_cases h_I => ?_⟩
  obtain ⟨u, h_F, h_u⟩ := tokens_filter h_split h_parse h_closed
  have h_read := comparisons_read h_bs
  -- the filter's last comparison is the column's, continued by the operator and the phrase
  have h_last : (lastConjunct (reading F.toList)).2 =
      (lastConjunct (readTokens (tokens column.toList))).2 ++ u := by
    rw [reading, h_F, lastConjunct_append h_u]
  rw [h_last] at h_I
  rcases h_shape with ⟨b, rfl, rfl⟩ | ⟨b₁, b₂, rfl, rfl⟩
  · -- one comparison takes the place of the phrase's
    obtain ⟨h_op, h_b⟩ := h_read b (by simp)
    rw [reading, (tokens_comparison h_closed h_op h_b).1, reading, h_F]
    refine holds_append_congr I (Continues.comparison h_op h_b.no_connective) h_u ?_
    simpa [reading, List.append_assoc] using h_I.symm
  · -- two comparisons: the column is written again after `AND`
    obtain ⟨h_op₁, h_b₁⟩ := h_read b₁ (by simp)
    obtain ⟨h_op₂, h_b₂⟩ := h_read b₂ (by simp)
    obtain ⟨h_or, h_neg⟩ := h_cases.resolve_left (by simp)
    obtain ⟨h_first, h_first_closed⟩ := tokens_comparison h_closed h_op₁ h_b₁
    rw [reading, tokens_and h_first_closed, h_first, (tokens_comparison h_closed h_op₂ h_b₂).1,
      reading, h_F]
    exact holds_repeated_and I h_or h_neg h_u (Continues.comparison h_op₁ h_b₁.no_connective)
      (Continues.comparison h_op₂ h_b₂.no_connective) (by simpa [reading, List.append_assoc] using h_I)

/-- `this month` after an `AND` comparison: the range is written with the column text twice, and
the filter keeps its meaning. -/
theorem thisMonth_after_and_keeps_meaning :
    expandRelativeDates "amount > 0 AND created_at = 'this month'" .duckdb =
        .ok "amount > 0 AND created_at >= DATE_TRUNC('month', CURRENT_DATE) AND amount > 0 AND created_at < DATE_TRUNC('month', CURRENT_DATE) + INTERVAL '1 month'" ∧
      ("amount > 0 AND created_at >= DATE_TRUNC('month', CURRENT_DATE) AND amount > 0 AND created_at < DATE_TRUNC('month', CURRENT_DATE) + INTERVAL '1 month'" =
          "amount > 0 AND created_at = 'this month'" ∨
        ∃ column op value r bs,
          splitComparison (trimBlank "amount > 0 AND created_at = 'this month'") = some (column, op, value) ∧
          RelativeDate.parse value = some r ∧ r.comparisons op .duckdb = .ok bs ∧
          ∀ I : List (List Char) → Bool, Closed column.toList →
            (bs.length = 1 ∨ (∀ t ∈ tokens column.toList, isKeyword "OR" t = false) ∧
              (lastConjunct (reading column.toList)).1 = false) →
            I (lastConjunct (reading "amount > 0 AND created_at = 'this month'".toList)).2 = bs.all (fun b =>
              I ((lastConjunct (reading column.toList)).2 ++ tokens b.1.toList ++ tokens b.2.toList)) →
            holds I (reading "amount > 0 AND created_at >= DATE_TRUNC('month', CURRENT_DATE) AND amount > 0 AND created_at < DATE_TRUNC('month', CURRENT_DATE) + INTERVAL '1 month'".toList) =
              holds I (reading "amount > 0 AND created_at = 'this month'".toList)) :=
  have h : expandRelativeDates "amount > 0 AND created_at = 'this month'" .duckdb =
      .ok "amount > 0 AND created_at >= DATE_TRUNC('month', CURRENT_DATE) AND amount > 0 AND created_at < DATE_TRUNC('month', CURRENT_DATE) + INTERVAL '1 month'" :=
    Except.eq_ok_of_toOption (by decide +kernel)
  ⟨h, expandRelativeDates_keeps_meaning _ _ _ h⟩

/-- After an `OR` the range changes the filter's meaning: the column text the rewrite repeats is
`a = 1 OR d`, and a row with `a ≠ 1` before this month, which the filter rejects, passes the last
disjunct of the rewritten one. -/
theorem thisMonth_after_or_changes_meaning :
    expandRelativeDates "a = 1 OR d = 'this month'" .duckdb =
        .ok "a = 1 OR d >= DATE_TRUNC('month', CURRENT_DATE) AND a = 1 OR d < DATE_TRUNC('month', CURRENT_DATE) + INTERVAL '1 month'" ∧
      ∃ I : List (List Char) → Bool,
        I (lastConjunct (reading "a = 1 OR d = 'this month'".toList)).2 =
          (I (tokens "d >= DATE_TRUNC('month', CURRENT_DATE)".toList) &&
            I (tokens "d < DATE_TRUNC('month', CURRENT_DATE) + INTERVAL '1 month'".toList)) ∧
        holds I (reading ("a = 1 OR d >= DATE_TRUNC('month', CURRENT_DATE) AND a = 1 OR d < DATE_TRUNC('month', CURRENT_DATE) + INTERVAL '1 month'").toList) ≠
          holds I (reading "a = 1 OR d = 'this month'".toList) := by
  refine ⟨Except.eq_ok_of_toOption (by decide +kernel),
    fun t => t == tokens "d < DATE_TRUNC('month', CURRENT_DATE) + INTERVAL '1 month'".toList, ?_, ?_⟩
  · decide +kernel
  · decide +kernel

end MetricLayer
