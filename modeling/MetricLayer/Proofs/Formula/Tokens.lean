import MetricLayer.Proofs.Formula.Grammar
import MetricLayer.Proofs.Params.Interpolation
/-!
# Formula text

How each token is written (`TokenText`): a number is digits with an optional point and digits
after it, or a point and digits, then an optional exponent (`NumberText`); a column is `${name}`
with a name that has no `}` and is not blank, and the token carries it trimmed; a symbol is one of
`** // * / + - % ( )`. A text `Lexes` into a token list when it is those tokens written in order,
with blanks before, between and after them.

The lexer reads exactly that:

* what it reads is the text written out (`lexFrom_lexes`), by induction along its own recursion;
* a written sequence is read back token by token (`lexFrom_of_lexes`), by induction over the
  sequence, as long as no two neighbours glue (`Token.glues`): a number before a number, or `*`
  or `/` before a token that starts with the same character, would be read as one token. No
  derivation of the grammar puts such tokens side by side (`Derives.isChain`).

With the grammar of the formula parser, `parse` accepts a text exactly when it is a written
sequence of tokens that derives from `expr`, and the tokens and the tree are the only ones
(`parse_eq_ok_iff_unique_derivation`).
-/

namespace MetricLayer.Formula

open MetricLayer.Decimal MetricLayer.Text

/-- The exponent of a number, which may be left out: `e` or `E`, an optional sign and digits. -/
inductive Exponent : List Char → Prop
  | none : Exponent []
  | some {mark : Char} {sign ds : List Char} : (mark = 'e' ∨ mark = 'E') → IsSign sign → Digits ds →
      Exponent (mark :: sign ++ ds)

/-- The exponent reader takes an exponent off the front of the text. -/
theorem exponentPart_sound {cs ex after : List Char} (h : exponentPart cs = (ex, after)) :
    cs = ex ++ after ∧ Exponent ex := by
  unfold exponentPart at h
  split at h
  · rename_i mark rest
    split at h
    · rename_i h_mark
      split at h
      rename_i sign r h_sign
      -- the optional sign after the mark
      have h_rest : rest = sign ++ r ∧ IsSign sign := by
        split at h_sign <;> cases h_sign <;> simp [IsSign]
      obtain ⟨rfl, h_is⟩ := h_rest
      simp only at h
      split at h
      · cases h
        exact ⟨rfl, .none⟩
      · rename_i h_ds
        cases h
        refine ⟨?_, .some (by simpa using h_mark) h_is ⟨by simpa using h_ds, ?_⟩⟩
        · simpa using eq_takeWhile_append_drop Char.isDigit r
        · intro c h_c
          exact List.mem_takeWhile_imp h_c
    · cases h
      exact ⟨rfl, .none⟩
  · cases h
    exact ⟨rfl, .none⟩

/-- The digits of a number before its exponent: digits, digits and a point with optional digits
after it, or a point and digits. -/
inductive Mantissa : List Char → Prop
  | whole {ds : List Char} : Digits ds → Mantissa ds
  | point {ds fs : List Char} : Digits ds → (∀ c ∈ fs, c.isDigit = true) → Mantissa (ds ++ '.' :: fs)
  | fraction {fs : List Char} : Digits fs → Mantissa ('.' :: fs)

/-- The written form of a number. -/
def NumberText (cs : List Char) : Prop :=
  ∃ mant ex, cs = mant ++ ex ∧ Mantissa mant ∧ Exponent ex

theorem digits_takeWhile {c : Char} {cs : List Char} (h : c.isDigit = true) :
    Digits ((c :: cs).takeWhile Char.isDigit) :=
  ⟨by simp [List.takeWhile_cons_of_pos h], fun _ h_c => List.mem_takeWhile_imp h_c⟩

theorem exponentPart_spec (cs : List Char) :
    cs = (exponentPart cs).1 ++ (exponentPart cs).2 ∧ Exponent (exponentPart cs).1 :=
  exponentPart_sound rfl

/-- What the number reader takes is a written number. -/
theorem numberLiteral_sound {cs lit after : List Char} (h : numberLiteral cs = .ok (lit, after)) :
    cs = lit ++ after ∧ NumberText lit := by
  unfold numberLiteral at h
  split at h
  · rename_i rest
    dsimp only at h
    split at h
    · cases h
    · rename_i h_ds
      simp only [Except.ok.injEq, Prod.mk.injEq] at h
      obtain ⟨rfl, rfl⟩ := h
      obtain ⟨h_eq, h_x⟩ := exponentPart_spec ((rest.drop (rest.takeWhile Char.isDigit).length))
      refine ⟨?_, _, _, rfl, .fraction ⟨by simpa using h_ds, fun _ h_c => List.mem_takeWhile_imp h_c⟩, h_x⟩
      have h_split := eq_takeWhile_append_drop Char.isDigit rest
      rw [h_eq] at h_split
      conv_lhs => rw [h_split]
      simp
  · rename_i c tail h_point
    split at h
    · rename_i h_c
      have h_whole := eq_takeWhile_append_drop Char.isDigit (c :: tail)
      dsimp only at h
      split at h
      · rename_i rest h_rest
        simp only [Except.ok.injEq, Prod.mk.injEq] at h
        obtain ⟨rfl, rfl⟩ := h
        obtain ⟨h_eq, h_x⟩ := exponentPart_spec (rest.drop (rest.takeWhile Char.isDigit).length)
        refine ⟨?_, _, _, rfl, .point (digits_takeWhile h_c) fun _ h_c => List.mem_takeWhile_imp h_c, h_x⟩
        rw [h_rest] at h_whole
        have h_split := eq_takeWhile_append_drop Char.isDigit rest
        rw [h_eq] at h_split
        conv_lhs => rw [h_whole, h_split]
        simp
      · rename_i rest h_rest
        simp only [Except.ok.injEq, Prod.mk.injEq] at h
        obtain ⟨rfl, rfl⟩ := h
        obtain ⟨h_eq, h_x⟩ := exponentPart_spec ((c :: tail).drop ((c :: tail).takeWhile Char.isDigit).length)
        refine ⟨?_, _, _, rfl, by simpa using .whole (digits_takeWhile h_c), h_x⟩
        rw [List.append_nil, List.append_assoc, ← h_eq]
        exact h_whole
    · cases h
  · cases h

/-- Whether a character right after a number would be read as part of it. -/
def extendsNumber (c : Char) : Bool :=
  c.isDigit || c == '.' || c == 'e' || c == 'E'

theorem exponentPart_append {ex rest : List Char} (h : Exponent ex)
    (h_rest : ∀ c ∈ rest.head?, extendsNumber c = false) : exponentPart (ex ++ rest) = (ex, rest) := by
  cases h with
  | none =>
    cases rest with
    | nil => rfl
    | cons c r =>
      have h_c := h_rest c rfl
      simp only [extendsNumber, Bool.or_eq_false_iff, beq_eq_false_iff_ne] at h_c
      simp [exponentPart, h_c.2, h_c.1.2]
  | some h_mark h_sign h_ds =>
    rename_i mark sign ds
    have h_stop : ∀ c ∈ rest.head?, c.isDigit = false := fun c h_c => by
      simp [extendsNumber] at h_rest
      exact (h_rest c h_c).1.1.1
    obtain ⟨d, ds', rfl⟩ := List.exists_cons_of_ne_nil h_ds.1
    have h_take : (d :: (ds' ++ rest)).takeWhile Char.isDigit = d :: ds' :=
      takeWhile_append_of_stop h_ds.2 h_stop
    have h_d : d.isDigit = true := h_ds.2 d (by simp)
    have h_m : (mark == 'e' || mark == 'E') = true := by
      rcases h_mark with rfl | rfl <;> rfl
    have h_plus : d ≠ '+' := fun h => by simp [h] at h_d
    have h_minus : d ≠ '-' := fun h => by simp [h] at h_d
    -- the sign match takes the sign off exactly: a digit is neither `+` nor `-`
    rcases h_sign with rfl | rfl | rfl <;> simp [exponentPart, h_m, h_take, h_plus, h_minus]

/-- After a number, an exponent or what stops the number neither continues the digits before it
nor starts a fraction. -/
theorem Exponent.head_stop {ex rest : List Char} (h : Exponent ex)
    (h_rest : ∀ c ∈ rest.head?, extendsNumber c = false) :
    ∀ c ∈ (ex ++ rest).head?, c.isDigit = false ∧ c ≠ '.' := by
  cases h with
  | none =>
    intro c h_c
    have h_stop := h_rest c (by simpa using h_c)
    simp only [extendsNumber, Bool.or_eq_false_iff, beq_eq_false_iff_ne] at h_stop
    exact ⟨h_stop.1.1.1, h_stop.1.1.2⟩
  | some h_mark =>
    intro c h_c
    simp only [List.cons_append, List.head?_cons, Option.mem_def, Option.some.injEq] at h_c
    subst h_c
    rcases h_mark with rfl | rfl <;> decide

/-- A written number is read whole when what follows cannot continue it. -/
theorem numberLiteral_append {lit rest : List Char} (h : NumberText lit)
    (h_rest : ∀ c ∈ rest.head?, extendsNumber c = false) :
    numberLiteral (lit ++ rest) = .ok (lit, rest) := by
  obtain ⟨mant, ex, rfl, h_mant, h_ex⟩ := h
  have h_after := exponentPart_append h_ex h_rest
  have h_stop := h_ex.head_stop h_rest
  cases h_mant with
  | whole h_ds =>
    obtain ⟨d, ds', rfl⟩ := List.exists_cons_of_ne_nil h_ds.1
    have h_d : d.isDigit = true := h_ds.2 d (by simp)
    have h_take : (d :: ds' ++ (ex ++ rest)).takeWhile Char.isDigit = d :: ds' :=
      takeWhile_append_of_stop h_ds.2 fun c h_c => (h_stop c h_c).1
    have h_dot : d ≠ '.' := fun h => by simp [h] at h_d
    rw [List.append_assoc]
    simp only [List.cons_append] at h_take ⊢
    simp only [numberLiteral, h_d, h_take, if_true]
    -- no fraction follows: the exponent or what follows the number does not start with a point
    split
    · rename_i r h_split
      simp only [List.length_cons, List.drop_succ_cons, List.drop_left] at h_split
      exact absurd rfl (h_stop '.' (by rw [h_split]; rfl)).2
    · simp [h_after]
  | point h_ds h_fs =>
    rename_i ds fs
    obtain ⟨d, ds', rfl⟩ := List.exists_cons_of_ne_nil h_ds.1
    have h_d : d.isDigit = true := h_ds.2 d (by simp)
    have h_whole : (d :: (ds' ++ '.' :: (fs ++ (ex ++ rest)))).takeWhile Char.isDigit = d :: ds' :=
      takeWhile_append_of_stop h_ds.2 fun c h_c => by
        simp only [List.head?_cons, Option.mem_def, Option.some.injEq] at h_c
        subst h_c
        decide
    have h_frac : (fs ++ (ex ++ rest)).takeWhile Char.isDigit = fs :=
      takeWhile_append_of_stop h_fs fun c h_c => (h_stop c h_c).1
    have h_dot : d ≠ '.' := fun h => by simp [h] at h_d
    -- the first character is a digit, so not the point that starts a fraction-only number
    simp only [numberLiteral, List.cons_append, List.append_assoc]
    simp [h_d, h_whole, h_frac, h_after]
  | fraction h_fs =>
    rename_i fs
    have h_frac : (fs ++ (ex ++ rest)).takeWhile Char.isDigit = fs :=
      takeWhile_append_of_stop h_fs.2 fun c h_c => (h_stop c h_c).1
    simp [numberLiteral, h_frac, h_after, h_fs.1]

/-- How a symbol token is written; numbers and columns have no fixed spelling. -/
def Token.spelling : Token → Option (List Char)
  | .plus => some ['+']
  | .minus => some ['-']
  | .star => some ['*']
  | .slash => some ['/']
  | .floorSlash => some ['/', '/']
  | .percent => some ['%']
  | .power => some ['*', '*']
  | .lparen => some ['(']
  | .rparen => some [')']
  | .number _ | .column _ => none

/-- `TokenText t cs`: `cs` is a way to write the token `t`. A column's name is trimmed. -/
inductive TokenText : Token → List Char → Prop
  | number {cs : List Char} : NumberText cs → TokenText (.number (literalValue cs)) cs
  | column {name : List Char} : '}' ∉ name → (trimBlank (String.ofList name)).isEmpty = false →
      TokenText (.column (trimBlank (String.ofList name))) ('$' :: '{' :: name ++ ['}'])
  | symbol {t : Token} {cs : List Char} : t.spelling = some cs → TokenText t cs

/-- Whether a character written right after a token would be read as part of it: a digit, a
point or an exponent mark after a number, `*` after `*`, `/` after `/`. -/
def Token.extendedBy : Token → Char → Bool
  | .number _, c => extendsNumber c
  | .star, c => c == '*'
  | .slash, c => c == '/'
  | _, _ => false

theorem symbolAt_append {t : Token} {cs rest : List Char} (h : t.spelling = some cs)
    (h_rest : ∀ c ∈ rest.head?, t.extendedBy c = false) :
    symbolAt (cs ++ rest) = some (t, cs.length) := by
  cases t <;> simp only [Token.spelling, Option.some.injEq, reduceCtorEq] at h <;> subst h
  all_goals cases rest with
    | nil => rfl
    | cons c r =>
      have h_c := h_rest c rfl
      simp only [Token.extendedBy, beq_eq_false_iff_ne] at h_c
      simp [symbolAt, h_c]

/-- A written token is read whole when what follows cannot continue it. -/
theorem tokenAt_append {t : Token} {cs rest : List Char} (eoi pos : Nat) (h : TokenText t cs)
    (h_rest : ∀ c ∈ rest.head?, t.extendedBy c = false) :
    tokenAt eoi pos (cs ++ rest) = .ok (t, cs.length) := by
  cases h with
  | number h_num =>
    simp [tokenAt, numberLiteral_append h_num h_rest]
  | column h_name h_trim =>
    rename_i name
    have h_take : (name ++ '}' :: rest).takeWhile (· != '}') = name :=
      takeWhile_append_of_stop (fun c h_c => by
        have h_ne : c ≠ '}' := fun h => h_name (h ▸ h_c)
        simpa using h_ne) (by simp)
    simp [tokenAt, numberLiteral, h_take, h_trim]
  | symbol h_sym =>
    have h_at := symbolAt_append h_sym h_rest
    -- a symbol starts neither a number nor a column
    cases t <;> simp only [Token.spelling, Option.some.injEq, reduceCtorEq] at h_sym <;> subst h_sym <;>
      simp_all [tokenAt, numberLiteral]

theorem NumberText.ne_nil {cs : List Char} (h : NumberText cs) : cs ≠ [] := by
  obtain ⟨mant, ex, rfl, h_mant, -⟩ := h
  cases h_mant with
  | whole h_ds => simp [h_ds.1]
  | point => simp
  | fraction => simp

theorem symbolAt_sound {cs : List Char} {t : Token} {n : Nat} (h : symbolAt cs = some (t, n)) :
    t.spelling = some (cs.take n) ∧ 0 < n := by
  unfold symbolAt at h
  split at h <;> cases h <;> simp [Token.spelling]

/-- A name cut at the first `}` that is shorter than the text is followed by that `}`. -/
theorem exists_close_of_takeWhile {rest : List Char}
    (h : (rest.takeWhile (· != '}')).length ≠ rest.length) :
    ∃ more, rest = rest.takeWhile (· != '}') ++ '}' :: more := by
  have h_split : rest.takeWhile (· != '}') ++ rest.dropWhile (· != '}') = rest :=
    List.takeWhile_append_dropWhile
  have h_ne : rest.dropWhile (· != '}') ≠ [] := by
    intro h_nil
    rw [h_nil, List.append_nil] at h_split
    exact h (congrArg List.length h_split)
  obtain ⟨c, more, h_cons⟩ := List.exists_cons_of_ne_nil h_ne
  have h_c := List.head_dropWhile_not (· != '}') h_ne
  simp only [h_cons, List.head_cons, bne_eq_false_iff_eq] at h_c
  subst h_c
  exact ⟨more, by rw [← h_cons, h_split]⟩

/-- What the token reader takes is a written token. -/
theorem tokenAt_sound {eoi pos : Nat} {cs : List Char} {t : Token} {n : Nat}
    (h : tokenAt eoi pos cs = .ok (t, n)) : 0 < n ∧ TokenText t (cs.take n) := by
  unfold tokenAt at h
  split at h
  · rename_i lit r h_lit
    cases h
    obtain ⟨rfl, h_num⟩ := numberLiteral_sound h_lit
    simpa [List.length_pos_iff] using ⟨h_num.ne_nil, TokenText.number h_num⟩
  · split at h
    · rename_i rest _
      dsimp only at h
      split at h
      · cases h
      · rename_i h_len
        split at h
        · cases h
        · rename_i h_trim
          cases h
          obtain ⟨more, h_more⟩ := exists_close_of_takeWhile (by simpa using h_len)
          have h_no : '}' ∉ rest.takeWhile (· != '}') := fun h_in => by
            simpa using List.mem_takeWhile_imp h_in
          generalize rest.takeWhile (· != '}') = name at h_trim h_more h_no ⊢
          subst h_more
          have h_take : ('$' :: '{' :: (name ++ '}' :: more)).take (name.length + 3) =
              '$' :: '{' :: name ++ ['}'] := by
            simp [List.take_append]
          rw [h_take]
          exact ⟨by omega, .column h_no (by simpa using h_trim)⟩
    · cases h
    · split at h
      · rename_i t' n' h_sym
        cases h
        obtain ⟨h_spell, h_pos⟩ := symbolAt_sound h_sym
        exact ⟨h_pos, .symbol h_spell⟩
      · cases h

/-- `Lexes cs ts`: the text `cs` is the tokens `ts` written out in order, with blanks before,
between and after them. -/
inductive Lexes : List Char → List Token → Prop
  | nil {bs : List Char} : (∀ c ∈ bs, isBlank c = true) → Lexes bs []
  | cons {bs txt rest : List Char} {t : Token} {ts : List Token} :
      (∀ c ∈ bs, isBlank c = true) → TokenText t txt → Lexes rest ts →
      Lexes (bs ++ txt ++ rest) (t :: ts)

theorem blanks_takeWhile (cs : List Char) : ∀ c ∈ cs.takeWhile isBlank, isBlank c = true :=
  fun _ h_c => List.mem_takeWhile_imp h_c

/-- What the lexer reads is a sequence of written tokens, with blanks around them. -/
theorem lexFrom_lexes {eoi pos : Nat} {cs : List Char} {ls : List Lexeme}
    (h : lexFrom eoi pos cs = .ok ls) : Lexes cs (ls.map (·.token)) := by
  fun_induction lexFrom eoi pos cs generalizing ls with
  | case1 pos cs blanks =>
    rename_i h_drop
    cases h
    have h_cs := eq_takeWhile_append_drop isBlank cs
    rw [h_drop, List.append_nil] at h_cs
    rw [h_cs]
    exact .nil (blanks_takeWhile cs)
  | case2 => cases h
  | case3 pos cs blanks pos' c rest h_drop t n h_tok taken h_lt =>
    rename_i ih
    cases h_rec : lexFrom eoi (pos' + byteLength taken) ((c :: rest).drop (max n 1)) with
    | error at_ => simp [h_rec, Except.map] at h
    | ok ls' =>
      simp only [h_rec, Except.map, Except.ok.injEq] at h
      subst h
      obtain ⟨h_pos, h_text⟩ := tokenAt_sound h_tok
      have h_max : max n 1 = n := by omega
      have h_next := ih h_rec
      rw [h_max] at h_next
      have h_cs := eq_takeWhile_append_drop isBlank cs
      rw [h_drop, ← List.take_append_drop n (c :: rest), ← List.append_assoc] at h_cs
      rw [h_cs]
      exact .cons (blanks_takeWhile cs) h_text h_next

/-- Whether the text of `b`, written right after the text of `a` with no blank between, would be
read into `a`: two numbers, `*` and `*` or `**`, `/` and `/` or `//`. -/
def Token.glues : Token → Token → Bool
  | .number _, .number _ => true
  | .star, .star | .star, .power => true
  | .slash, .slash | .slash, .floorSlash => true
  | _, _ => false

theorem isBlank_eq_false_of_isDigit {c : Char} (h : c.isDigit = true) : isBlank c = false := by
  simp only [Char.isDigit, Bool.and_eq_true, decide_eq_true_eq, UInt32.le_iff_toNat_le,
    Char.toNat_val, Char.reduceToNat] at h
  simp [isBlank]
  omega

theorem NumberText.head {cs : List Char} (h : NumberText cs) :
    ∃ c r, cs = c :: r ∧ (c.isDigit = true ∨ c = '.') := by
  obtain ⟨mant, ex, rfl, h_mant, -⟩ := h
  cases h_mant with
  | whole h_ds =>
    obtain ⟨d, ds', rfl⟩ := List.exists_cons_of_ne_nil h_ds.1
    exact ⟨d, _, rfl, .inl (h_ds.2 d (by simp))⟩
  | point h_ds =>
    obtain ⟨d, ds', rfl⟩ := List.exists_cons_of_ne_nil h_ds.1
    exact ⟨d, _, rfl, .inl (h_ds.2 d (by simp))⟩
  | fraction => exact ⟨'.', _, rfl, .inr rfl⟩

/-- A written token starts with a character that is no blank. -/
theorem TokenText.head {t : Token} {cs : List Char} (h : TokenText t cs) :
    ∃ c r, cs = c :: r ∧ isBlank c = false := by
  cases h with
  | number h_num =>
    obtain ⟨c, r, rfl, h_c⟩ := h_num.head
    refine ⟨c, r, rfl, ?_⟩
    rcases h_c with h_c | rfl
    · exact isBlank_eq_false_of_isDigit h_c
    · decide
  | column => exact ⟨'$', _, rfl, by decide⟩
  | symbol h_sym =>
    cases t <;> simp only [Token.spelling, Option.some.injEq, reduceCtorEq] at h_sym <;> subst h_sym <;>
      exact ⟨_, _, rfl, by decide⟩

theorem extendedBy_eq_false_of_isBlank (t : Token) {c : Char} (h : isBlank c = true) :
    t.extendedBy c = false := by
  have h_digit : c.isDigit = false := by
    cases h_d : c.isDigit
    · rfl
    · rw [isBlank_eq_false_of_isDigit h_d] at h
      cases h
  have h_ne : ∀ k : Char, isBlank k = false → (c == k) = false := fun k h_k => by
    cases h_eq : c == k
    · rfl
    · rw [beq_iff_eq.mp h_eq, h_k] at h
      cases h
  cases t <;> simp [Token.extendedBy, extendsNumber, h_digit, h_ne '.' (by decide),
    h_ne 'e' (by decide), h_ne 'E' (by decide), h_ne '*' (by decide), h_ne '/' (by decide)]

/-- A token is read into the one before it only where the two glue. -/
theorem TokenText.extendedBy_head {t t' : Token} {cs : List Char} (h : TokenText t' cs)
    (h_glue : t.glues t' = false) : ∀ c ∈ cs.head?, t.extendedBy c = false := by
  intro c h_c
  cases h with
  | number h_num =>
    obtain ⟨d, r, rfl, h_d⟩ := h_num.head
    simp only [List.head?_cons, Option.mem_def, Option.some.injEq] at h_c
    subst h_c
    -- a number starts with a digit or a point, which only the text of a number continues
    have h_ne : ∀ k : Char, k.isDigit = false → k ≠ '.' → d ≠ k := by
      rintro k h_k h_dot rfl
      rcases h_d with h_d | rfl
      · rw [h_d] at h_k
        cases h_k
      · exact h_dot rfl
    cases t <;> simp only [Token.glues, reduceCtorEq] at h_glue <;>
      simp [Token.extendedBy, h_ne '*' rfl (by decide), h_ne '/' rfl (by decide)]
  | column =>
    simp only [List.cons_append, List.head?_cons, Option.mem_def, Option.some.injEq] at h_c
    subst h_c
    cases t <;> rfl
  | symbol h_sym =>
    cases t' <;> simp only [Token.spelling, Option.some.injEq, reduceCtorEq] at h_sym <;> subst h_sym <;>
      simp only [List.head?_cons, Option.mem_def, Option.some.injEq] at h_c <;> subst h_c <;>
      cases t <;> simp_all [Token.glues, Token.extendedBy, extendsNumber]

/-- What follows a token in a written sequence does not continue it, unless the next token glues
to it. -/
theorem Lexes.extendedBy_head {rest : List Char} {ts : List Token} (h : Lexes rest ts) {t : Token}
    (h_glue : ∀ t' ∈ ts.head?, t.glues t' = false) : ∀ c ∈ rest.head?, t.extendedBy c = false := by
  intro c h_c
  cases h with
  | nil h_bs => exact extendedBy_eq_false_of_isBlank t (h_bs c (List.mem_of_mem_head? h_c))
  | cons h_bs h_text h_rest =>
    rename_i bs txt rest' t' ts'
    cases bs with
    | nil =>
      obtain ⟨d, r, rfl, -⟩ := h_text.head
      exact h_text.extendedBy_head (h_glue t' rfl) c (by simpa using h_c)
    | cons b bs =>
      simp only [List.cons_append, List.head?_cons, Option.mem_def, Option.some.injEq] at h_c
      exact extendedBy_eq_false_of_isBlank t (h_bs c (by simp [h_c]))

theorem lexFrom_blanks {eoi pos : Nat} {bs : List Char} (h_bs : ∀ c ∈ bs, isBlank c = true) :
    lexFrom eoi pos bs = .ok [] := by
  have h_take : bs.takeWhile isBlank = bs := List.takeWhile_eq_self_iff.mpr h_bs
  rw [lexFrom]
  split
  · rfl
  · rename_i h_drop
    simp [h_take] at h_drop

/-- One step of the lexer: the blanks are skipped and the token after them read. -/
theorem lexFrom_token {eoi pos : Nat} {bs txt rest : List Char} {t : Token}
    (h_bs : ∀ c ∈ bs, isBlank c = true) (h_head : ∃ c r, txt = c :: r ∧ isBlank c = false)
    (h_tok : tokenAt eoi (pos + byteLength bs) (txt ++ rest) = .ok (t, txt.length)) :
    lexFrom eoi pos (bs ++ txt ++ rest) =
      (lexFrom eoi (pos + byteLength bs + byteLength txt) rest).map (⟨t, pos + byteLength bs⟩ :: ·) := by
  obtain ⟨c, r, rfl, h_c⟩ := h_head
  have h_take : (bs ++ c :: (r ++ rest)).takeWhile isBlank = bs :=
    takeWhile_append_of_stop h_bs (by simp [h_c])
  rw [lexFrom]
  split
  · rename_i h_drop
    simp only [List.append_assoc, List.cons_append, h_take, List.drop_left, reduceCtorEq] at h_drop
  · rename_i c' rest' h_drop
    simp only [List.append_assoc, List.cons_append, h_take, List.drop_left] at h_drop h_tok ⊢
    rw [← h_drop, h_tok]
    simp
/-- A written sequence of tokens in which no two neighbours glue is read back token by token. -/
theorem lexFrom_of_lexes {cs : List Char} {ts : List Token} (h : Lexes cs ts)
    (h_sep : ts.IsChain (fun a b => a.glues b = false)) (eoi pos : Nat) :
    ∃ ls, lexFrom eoi pos cs = .ok ls ∧ ls.map (·.token) = ts := by
  induction h generalizing pos with
  | nil h_bs =>
    exact ⟨[], lexFrom_blanks h_bs, rfl⟩
  | cons h_bs h_text h_rest ih =>
    rename_i bs txt rest t ts
    have h_next := h_rest.extendedBy_head fun t' h_t' => by
      cases ts with
      | nil => cases h_t'
      | cons t'' ts =>
        cases h_t'
        exact (List.isChain_cons_cons.mp h_sep).1
    obtain ⟨ls, h_ls, h_map⟩ := ih h_sep.tail (pos + byteLength bs + byteLength txt)
    refine ⟨⟨t, pos + byteLength bs⟩ :: ls, ?_, ?_⟩
    · rw [lexFrom_token h_bs h_text.head (tokenAt_append eoi _ h_text h_next), h_ls]
      rfl
    · simp [h_map]

/-- Whether a token can end a derivation: a number, a column or `)`. -/
def Token.closes : Token → Bool
  | .number _ | .column _ | .rparen => true
  | _ => false

/-- Whether a token can start an operand: a sign, a number, a column or `(`. -/
def Token.opens : Token → Bool
  | .plus | .minus | .number _ | .column _ | .lparen => true
  | _ => false

/-- Only a number glues to what it follows, and only to a number. -/
theorem Token.glues_of_closes {x y : Token} (h_x : x.closes = true) (h_y : ∀ n, y ≠ .number n) :
    x.glues y = false := by
  cases x <;> cases y <;> simp_all [Token.closes, Token.glues]

/-- An operand's first token glues only to a number before it. -/
theorem Token.glues_of_opens {x y : Token} (h_y : y.opens = true) (h_x : ∀ n, x ≠ .number n) :
    x.glues y = false := by
  cases x <;> cases y <;> simp_all [Token.opens, Token.glues]

theorem Derives.unary_opens {ts : List Token} {e : Expr} (h : Derives .unary ts e) :
    ∃ t rest, ts = t :: rest ∧ t.opens = true := by
  cases h with
  | neg => exact ⟨_, _, rfl, rfl⟩
  | plus => exact ⟨_, _, rfl, rfl⟩
  | power h_power =>
    cases h_power with
    | base h_primary => cases h_primary <;> exact ⟨_, _, rfl, rfl⟩
    | pow h_primary => cases h_primary <;> exact ⟨_, _, rfl, rfl⟩

theorem Derives.product_opens {ts : List Token} {e : Expr} (h : Derives .product ts e) :
    ∃ t rest, ts = t :: rest ∧ t.opens = true := by
  cases h with
  | product h_unary =>
    obtain ⟨t, rest, rfl, h_t⟩ := h_unary.unary_opens
    exact ⟨t, _, rfl, h_t⟩

theorem Derives.sum_opens {ts : List Token} {e : Expr} (h : Derives .sum ts e) :
    ∃ t rest, ts = t :: rest ∧ t.opens = true := by
  cases h with
  | sum h_product =>
    obtain ⟨t, rest, rfl, h_t⟩ := h_product.product_opens
    exact ⟨t, _, rfl, h_t⟩

section Ends

variable {l r : List Token}

theorem closes_last_append (h_l : ∀ t ∈ l.getLast?, t.closes = true)
    (h_r : ∀ t ∈ r.getLast?, t.closes = true) : ∀ t ∈ (l ++ r).getLast?, t.closes = true := by
  intro t h_t
  simp only [List.getLast?_append, Option.mem_def, Option.or_eq_some_iff] at h_t
  rcases h_t with h_t | ⟨-, h_t⟩
  · exact h_r t h_t
  · exact h_l t h_t

theorem closes_last_cons (x : Token) (h_ne : ∃ u rest, r = u :: rest ∧ u.opens = true)
    (h_r : ∀ t ∈ r.getLast?, t.closes = true) : ∀ t ∈ (x :: r).getLast?, t.closes = true := by
  obtain ⟨u, rest, rfl, -⟩ := h_ne
  simpa only [List.getLast?_cons_cons] using h_r

end Ends

/-- Every derivation ends with a number, a column or `)`. -/
theorem Derives.last_closes {A : Sym} {ts : List Token} {e : Expr} (h : Derives A ts e) :
    ∀ t ∈ ts.getLast?, t.closes = true := by
  induction h with
  | sum _ _ ih_l ih_r
  | product _ _ ih_l ih_r => exact closes_last_append ih_l ih_r
  | sumTailCons _ h_r _ ih_r ih_e => exact closes_last_append (closes_last_cons _ h_r.product_opens ih_r) ih_e
  | productTailCons _ h_r _ ih_r ih_e => exact closes_last_append (closes_last_cons _ h_r.unary_opens ih_r) ih_e
  | sumTailNil | productTailNil => simp
  | neg h_e ih | plus h_e ih => exact closes_last_cons _ h_e.unary_opens ih
  | power _ ih | base _ ih => exact ih
  | pow _ h_x ih_b ih_x => exact closes_last_append ih_b (closes_last_cons _ h_x.unary_opens ih_x)
  | number | column => simp [Token.closes]
  | paren h_e ih => exact closes_last_append (closes_last_cons _ h_e.sum_opens ih) (by simp [Token.closes])

section Junctions

variable {l r : List Token}

/-- Where a derivation meets a token that is no number, the two do not glue. -/
theorem glues_at_last (h_l : ∀ t ∈ l.getLast?, t.closes = true)
    (h_r : ∀ y ∈ r.head?, ∀ n, y ≠ .number n) :
    ∀ x ∈ l.getLast?, ∀ y ∈ r.head?, x.glues y = false :=
  fun x h_x y h_y => Token.glues_of_closes (h_l x h_x) (h_r y h_y)

/-- Where a token that is no number meets an operand, the two do not glue. -/
theorem glues_at_head {x : Token} (h_x : ∀ n, x ≠ .number n)
    (h_r : ∃ u rest, r = u :: rest ∧ u.opens = true) : ∀ y ∈ r.head?, x.glues y = false := by
  obtain ⟨u, rest, rfl, h_u⟩ := h_r
  intro y h_y
  cases h_y
  exact Token.glues_of_opens h_u h_x

end Junctions

theorem ne_number_of_sumOp {t : Token} (h : (sumOp? t).isSome) : ∀ n, t ≠ .number n := by
  rintro n rfl
  simp [sumOp?] at h

theorem ne_number_of_productOp {t : Token} (h : (productOp? t).isSome) : ∀ n, t ≠ .number n := by
  rintro n rfl
  simp [productOp?] at h

/-- No two neighbouring tokens of a derivation glue. -/
theorem Derives.isChain {A : Sym} {ts : List Token} {e : Expr} (h : Derives A ts e) :
    ts.IsChain (fun a b => a.glues b = false) := by
  induction h with
  | sum h_l h_r ih_l ih_r =>
    exact ih_l.append ih_r (glues_at_last h_l.last_closes fun y h_y => ne_number_of_sumOp (h_r.sumTail_head y h_y))
  | product h_l h_r ih_l ih_r =>
    exact ih_l.append ih_r
      (glues_at_last h_l.last_closes fun y h_y => ne_number_of_productOp (h_r.productTail_head y h_y))
  | sumTailNil | productTailNil => exact .nil
  | sumTailCons h_op h_r h_e ih_r ih_e =>
    exact (ih_r.cons (glues_at_head (ne_number_of_sumOp (by simp [h_op])) h_r.product_opens)).append ih_e
      (glues_at_last (closes_last_cons _ h_r.product_opens h_r.last_closes)
        fun y h_y => ne_number_of_sumOp (h_e.sumTail_head y h_y))
  | productTailCons h_op h_r h_e ih_r ih_e =>
    exact (ih_r.cons (glues_at_head (ne_number_of_productOp (by simp [h_op])) h_r.unary_opens)).append ih_e
      (glues_at_last (closes_last_cons _ h_r.unary_opens h_r.last_closes)
        fun y h_y => ne_number_of_productOp (h_e.productTail_head y h_y))
  | neg h_e ih | plus h_e ih => exact ih.cons (glues_at_head (by simp) h_e.unary_opens)
  | power _ ih | base _ ih => exact ih
  | pow h_b h_x ih_b ih_x =>
    exact ih_b.append (ih_x.cons (glues_at_head (by simp) h_x.unary_opens))
      (glues_at_last h_b.last_closes (by simp))
  | number | column => exact .singleton _
  | paren h_e ih =>
    exact (ih.cons (glues_at_head (by simp) h_e.sum_opens)).append (.singleton _)
      (glues_at_last (closes_last_cons _ h_e.sum_opens h_e.last_closes) (by simp))

/-- A formula's text parses exactly when it is a written sequence of tokens that derives from
`expr`, and the tree is the derivation's. -/
theorem parse_eq_ok_iff (s : String) (e : Expr) :
    parse s = .ok e ↔ ∃ ts, Lexes s.toList ts ∧ Derives .sum ts e := by
  constructor
  · intro h
    cases h_lex : lex s with
    | error at_ => simp [parse, h_lex, bind, Except.bind] at h
    | ok ls =>
      simp only [parse, h_lex, bind, Except.bind] at h
      exact ⟨ls.map (·.token), lexFrom_lexes h_lex, (parseLexemes_eq_ok_iff _ ls e).mp h⟩
  · rintro ⟨ts, h_lexes, h_der⟩
    obtain ⟨ls, h_ls, rfl⟩ := lexFrom_of_lexes h_lexes h_der.isChain s.utf8ByteSize 0
    simp only [parse, lex, h_ls, bind, Except.bind]
    exact (parseLexemes_eq_ok_iff _ ls e).mpr h_der

/-- The reading of a formula is unique: its tokens and its tree are the only ones its text can be
written as and derived with. -/
theorem parse_eq_ok_iff_unique_derivation (s : String) :
    (∀ e, parse s = .ok e ↔ ∃ ts, Lexes s.toList ts ∧ Derives .sum ts e) ∧
      ∀ ts ts' e e', Lexes s.toList ts → Derives .sum ts e → Lexes s.toList ts' → Derives .sum ts' e' →
        ts = ts' ∧ e = e' := by
  refine ⟨parse_eq_ok_iff s, ?_⟩
  intro ts ts' e e' h_lexes h_der h_lexes' h_der'
  -- both token lists are what the lexer reads
  obtain ⟨ls, h_ls, rfl⟩ := lexFrom_of_lexes h_lexes h_der.isChain 0 0
  obtain ⟨ls', h_ls', rfl⟩ := lexFrom_of_lexes h_lexes' h_der'.isChain 0 0
  rw [h_ls] at h_ls'
  cases h_ls'
  -- and the parser gives one tree for them
  have h_e := (parseLexemes_eq_ok_iff 0 ls e).mpr h_der
  rw [(parseLexemes_eq_ok_iff 0 ls e').mpr h_der'] at h_e
  cases h_e
  exact ⟨rfl, rfl⟩

end MetricLayer.Formula
