import MetricLayer.Params.Parameter
import MetricLayer.Sql.Dialect
import MetricLayer.Proofs.Outcome
/-!
# The literals a parameter value becomes

`Parameter.formatValue` writes a value as SQL text. For every value it writes, that text is a
closed literal of the parameter's type (`formatValue_isLiteral`):

* a yes/no parameter gives `TRUE` or `FALSE`; any other type gives `NULL` for `null`;
* a string or a date is a single-quoted literal. Read as a string literal (`Sql.readString`),
  it denotes exactly the value's text and ends where the text ends, for every dialect that takes
  a backslash as itself. A dialect that reads a backslash as an escape of the next character
  (`Dialect.escapesBackslash`) reads it so exactly when the text has no backslash
  (`readString_quoteText_iff`): the quoting doubles single quotes and nothing else;
* an unquoted value is a non-empty word of ASCII letters, digits, `_` and `.`;
* a number is a `NumberLiteral`: an optional sign, digits, an optional fraction and an optional
  exponent. A double parsed from a JSON number is taken to be finite, as a JSON reader makes it;
  the floating-point operations that read it are opaque here, so that case stays apart.

A non-null value outside a parameter's allowed values is rejected (`formatValue_not_allowed`).
-/

namespace MetricLayer

open MetricLayer.Decimal

/-- Whether a dialect reads a backslash in a string literal as an escape of the character after
it: MySQL, BigQuery and Databricks do. -/
def Dialect.escapesBackslash : Dialect → Bool
  | .mysql | .bigquery | .databricks => true
  | _ => false

namespace Sql

/-- Reads the body of a single-quoted string literal up to its closing quote: the text it
denotes, and what follows the quote. A quote written twice stands for one quote; with `escapes`,
a backslash stands for the character after it. `none` when no quote closes the literal. -/
def readStringBody (escapes : Bool) : List Char → Option (List Char × List Char)
  | [] => none
  | c :: rest =>
    if c == '\'' then
      match rest with
      | '\'' :: rest => (readStringBody escapes rest).map fun p => ('\'' :: p.1, p.2)
      | _ => some ([], rest)
    else if escapes && c == '\\' then
      match rest with
      | [] => none
      | e :: rest => (readStringBody escapes rest).map fun p => (e :: p.1, p.2)
    else (readStringBody escapes rest).map fun p => (c :: p.1, p.2)

/-- Reads a single-quoted string literal at the start of a text: the text it denotes, and what
follows it. -/
def readString (escapes : Bool) : List Char → Option (List Char × List Char)
  | '\'' :: body => readStringBody escapes body
  | _ => none

/-- A backslash consumed by an escape stands for at most half as many backslashes. -/
theorem count_readStringBody {cs t rest : List Char} (h : readStringBody true cs = some (t, rest)) :
    2 * t.count '\\' + rest.count '\\' ≤ cs.count '\\' := by
  fun_induction readStringBody true cs generalizing t rest with
  | case1 => cases h
  | case2 c h_q body ih =>
    -- a quote written twice
    obtain ⟨⟨t', r'⟩, h_body, h_eq⟩ := Option.map_eq_some_iff.mp h
    cases h_eq
    have h_c : c = '\'' := by simpa using h_q
    subst h_c
    have := ih h_body
    simp only [List.count_cons]
    omega
  | case3 c body h_q _ =>
    -- the closing quote
    cases h
    have h_c : c = '\'' := by simpa using h_q
    subst h_c
    simp only [List.count_nil, List.count_cons]
    omega
  | case4 => cases h
  | case5 c _ h_esc e body ih =>
    -- a backslash and the character it escapes
    obtain ⟨⟨t', r'⟩, h_body, h_eq⟩ := Option.map_eq_some_iff.mp h
    cases h_eq
    have h_c : c = '\\' := by simpa using h_esc
    subst h_c
    have := ih h_body
    simp only [List.count_cons, beq_iff_eq, if_true]
    split <;> omega
  | case6 c body _ h_esc ih =>
    obtain ⟨⟨t', r'⟩, h_body, h_eq⟩ := Option.map_eq_some_iff.mp h
    cases h_eq
    have h_c : c ≠ '\\' := by simpa using h_esc
    have := ih h_body
    simp only [List.count_cons, beq_iff_eq, h_c, if_false, Nat.add_zero]
    omega

end Sql

namespace Parameter

open Sql

/-- One character as `quoteText` writes it: a single quote twice, any other once. -/
def doubleQuote (c : Char) : List Char := if c == '\'' then ['\'', '\''] else [c]

theorem quoteText_toList (s : String) :
    (quoteText s).toList = '\'' :: s.toList.flatMap doubleQuote ++ ['\''] := by
  rw [quoteText, String.toList_ofList]
  rfl

theorem count_flatMap_doubleQuote (s : List Char) :
    (s.flatMap doubleQuote).count '\\' = s.count '\\' := by
  induction s with
  | nil => rfl
  | cons c s ih =>
    by_cases h_q : c = '\''
    · subst h_q
      simp [doubleQuote, ih]
    · simp [doubleQuote, h_q, List.count_cons, ih]

/-- A character written by `quoteText` reads back as itself, unless it is a backslash that the
reader takes as an escape. -/
theorem readStringBody_doubleQuote {escapes : Bool} {c : Char} (h : escapes = false ∨ c ≠ '\\')
    (rest : List Char) :
    readStringBody escapes (doubleQuote c ++ rest) =
      (readStringBody escapes rest).map fun p => (c :: p.1, p.2) := by
  by_cases h_q : c = '\''
  · subst h_q
    simp [doubleQuote, readStringBody]
  · have h_esc : (escapes && c == '\\') = false := by
      rcases h with h | h <;> simp [h]
    rw [doubleQuote, if_neg (by simp [h_q]), List.singleton_append, readStringBody.eq_def]
    dsimp only
    rw [if_neg (by simp [h_q]), if_neg (by simp [h_esc])]

theorem readStringBody_flatMap {escapes : Bool} {s : List Char} (h : escapes = false ∨ '\\' ∉ s)
    (rest : List Char) :
    readStringBody escapes (s.flatMap doubleQuote ++ rest) =
      (readStringBody escapes rest).map fun p => (s ++ p.1, p.2) := by
  induction s with
  | nil => simp
  | cons c s ih =>
    have h_c : escapes = false ∨ c ≠ '\\' := h.imp_right fun h_s h_eq => h_s (h_eq ▸ List.mem_cons_self)
    have h_s : escapes = false ∨ '\\' ∉ s := h.imp_right fun h_s h_mem => h_s (List.mem_cons_of_mem c h_mem)
    rw [List.flatMap_cons, List.append_assoc, readStringBody_doubleQuote h_c, ih h_s, Option.map_map]
    rfl

/-- A quoted text reads back as exactly the text, and nothing follows it, unless the reader
takes a backslash as an escape and the text has one. -/
theorem readString_quoteText_iff (escapes : Bool) (s : String) :
    readString escapes (quoteText s).toList = some (s.toList, []) ↔
      escapes = false ∨ '\\' ∉ s.toList := by
  rw [quoteText_toList, List.cons_append, readString]
  constructor
  · intro h_read
    by_cases h_esc : escapes = false
    · exact .inl h_esc
    · -- escapes read as many backslashes as they consume, at most half
      have h_true : escapes = true := by simpa using h_esc
      subst h_true
      have h_count := count_readStringBody h_read
      rw [List.count_append, count_flatMap_doubleQuote] at h_count
      have h_zero : s.toList.count '\\' = 0 := by
        simp only [List.count_nil, List.count_singleton] at h_count
        rw [if_neg (by decide)] at h_count
        omega
      exact .inr (List.count_eq_zero.mp h_zero)
  · intro h
    rw [readStringBody_flatMap h]
    simp [readStringBody]

end Parameter

-- ============================================================================
-- Numbers
-- ============================================================================

namespace Decimal

/-- Decimal digits, at least one. -/
def Digits (cs : List Char) : Prop := cs ≠ [] ∧ ∀ c ∈ cs, c.isDigit = true

/-- No sign, a minus or a plus. -/
def IsSign (cs : List Char) : Prop := cs = [] ∨ cs = ['-'] ∨ cs = ['+']

/-- A number without its sign: digits, optionally a point and digits, and optionally `e` or `E`,
a sign and digits. -/
def UnsignedLiteral (cs : List Char) : Prop :=
  ∃ whole frac exp, cs = whole ++ frac ++ exp ∧ Digits whole ∧
    (frac = [] ∨ ∃ ds, frac = '.' :: ds ∧ Digits ds) ∧
    (exp = [] ∨ ∃ mark sign ds, exp = mark :: sign ++ ds ∧ (mark = 'e' ∨ mark = 'E') ∧ IsSign sign ∧
      Digits ds)

/-- A numeric literal: an optional sign, then an unsigned number. -/
def NumberLiteral (cs : List Char) : Prop :=
  ∃ sign rest, cs = sign ++ rest ∧ IsSign sign ∧ UnsignedLiteral rest

theorem Digits.append {a b : List Char} (h : Digits a) (h_b : ∀ c ∈ b, c.isDigit = true) :
    Digits (a ++ b) :=
  ⟨by simp [h.1], fun c h_c => (List.mem_append.mp h_c).elim (h.2 c) (h_b c)⟩

theorem digits_replicate_zero {n : Nat} : ∀ c ∈ List.replicate n '0', c.isDigit = true := by
  intro c h_c
  rw [List.eq_of_mem_replicate h_c]
  decide

theorem digits_zero : Digits ['0'] :=
  ⟨List.cons_ne_nil _ _, digits_replicate_zero (n := 1)⟩

theorem Digits.zeros_append {ds : List Char} (h : Digits ds) (n : Nat) :
    Digits (List.replicate n '0' ++ ds) :=
  ⟨by simp [h.1], fun c h_c => (List.mem_append.mp h_c).elim (digits_replicate_zero c) (h.2 c)⟩

theorem digits_digitText (d : Nat) : Digits (digitText d).toList := by
  rw [digitText, String.toList_ofList]
  exact ⟨Nat.toDigits_ne_nil, fun c h_c => Nat.isDigit_of_mem_toDigits (by decide) (by decide) h_c⟩

theorem UnsignedLiteral.of_digits {cs : List Char} (h : Digits cs) : UnsignedLiteral cs :=
  ⟨cs, [], [], by simp, h, .inl rfl, .inl rfl⟩

theorem NumberLiteral.of_unsigned {cs : List Char} (h : UnsignedLiteral cs) (neg : Bool) :
    NumberLiteral ((if neg then "-" else "").toList ++ cs) := by
  refine ⟨(if neg then "-" else "").toList, cs, rfl, ?_, h⟩
  cases neg
  · exact .inl rfl
  · exact .inr (.inl rfl)

/-- The sign of an exponent: a minus, a plus, or none. -/
theorem isSign_exponentSign (p : Prop) [Decidable p] (plus : Bool) :
    IsSign (if p then "-" else if plus then "+" else "").toList := by
  split
  · exact .inr (.inl rfl)
  · split
    · exact .inr (.inr rfl)
    · exact .inl rfl

/-- The digits of a double in a layout make an unsigned number: whole, with a fraction, or in
scientific notation. -/
theorem FloatLayout.body_unsignedLiteral (l : FloatLayout) (d : Nat) (j : Int) :
    UnsignedLiteral (l.body d j).toList := by
  have h_ds := digits_digitText d
  unfold FloatLayout.body
  dsimp only
  simp only [Int.ofNat_eq_natCast]
  split
  · split
    · -- a whole number: the digits, zeros, and `.0` when the layout keeps it
      refine ⟨(digitText d).toList ++ List.replicate j.toNat '0',
        if l.wholePoint then ['.', '0'] else [], [], ?_, h_ds.append digits_replicate_zero, ?_,
        .inl rfl⟩
      · cases l.wholePoint <;> simp [zeros]
      · cases l.wholePoint
        · exact .inl rfl
        · exact .inr ⟨['0'], rfl, digits_zero⟩
    · split
      · -- the point falls between the digits
        rename_i h_exp h_k
        have h_length : (digitText d).toList.length = (digitText d).length := String.length_toList
        refine ⟨(digitText d).toList.take (((digitText d).length : Int) + j).toNat,
          '.' :: (digitText d).toList.drop (((digitText d).length : Int) + j).toNat, [],
          ?_, ⟨?_, fun c h_c => h_ds.2 c (List.mem_of_mem_take h_c)⟩,
          .inr ⟨_, rfl, ?_, fun c h_c => h_ds.2 c (List.mem_of_mem_drop h_c)⟩, .inl rfl⟩
        · simp
        · simp only [ne_eq, List.take_eq_nil_iff, not_or]
          exact ⟨by omega, h_ds.1⟩
        · simp only [ne_eq, List.drop_eq_nil_iff, Nat.not_le, h_length]
          omega
      · -- below one: `0.`, zeros, the digits
        refine ⟨['0'],
          '.' :: (List.replicate (-(((digitText d).length : Int) + j)).toNat '0' ++
            (digitText d).toList), [], ?_,
          digits_zero, .inr ⟨_, rfl, h_ds.zeros_append _⟩, .inl rfl⟩
        simp [zeros]
  · -- scientific: a mantissa, `e`, a sign, the exponent's digits
    have h_sign := isSign_exponentSign (((digitText d).length : Int) + j - 1 < 0) l.plusExponent
    have h_es := digits_digitText (((digitText d).length : Int) + j - 1).natAbs
    simp only [String.toList_append]
    generalize (if ((digitText d).length : Int) + j - 1 < 0 then "-"
      else if l.plusExponent then "+" else "").toList = sign at h_sign ⊢
    generalize (digitText (((digitText d).length : Int) + j - 1).natAbs).toList = es at h_es ⊢
    have h_exp : ('e' :: sign ++ es = [] ∨ ∃ mark sign' ds, 'e' :: sign ++ es = mark :: sign' ++ ds ∧
        (mark = 'e' ∨ mark = 'E') ∧ IsSign sign' ∧ Digits ds) :=
      .inr ⟨'e', sign, es, rfl, .inl rfl, h_sign, h_es⟩
    split
    · rename_i c h_single
      have h_c : c.isDigit = true := h_ds.2 c (by simp [h_single])
      exact ⟨[c], [], 'e' :: sign ++ es, by simp, ⟨by simp, by simpa using h_c⟩, .inl rfl, h_exp⟩
    · rename_i c rest h_rest h_cons
      have h_digits : ∀ x ∈ c :: rest, x.isDigit = true := h_cons ▸ h_ds.2
      exact ⟨[c], '.' :: rest, 'e' :: sign ++ es, by simp,
        ⟨by simp, by simpa using h_digits c List.mem_cons_self⟩,
        .inr ⟨rest, rfl, ⟨h_rest, fun x h_x => h_digits x (List.mem_cons_of_mem c h_x)⟩⟩, h_exp⟩
    · rename_i h_nil
      exact absurd h_nil h_ds.1

/-- A finite double is written as a number in every layout. -/
theorem FloatLayout.render_numberLiteral (l : FloatLayout) {x : Float}
    (h : (parts x).isFinite = true) : NumberLiteral (l.render x).toList := by
  unfold FloatLayout.render
  rcases h_parts : parts x with _ | neg | ⟨neg, m, e⟩
  · rw [h_parts] at h
    cases h
  · rw [h_parts] at h
    cases h
  · dsimp only
    split
    · -- zero
      rw [String.toList_append]
      refine .of_unsigned ?_ neg
      cases l.wholePoint
      · exact .of_digits digits_zero
      · exact ⟨['0'], ['.', '0'], [], by simp, digits_zero,
          .inr ⟨['0'], rfl, digits_zero⟩, .inl rfl⟩
    · split
      · rename_i d j _
        rw [String.toList_append]
        exact .of_unsigned (l.body_unsignedLiteral d j) neg
      · rw [String.toList_append]
        exact .of_unsigned (.of_digits digits_zero) neg

theorem digits_repr (n : Nat) : Digits n.repr.toList := by
  rw [Nat.toList_repr]
  exact ⟨Nat.toDigits_ne_nil, fun c h_c => Nat.isDigit_of_mem_toDigits (by decide) (by decide) h_c⟩

end Decimal

namespace Json

open MetricLayer.Decimal

/-- A JSON number is written as an integer, or as a double in the JSON layout. -/
theorem NumberValue.text_numberLiteral (v : NumberValue) :
    NumberLiteral v.text.toList ∨ ∃ x, v = .double x ∧ (parts x).isFinite = false := by
  cases v with
  | unsigned n => exact .inl ⟨[], _, rfl, .inl rfl, .of_digits (digits_repr n)⟩
  | negative i =>
    left
    rw [NumberValue.text, Int.toString_eq_repr, Int.repr_eq_if]
    split
    · exact ⟨[], _, rfl, .inl rfl, .of_digits (digits_repr i.toNat)⟩
    · exact ⟨['-'], _, by simp, .inr (.inl rfl), .of_digits (digits_repr (-i).toNat)⟩
  | double x =>
    cases h_fin : (parts x).isFinite
    · exact .inr ⟨x, rfl, h_fin⟩
    · exact .inl (FloatLayout.jsonNumber.render_numberLiteral h_fin)

end Json

namespace Parameter

/-- A number parameter writes a number, unless its value is a JSON number whose double is not
finite. -/
theorem formatNumber_numberLiteral {p : Parameter} {v : Json} {out : String}
    (h : p.formatNumber v = .ok out) :
    NumberLiteral out.toList ∨
      ∃ t x, v = .num t ∧ Json.numberValue t = .double x ∧ (parts x).isFinite = false := by
  cases v with
  | num t =>
    rw [formatNumber] at h
    cases h
    rcases (Json.numberValue t).text_numberLiteral with h_lit | ⟨x, h_x, h_inf⟩
    · exact .inl h_lit
    · exact .inr ⟨t, x, rfl, h_x, h_inf⟩
  | str s =>
    rw [formatNumber] at h
    split at h
    · split at h
      · cases h
        exact .inl (FloatLayout.literal.render_numberLiteral ‹_›)
      · cases h
    · cases h
  | _ => simp [formatNumber] at h

/-- The literal written for a value that passes the allowed values, by the parameter's type. -/
theorem formatValue_ok {p : Parameter} {v : Json} {out : String} (h : p.formatValue v = .ok out) :
    (p.type = .yesno ∧ out = if truthy v then "TRUE" else "FALSE") ∨
      (p.type ≠ .yesno ∧ v.isNull = true ∧ out = "NULL") ∨
      (v.isNull = false ∧ (((p.type = .string ∨ p.type = .date) ∧ out = quoteText (valueText v)) ∨
        (p.type = .unquoted ∧ isSafeUnquoted (valueText v) = true ∧ out = valueText v) ∨
        (p.type = .number ∧ p.formatNumber v = .ok out))) := by
  unfold formatValue at h
  dsimp only at h
  -- a value the allowed values reject throws; past the check, the type chooses the literal
  split at h <;> try (split at h; exact absurd h (throw_bind_ne_ok _ _ _))
  all_goals
    split at h
    · rename_i h_ty
      cases h
      exact .inl ⟨h_ty, rfl⟩
    · rename_i h_ty
      split at h
      · rename_i h_null
        cases h
        exact .inr (.inl ⟨h_ty, h_null, rfl⟩)
      rename_i h_null
      refine .inr (.inr ⟨by simpa using h_null, ?_⟩)
      split at h
      · rename_i h_num
        exact .inr (.inr ⟨h_num, h⟩)
      · rename_i h_unq
        split at h
        · rename_i h_safe
          cases h
          exact .inr (.inl ⟨h_unq, h_safe, rfl⟩)
        · exact absurd h (throw_ne_ok _ _)
      · rename_i ty' h_num h_unq
        cases h
        refine .inl ⟨?_, rfl⟩
        cases h_t : p.type <;> simp_all

/-- A non-null value that equals none of a parameter's allowed values is rejected, whatever the
parameter's type. -/
theorem formatValue_not_allowed {p : Parameter} {v : Json} {allowed : List Json}
    (h_allowed : p.allowedValues = some allowed) (h_null : v.isNull = false)
    (h_out : ∀ a ∈ allowed, (a == v) = false) :
    p.formatValue v = .error (p.invalid (v.render ++ " is not one of the allowed values")) := by
  have h_any : allowed.any (· == v) = false := List.any_eq_false.mpr fun a h_a => by
    simp [h_out a h_a]
  simp only [formatValue, h_allowed, h_null, h_any, Bool.not_false, Bool.and_self, if_true]
  rfl

/-- Text that may stand unquoted is a non-empty word of ASCII letters, digits, `_` and `.`. -/
theorem isSafeUnquoted_word {s : String} (h : isSafeUnquoted s = true) :
    s.toList ≠ [] ∧ ∀ c ∈ s.toList, c.isAlphanum ∨ c = '_' ∨ c = '.' := by
  simp only [isSafeUnquoted, Bool.and_eq_true, Bool.not_eq_true', String.isEmpty_eq_false_iff,
    List.all_eq_true, Bool.or_eq_true, beq_iff_eq] at h
  obtain ⟨h_ne, h_chars⟩ := h
  refine ⟨by simpa using h_ne, fun c h_c => ?_⟩
  rcases h_chars c h_c with (h_an | h_us) | h_dot
  · exact .inl (by simp_all)
  · exact .inr (.inl h_us)
  · exact .inr (.inr h_dot)

/-- `out` is the literal of a parameter's type that stands for the value `v`. -/
inductive IsLiteral (p : Parameter) (v : Json) : String → Prop
  /-- A yes/no parameter writes whether the value counts as yes, `null` included. -/
  | yesno : p.type = .yesno → IsLiteral p v (if truthy v then "TRUE" else "FALSE")
  | null : p.type ≠ .yesno → v.isNull = true → IsLiteral p v "NULL"
  /-- A single-quoted literal, read to its end as exactly the value's text by every dialect
  that reads it so at all. -/
  | quoted {out : String} : p.type = .string ∨ p.type = .date → v.isNull = false →
      (∀ d : Dialect, Sql.readString d.escapesBackslash out.toList = some ((valueText v).toList, []) ↔
        d.escapesBackslash = false ∨ '\\' ∉ (valueText v).toList) →
      IsLiteral p v out
  | word : p.type = .unquoted → v.isNull = false → (valueText v).toList ≠ [] →
      (∀ c ∈ (valueText v).toList, c.isAlphanum ∨ c = '_' ∨ c = '.') → IsLiteral p v (valueText v)
  | number {out : String} : p.type = .number → v.isNull = false → NumberLiteral out.toList →
      IsLiteral p v out

end Parameter

namespace Json

/-- A value that is no number read as a non-finite double. A JSON reader rejects a number out
of a double's range, so the values it gives are all of this kind. -/
def ReadsFinite (v : Json) : Prop :=
  ∀ t x, v = .num t → numberValue t = .double x → (parts x).isFinite = true

end Json

namespace Parameter

/-- Every text `formatValue` writes is a closed literal of the parameter's type standing for the
value. -/
theorem formatValue_isLiteral {p : Parameter} {v : Json} {out : String} (h_fin : v.ReadsFinite)
    (h : p.formatValue v = .ok out) : p.IsLiteral v out := by
  rcases formatValue_ok h with ⟨h_ty, rfl⟩ | ⟨h_ty, h_null, rfl⟩ |
    ⟨h_null, ⟨h_ty, rfl⟩ | ⟨h_ty, h_safe, rfl⟩ | ⟨h_ty, h_num⟩⟩
  · exact .yesno h_ty
  · exact .null h_ty h_null
  · exact .quoted h_ty h_null fun d => readString_quoteText_iff d.escapesBackslash (valueText v)
  · obtain ⟨h_ne, h_chars⟩ := isSafeUnquoted_word h_safe
    exact .word h_ty h_null h_ne h_chars
  · rcases formatNumber_numberLiteral h_num with h_lit | ⟨t, x, h_v, h_x, h_inf⟩
    · exact .number h_ty h_null h_lit
    · cases (h_fin t x h_v h_x).symm.trans h_inf

end Parameter

end MetricLayer
