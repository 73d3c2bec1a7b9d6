import MetricLayer.Formula.Parser
/-!
# The formula grammar

The grammar of formulas over tokens (`Derives`), with the tree each derivation builds:

```text
expr    := term (('+' | '-') term)*          left to right
term    := unary (('*' | '/' | '//' | '%') unary)*
unary   := ('+' | '-') unary | power
power   := primary ('**' unary)?
primary := number | column | '(' expr ')'
```

The binary operators of `expr` and `term` fold to the left. `**` takes a signed operand on its
right, so it nests to the right. A leading minus negates the whole power after it.

The parser reads exactly this grammar (`parseLexemes_eq_ok_iff`):

* it is complete (`parse_complete`): a derivation followed by a token that cannot continue it is
  read whole, with its tree, and the token is left. This is by induction over the derivation.
  The grammar decides each choice on the next token, so the parser's ordered choices never pass
  over a derivation;
* it is sound (`parse_sound`): what a parser reads is a derivation of its symbol. This is by
  induction over the number of tokens, one lemma per symbol in the order of the parser's own
  recursion.
-/

namespace MetricLayer.Formula

/-- The symbols of the grammar. A tail carries the tree folded so far: `sumTail acc` is the
`(('+' | '-') term)*` after a first term whose tree is `acc`. -/
inductive Sym where
  | sum
  | sumTail (acc : Expr)
  | product
  | productTail (acc : Expr)
  | unary
  | power
  | primary

/-- `Derives A ts e`: the tokens `ts` derive from the symbol `A`, and `e` is the tree of the
derivation. -/
inductive Derives : Sym → List Token → Expr → Prop
  | sum {ts us : List Token} {l e : Expr} :
      Derives .product ts l → Derives (.sumTail l) us e → Derives .sum (ts ++ us) e
  | sumTailNil {acc : Expr} : Derives (.sumTail acc) [] acc
  | sumTailCons {acc r e : Expr} {t : Token} {op : BinOp} {ts us : List Token} :
      sumOp? t = some op → Derives .product ts r → Derives (.sumTail (.binary op acc r)) us e →
      Derives (.sumTail acc) (t :: ts ++ us) e
  | product {ts us : List Token} {l e : Expr} :
      Derives .unary ts l → Derives (.productTail l) us e → Derives .product (ts ++ us) e
  | productTailNil {acc : Expr} : Derives (.productTail acc) [] acc
  | productTailCons {acc r e : Expr} {t : Token} {op : BinOp} {ts us : List Token} :
      productOp? t = some op → Derives .unary ts r →
      Derives (.productTail (.binary op acc r)) us e → Derives (.productTail acc) (t :: ts ++ us) e
  | neg {ts : List Token} {e : Expr} : Derives .unary ts e → Derives .unary (.minus :: ts) (.neg e)
  | plus {ts : List Token} {e : Expr} : Derives .unary ts e → Derives .unary (.plus :: ts) e
  | power {ts : List Token} {e : Expr} : Derives .power ts e → Derives .unary ts e
  | base {ts : List Token} {e : Expr} : Derives .primary ts e → Derives .power ts e
  | pow {ts us : List Token} {b x : Expr} : Derives .primary ts b → Derives .unary us x →
      Derives .power (ts ++ .power :: us) (.binary .pow b x)
  | number {n : Number} : Derives .primary [.number n] (.number n)
  | column {c : String} : Derives .primary [.column c] (.column c)
  | paren {ts : List Token} {e : Expr} :
      Derives .sum ts e → Derives .primary (.lparen :: ts ++ [.rparen]) e

/-- Whether a token is `**`. -/
def Token.isPower : Token → Bool
  | .power => true
  | _ => false

/-- Whether a token continues a derivation of the symbol that ends just before it: `**` after a
unary or a power, also `* / // %` after a term, also `+ -` after an expression. -/
def Sym.continuedBy : Sym → Token → Bool
  | .primary, _ => false
  | .power, t | .unary, t => t.isPower
  | .product, t | .productTail _, t => t.isPower || (productOp? t).isSome
  | .sum, t | .sumTail _, t => t.isPower || (productOp? t).isSome || (sumOp? t).isSome

/-- The tokens after a derivation of `A` do not continue it. -/
def Sym.Stops (A : Sym) (rest : Lexemes) : Prop :=
  ∀ l ∈ rest.head?, A.continuedBy l.token = false

/-- What the parser of a symbol reads off the front of `ts`: the tree and the tokens it leaves,
or `none` when it fails. Where a failure is reported is left out. -/
def Sym.parse (eoi far : Nat) : Sym → Lexemes → Option (Expr × Lexemes)
  | .sum, ts => (parseExpr eoi far ts).1.map fun p => (p.1, p.2.val)
  | .sumTail acc, ts =>
    some ((parseSumTail eoi far acc ts).1, (parseSumTail eoi far acc ts).2.1.val)
  | .product, ts => (parseProduct eoi far ts).1.map fun p => (p.1, p.2.val)
  | .productTail acc, ts =>
    some ((parseProductTail eoi far acc ts).1, (parseProductTail eoi far acc ts).2.1.val)
  | .unary, ts => (parseUnary eoi far ts).1.map fun p => (p.1, p.2.val)
  | .power, ts => (parsePower eoi far ts).1.map fun p => (p.1, p.2.val)
  | .primary, ts => (parsePrimary eoi far ts).1.map fun p => (p.1, p.2.val)

/-- `ts` is a derivation of `A` with tree `e`, followed by `rest`. -/
def Reads (A : Sym) (ts rest : Lexemes) (e : Expr) : Prop :=
  ∃ pre, ts = pre ++ rest ∧ Derives A (pre.map (·.token)) e

variable {eoi far : Nat}

/-- A successful parse, with the proof that it read something forgotten, is a successful raw
parse. -/
theorem raw_of_parse {ts : Lexemes} {o : Parsed ts × Nat} {e : Expr} {rest : Lexemes}
    (h : o.1.map (fun p => (p.1, p.2.val)) = some (e, rest)) :
    ∃ r far', o = (some (e, r), far') ∧ r.val = rest := by
  obtain ⟨o, far'⟩ := o
  obtain ⟨⟨e', r⟩, h_some, h_eq⟩ := Option.map_eq_some_iff.mp h
  obtain ⟨rfl, rfl⟩ := Prod.mk.inj h_eq
  exact ⟨r, far', by rw [show o = _ from h_some], rfl⟩

theorem parse_primary_number (n : Number) (p : Nat) (rest : Lexemes) :
    Sym.primary.parse eoi far (⟨.number n, p⟩ :: rest) = some (.number n, rest) := by
  simp [Sym.parse, parsePrimary]

theorem parse_primary_column (c : String) (p : Nat) (rest : Lexemes) :
    Sym.primary.parse eoi far (⟨.column c, p⟩ :: rest) = some (.column c, rest) := by
  simp [Sym.parse, parsePrimary]

theorem parse_primary_paren {p q : Nat} {rest r2 : Lexemes} {e : Expr}
    (h : Sym.sum.parse eoi (max far p) rest = some (e, ⟨.rparen, q⟩ :: r2)) :
    Sym.primary.parse eoi far (⟨.lparen, p⟩ :: rest) = some (e, r2) := by
  obtain ⟨r1, far', h_raw, h_r1⟩ := raw_of_parse h
  simp only [Sym.parse, parsePrimary, h_raw]
  split
  · rename_i h_split
    rw [h_r1] at h_split
    cases h_split
    rfl
  · rename_i h_other
    exact absurd h_r1 (h_other q r2)

theorem parse_power_base {ts r1 : Lexemes} {b : Expr} (h : Sym.primary.parse eoi far ts = some (b, r1))
    (h_stop : Sym.power.Stops r1) : Sym.power.parse eoi far ts = some (b, r1) := by
  obtain ⟨r1', far', h_raw, rfl⟩ := raw_of_parse h
  simp only [Sym.parse, parsePower, h_raw]
  split
  · rename_i q r2 h_split
    have h_head : (⟨.power, q⟩ : Lexeme) ∈ r1'.val.head? := by
      rw [h_split]
      rfl
    exact absurd (h_stop _ h_head) (by simp [Sym.continuedBy, Token.isPower])
  · rfl

theorem parse_power_pow {ts r2 r3 : Lexemes} {q : Nat} {b x : Expr}
    (h : Sym.primary.parse eoi far ts = some (b, ⟨.power, q⟩ :: r2))
    (h_exp : ∀ far', Sym.unary.parse eoi far' r2 = some (x, r3)) :
    Sym.power.parse eoi far ts = some (.binary .pow b x, r3) := by
  obtain ⟨r1, far1, h_raw, h_r1⟩ := raw_of_parse h
  simp only [Sym.parse, parsePower, h_raw]
  split
  · rename_i q' r2' h_split
    rw [h_r1] at h_split
    cases h_split
    obtain ⟨r3', far2, h_raw2, rfl⟩ := raw_of_parse (h_exp far1)
    simp [h_raw2]
  · rename_i h_other
    exact absurd h_r1 (h_other q r2)

theorem parse_unary_neg {p : Nat} {rest r : Lexemes} {e : Expr}
    (h : ∀ far', Sym.unary.parse eoi far' rest = some (e, r)) :
    Sym.unary.parse eoi far (⟨.minus, p⟩ :: rest) = some (.neg e, r) := by
  obtain ⟨r', far', h_raw, rfl⟩ := raw_of_parse (h far)
  simp [Sym.parse, parseUnary, h_raw]

theorem parse_unary_plus {p : Nat} {rest r : Lexemes} {e : Expr}
    (h : ∀ far', Sym.unary.parse eoi far' rest = some (e, r)) :
    Sym.unary.parse eoi far (⟨.plus, p⟩ :: rest) = some (e, r) := by
  obtain ⟨r', far', h_raw, rfl⟩ := raw_of_parse (h (max far p))
  simp [Sym.parse, parseUnary, h_raw]

/-- Whether a token is a sign, `-` or `+`. -/
def Token.isSign : Token → Bool
  | .minus | .plus => true
  | _ => false

theorem parse_unary_power {ts r : Lexemes} {e : Expr} (h_head : ∀ l ∈ ts.head?, l.token.isSign = false)
    (h : ∀ far', Sym.power.parse eoi far' ts = some (e, r)) :
    Sym.unary.parse eoi far ts = some (e, r) := by
  obtain ⟨r', far', h_raw, rfl⟩ := raw_of_parse (h (max far (offsetAt eoi ts)))
  rw [Sym.parse, parseUnary.eq_def]
  split
  · exact absurd (h_head _ rfl) (by simp [Token.isSign])
  · exact absurd (h_head _ rfl) (by simp [Token.isSign])
  · simp [h_raw]

theorem parse_product {ts r1 r2 : Lexemes} {l e : Expr}
    (h_first : Sym.unary.parse eoi far ts = some (l, r1))
    (h_tail : ∀ far', (Sym.productTail l).parse eoi far' r1 = some (e, r2)) :
    Sym.product.parse eoi far ts = some (e, r2) := by
  obtain ⟨r1', far1, h_raw, rfl⟩ := raw_of_parse h_first
  have h_tail := h_tail far1
  simp only [Sym.parse, Option.some.injEq] at h_tail
  simp [Sym.parse, parseProduct, h_raw, ← h_tail]

theorem parse_productTail_stop {acc : Expr} {ts : Lexemes}
    (h_stop : ∀ l ∈ ts.head?, productOp? l.token = none) :
    (Sym.productTail acc).parse eoi far ts = some (acc, ts) := by
  cases ts with
  | nil => simp [Sym.parse, parseProductTail]
  | cons l rest => simp [Sym.parse, parseProductTail, h_stop l rfl]

theorem parse_productTail_cons {acc r e : Expr} {op : BinOp} {l : Lexeme} {rest r1 r2 : Lexemes}
    (h_op : productOp? l.token = some op) (h_operand : ∀ far', Sym.unary.parse eoi far' rest = some (r, r1))
    (h_tail : ∀ far', (Sym.productTail (.binary op acc r)).parse eoi far' r1 = some (e, r2)) :
    (Sym.productTail acc).parse eoi far (l :: rest) = some (e, r2) := by
  obtain ⟨r1', far1, h_raw, rfl⟩ := raw_of_parse (h_operand far)
  have h_tail := h_tail far1
  simp only [Sym.parse, Option.some.injEq] at h_tail
  simp [Sym.parse, parseProductTail, h_op, h_raw, ← h_tail]

theorem parse_sum {ts r1 r2 : Lexemes} {l e : Expr}
    (h_first : Sym.product.parse eoi far ts = some (l, r1))
    (h_tail : ∀ far', (Sym.sumTail l).parse eoi far' r1 = some (e, r2)) :
    Sym.sum.parse eoi far ts = some (e, r2) := by
  obtain ⟨r1', far1, h_raw, rfl⟩ := raw_of_parse h_first
  have h_tail := h_tail far1
  simp only [Sym.parse, Option.some.injEq] at h_tail
  simp [Sym.parse, parseExpr, h_raw, ← h_tail]

theorem parse_sumTail_stop {acc : Expr} {ts : Lexemes}
    (h_stop : ∀ l ∈ ts.head?, sumOp? l.token = none) :
    (Sym.sumTail acc).parse eoi far ts = some (acc, ts) := by
  cases ts with
  | nil => simp [Sym.parse, parseSumTail]
  | cons l rest => simp [Sym.parse, parseSumTail, h_stop l rfl]

theorem parse_sumTail_cons {acc r e : Expr} {op : BinOp} {l : Lexeme} {rest r1 r2 : Lexemes}
    (h_op : sumOp? l.token = some op) (h_operand : ∀ far', Sym.product.parse eoi far' rest = some (r, r1))
    (h_tail : ∀ far', (Sym.sumTail (.binary op acc r)).parse eoi far' r1 = some (e, r2)) :
    (Sym.sumTail acc).parse eoi far (l :: rest) = some (e, r2) := by
  obtain ⟨r1', far1, h_raw, rfl⟩ := raw_of_parse (h_operand far)
  have h_tail := h_tail far1
  simp only [Sym.parse, Option.some.injEq] at h_tail
  simp [Sym.parse, parseSumTail, h_op, h_raw, ← h_tail]

-- ============================================================================
-- Where derivations start and stop
-- ============================================================================

theorem Sym.Stops.product_of_sum {rest : Lexemes} (h : Sym.sum.Stops rest) : Sym.product.Stops rest := by
  intro l h_l
  have := h l h_l
  simp only [Sym.continuedBy, Bool.or_eq_false_iff] at this ⊢
  exact this.1

theorem Sym.Stops.unary_of_product {rest : Lexemes} (h : Sym.product.Stops rest) : Sym.unary.Stops rest := by
  intro l h_l
  have := h l h_l
  simp only [Sym.continuedBy, Bool.or_eq_false_iff] at this ⊢
  exact this.1

/-- A sum's tail starts with `+` or `-`. -/
theorem Derives.sumTail_head {acc e : Expr} {us : List Token} (h : Derives (.sumTail acc) us e) :
    ∀ t ∈ us.head?, (sumOp? t).isSome := by
  cases h with
  | sumTailNil => simp
  | sumTailCons h_op => simp [h_op]

/-- A term's tail starts with `*`, `/`, `//` or `%`. -/
theorem Derives.productTail_head {acc e : Expr} {us : List Token} (h : Derives (.productTail acc) us e) :
    ∀ t ∈ us.head?, (productOp? t).isSome := by
  cases h with
  | productTailNil => simp
  | productTailCons h_op => simp [h_op]

/-- A primary starts with a number, a column or `(`, so not with a sign. -/
theorem Derives.primary_head {ts : List Token} {e : Expr} (h : Derives .primary ts e) :
    ∃ t rest, ts = t :: rest ∧ t.isSign = false := by
  cases h with
  | number => exact ⟨_, _, rfl, rfl⟩
  | column => exact ⟨_, _, rfl, rfl⟩
  | paren => exact ⟨_, _, rfl, rfl⟩

theorem Derives.power_head {ts : List Token} {e : Expr} (h : Derives .power ts e) :
    ∃ t rest, ts = t :: rest ∧ t.isSign = false := by
  cases h with
  | base h_primary => exact h_primary.primary_head
  | pow h_primary =>
    obtain ⟨t, rest, rfl, h_t⟩ := h_primary.primary_head
    exact ⟨t, _, rfl, h_t⟩

/-- After a term that a tail of a sum follows, the term stops. -/
theorem stops_before_sumTail {acc e : Expr} {us : List Token} {p rest : Lexemes}
    (h : Derives (.sumTail acc) us e) (h_p : p.map (·.token) = us) (h_stop : Sym.sum.Stops rest) :
    Sym.product.Stops (p ++ rest) := by
  cases p with
  | nil => exact h_stop.product_of_sum
  | cons l p =>
    intro l' h_l'
    cases h_l'
    have h_op := h.sumTail_head l.token (by simp [← h_p])
    cases h_t : l.token <;> simp_all [sumOp?, productOp?, Sym.continuedBy, Token.isPower]

theorem stops_before_productTail {acc e : Expr} {us : List Token} {p rest : Lexemes}
    (h : Derives (.productTail acc) us e) (h_p : p.map (·.token) = us)
    (h_stop : Sym.product.Stops rest) : Sym.unary.Stops (p ++ rest) := by
  cases p with
  | nil => exact h_stop.unary_of_product
  | cons l p =>
    intro l' h_l'
    cases h_l'
    have h_op := h.productTail_head l.token (by simp [← h_p])
    cases h_t : l.token <;> simp_all [productOp?, Sym.continuedBy, Token.isPower]

-- ============================================================================
-- Completeness
-- ============================================================================

/-- The parser of a symbol reads every derivation of it whole, with the derivation's tree, when
the next token cannot continue it. -/
theorem parse_complete {A : Sym} {ts : List Token} {e : Expr} (h : Derives A ts e) :
    ∀ {pre rest : Lexemes} (eoi far : Nat), pre.map (·.token) = ts → A.Stops rest →
      A.parse eoi far (pre ++ rest) = some (e, rest) := by
  induction h with
  | sum h_first h_tail ih_first ih_tail =>
    intro pre rest eoi far h_pre h_stop
    obtain ⟨p1, p2, rfl, h_p1, h_p2⟩ := List.map_eq_append_iff.mp h_pre
    rw [List.append_assoc]
    exact parse_sum (ih_first eoi far h_p1 (stops_before_sumTail h_tail h_p2 h_stop))
      fun far' => ih_tail eoi far' h_p2 h_stop
  | sumTailNil =>
    intro pre rest eoi far h_pre h_stop
    rw [List.map_eq_nil_iff.mp h_pre, List.nil_append]
    refine parse_sumTail_stop fun l h_l => ?_
    have := h_stop l h_l
    simp only [Sym.continuedBy, Bool.or_eq_false_iff, Option.isSome_eq_false_iff,
      Option.isNone_iff_eq_none] at this
    exact this.2
  | sumTailCons h_op h_operand h_tail ih_operand ih_tail =>
    intro pre rest eoi far h_pre h_stop
    obtain ⟨l, p, rfl, rfl, h_p⟩ := List.map_eq_cons_iff.mp h_pre
    obtain ⟨p1, p2, rfl, h_p1, h_p2⟩ := List.map_eq_append_iff.mp h_p
    rw [List.cons_append, List.append_assoc]
    exact parse_sumTail_cons h_op
      (fun far' => ih_operand eoi far' h_p1 (stops_before_sumTail h_tail h_p2 h_stop))
      (fun far' => ih_tail eoi far' h_p2 h_stop)
  | product h_first h_tail ih_first ih_tail =>
    intro pre rest eoi far h_pre h_stop
    obtain ⟨p1, p2, rfl, h_p1, h_p2⟩ := List.map_eq_append_iff.mp h_pre
    rw [List.append_assoc]
    exact parse_product (ih_first eoi far h_p1 (stops_before_productTail h_tail h_p2 h_stop))
      fun far' => ih_tail eoi far' h_p2 h_stop
  | productTailNil =>
    intro pre rest eoi far h_pre h_stop
    rw [List.map_eq_nil_iff.mp h_pre, List.nil_append]
    refine parse_productTail_stop fun l h_l => ?_
    have := h_stop l h_l
    simp only [Sym.continuedBy, Bool.or_eq_false_iff, Option.isSome_eq_false_iff,
      Option.isNone_iff_eq_none] at this
    exact this.2
  | productTailCons h_op h_operand h_tail ih_operand ih_tail =>
    intro pre rest eoi far h_pre h_stop
    obtain ⟨l, p, rfl, rfl, h_p⟩ := List.map_eq_cons_iff.mp h_pre
    obtain ⟨p1, p2, rfl, h_p1, h_p2⟩ := List.map_eq_append_iff.mp h_p
    rw [List.cons_append, List.append_assoc]
    exact parse_productTail_cons h_op
      (fun far' => ih_operand eoi far' h_p1 (stops_before_productTail h_tail h_p2 h_stop))
      (fun far' => ih_tail eoi far' h_p2 h_stop)
  | neg _ ih =>
    intro pre rest eoi far h_pre h_stop
    obtain ⟨⟨t, p⟩, pre', rfl, h_t, h_p⟩ := List.map_eq_cons_iff.mp h_pre
    cases h_t
    exact parse_unary_neg fun far' => ih eoi far' h_p h_stop
  | plus _ ih =>
    intro pre rest eoi far h_pre h_stop
    obtain ⟨⟨t, p⟩, pre', rfl, h_t, h_p⟩ := List.map_eq_cons_iff.mp h_pre
    cases h_t
    exact parse_unary_plus fun far' => ih eoi far' h_p h_stop
  | power h_power ih =>
    intro pre rest eoi far h_pre h_stop
    obtain ⟨t, ts, h_ts, h_sign⟩ := h_power.power_head
    obtain ⟨l, pre', rfl, rfl, -⟩ := List.map_eq_cons_iff.mp (h_pre.trans h_ts)
    exact parse_unary_power (by simpa using h_sign) fun far' => ih eoi far' h_pre h_stop
  | base _ ih =>
    intro pre rest eoi far h_pre h_stop
    exact parse_power_base (ih eoi far h_pre (fun _ _ => rfl)) h_stop
  | pow _ _ ih_base ih_exp =>
    intro pre rest eoi far h_pre h_stop
    obtain ⟨p1, p2, rfl, h_p1, h_p2⟩ := List.map_eq_append_iff.mp h_pre
    obtain ⟨⟨t, q⟩, p2', rfl, h_t, h_p2'⟩ := List.map_eq_cons_iff.mp h_p2
    cases h_t
    rw [List.append_assoc, List.cons_append]
    exact parse_power_pow (ih_base eoi far h_p1 fun _ _ => rfl) fun far' => ih_exp eoi far' h_p2' h_stop
  | number =>
    intro pre rest eoi far h_pre h_stop
    obtain ⟨⟨t, p⟩, pre', rfl, h_t, h_p⟩ := List.map_eq_cons_iff.mp h_pre
    cases h_t
    rw [List.map_eq_nil_iff.mp h_p]
    exact parse_primary_number _ p rest
  | column =>
    intro pre rest eoi far h_pre h_stop
    obtain ⟨⟨t, p⟩, pre', rfl, h_t, h_p⟩ := List.map_eq_cons_iff.mp h_pre
    cases h_t
    rw [List.map_eq_nil_iff.mp h_p]
    exact parse_primary_column _ p rest
  | paren _ ih =>
    intro pre rest eoi far h_pre h_stop
    obtain ⟨⟨t, p⟩, pre', rfl, h_t, h_p⟩ := List.map_eq_cons_iff.mp h_pre
    cases h_t
    obtain ⟨p1, p2, rfl, h_p1, h_p2⟩ := List.map_eq_append_iff.mp h_p
    obtain ⟨⟨t', q⟩, p2', rfl, h_t', h_p2'⟩ := List.map_eq_cons_iff.mp h_p2
    cases h_t'
    rw [List.map_eq_nil_iff.mp h_p2', List.cons_append, List.append_assoc, List.singleton_append]
    -- the closing parenthesis continues no expression
    exact parse_primary_paren (ih eoi (max far p) h_p1 fun _ h_l => by cases h_l; rfl)

-- ============================================================================
-- Soundness
-- ============================================================================

/-- What the parser of `A` reads off `ts` is a derivation of `A`. -/
def Sound (eoi : Nat) (A : Sym) (ts : Lexemes) : Prop :=
  ∀ far e rest, A.parse eoi far ts = some (e, rest) → Reads A ts rest e

theorem sound_primary {ts : Lexemes} (ih : ∀ A ts', ts'.length < ts.length → Sound eoi A ts') :
    Sound eoi .primary ts := by
  intro far e rest h
  obtain ⟨r, far', h_raw, rfl⟩ := raw_of_parse h
  rw [parsePrimary.eq_def] at h_raw
  split at h_raw
  · rename_i n p more
    cases h_raw
    exact ⟨[⟨.number n, p⟩], rfl, .number⟩
  · rename_i c p more
    cases h_raw
    exact ⟨[⟨.column c, p⟩], rfl, .column⟩
  · rename_i p inner
    split at h_raw
    · rename_i r1 h_expr
      split at h_raw
      · rename_i q r2 h_r1
        cases h_raw
        obtain ⟨pre, h_inner, h_der⟩ := ih .sum inner (by simp) (max far p) e
          (⟨.rparen, q⟩ :: r2) (by simp [Sym.parse, h_expr, h_r1])
        refine ⟨⟨.lparen, p⟩ :: pre ++ [⟨.rparen, q⟩], by simp [h_inner], ?_⟩
        simpa using Derives.paren h_der
      · cases h_raw
    · cases h_raw
  · cases h_raw

theorem sound_power {ts : Lexemes} (ih : ∀ A ts', ts'.length < ts.length → Sound eoi A ts')
    (h_primary : Sound eoi .primary ts) : Sound eoi .power ts := by
  intro far e rest h
  obtain ⟨r, far', h_raw, rfl⟩ := raw_of_parse h
  rw [parsePower.eq_def] at h_raw
  split at h_raw
  · rename_i b r1 far1 h_base
    obtain ⟨pre, h_ts, h_der⟩ := h_primary far b r1.val (by simp [Sym.parse, h_base])
    have h_len := r1.property
    split at h_raw
    · rename_i q r2 h_r1
      have h_shorter : r2.length < ts.length := by
        rw [h_r1, List.length_cons] at h_len
        omega
      split at h_raw
      · rename_i x r3 far2 h_exp
        cases h_raw
        obtain ⟨pre', h_r2, h_der'⟩ := ih .unary r2 h_shorter far1 x r3.val (by simp [Sym.parse, h_exp])
        refine ⟨pre ++ ⟨.power, q⟩ :: pre', by simp [h_ts, h_r1, h_r2], ?_⟩
        simpa using Derives.pow h_der h_der'
      · cases h_raw
        exact ⟨pre, h_ts, .base h_der⟩
    · cases h_raw
      exact ⟨pre, h_ts, .base h_der⟩
  · cases h_raw

theorem sound_unary {ts : Lexemes} (ih : ∀ A ts', ts'.length < ts.length → Sound eoi A ts')
    (h_power : Sound eoi .power ts) : Sound eoi .unary ts := by
  intro far e rest h
  obtain ⟨r, far', h_raw, rfl⟩ := raw_of_parse h
  rw [parseUnary.eq_def] at h_raw
  split at h_raw
  · rename_i p more
    split at h_raw
    · rename_i e' r' far1 h_inner
      cases h_raw
      obtain ⟨pre, h_more, h_der⟩ := ih .unary more (by simp) far e' r'.val
        (by simp [Sym.parse, h_inner])
      exact ⟨⟨.minus, p⟩ :: pre, by simp [h_more], by simpa using Derives.neg h_der⟩
    · cases h_raw
  · rename_i p more
    split at h_raw
    · rename_i e' r' far1 h_inner
      cases h_raw
      obtain ⟨pre, h_more, h_der⟩ := ih .unary more (by simp) (max far p) e r'.val
        (by simp [Sym.parse, h_inner])
      exact ⟨⟨.plus, p⟩ :: pre, by simp [h_more], by simpa using Derives.plus h_der⟩
    · cases h_raw
  · obtain ⟨pre, h_ts, h_der⟩ := h_power (max far (offsetAt eoi ts)) e r.val
      (by simp [Sym.parse, h_raw])
    exact ⟨pre, h_ts, .power h_der⟩

theorem sound_productTail {ts : Lexemes} (ih : ∀ A ts', ts'.length < ts.length → Sound eoi A ts')
    (acc : Expr) : Sound eoi (.productTail acc) ts := by
  intro far e rest h
  rcases h_raw : parseProductTail eoi far acc ts with ⟨e', r, far'⟩
  simp only [Sym.parse, h_raw, Option.some.injEq, Prod.mk.injEq] at h
  obtain ⟨rfl, rfl⟩ := h
  rw [parseProductTail.eq_def] at h_raw
  split at h_raw
  · rename_i l more
    split at h_raw
    · rename_i op h_op
      split at h_raw
      · rename_i x r1 far1 h_operand
        have h_len := r1.property
        obtain ⟨pre1, h_more, h_der1⟩ := ih .unary more (by simp) far x r1.val
          (by simp [Sym.parse, h_operand])
        rcases h_tail : parseProductTail eoi far1 (.binary op acc x) r1.val with ⟨e2, r2, far2⟩
        rw [h_tail] at h_raw
        cases h_raw
        obtain ⟨pre2, h_r1, h_der2⟩ := ih (.productTail (.binary op acc x)) r1.val
          (by simp only [List.length_cons]; omega) far1 e' r2.val (by simp [Sym.parse, h_tail])
        refine ⟨l :: pre1 ++ pre2, by simp [h_more, h_r1], ?_⟩
        simpa using Derives.productTailCons h_op h_der1 h_der2
      · cases h_raw
        exact ⟨[], rfl, .productTailNil⟩
    · cases h_raw
      exact ⟨[], rfl, .productTailNil⟩
  · cases h_raw
    exact ⟨[], rfl, .productTailNil⟩

theorem sound_product {ts : Lexemes} (ih : ∀ A ts', ts'.length < ts.length → Sound eoi A ts')
    (h_unary : Sound eoi .unary ts) : Sound eoi .product ts := by
  intro far e rest h
  obtain ⟨r, far', h_raw, rfl⟩ := raw_of_parse h
  rw [parseProduct.eq_def] at h_raw
  split at h_raw
  · rename_i l r1 far1 h_first
    have h_len := r1.property
    obtain ⟨pre1, h_ts, h_der1⟩ := h_unary far l r1.val (by simp [Sym.parse, h_first])
    rcases h_tail : parseProductTail eoi far1 l r1.val with ⟨e2, r2, far2⟩
    rw [h_tail] at h_raw
    cases h_raw
    obtain ⟨pre2, h_r1, h_der2⟩ := ih (.productTail l) r1.val h_len far1 e r2.val
      (by simp [Sym.parse, h_tail])
    exact ⟨pre1 ++ pre2, by simp [h_ts, h_r1], by simpa using Derives.product h_der1 h_der2⟩
  · cases h_raw

theorem sound_sumTail {ts : Lexemes} (ih : ∀ A ts', ts'.length < ts.length → Sound eoi A ts')
    (acc : Expr) : Sound eoi (.sumTail acc) ts := by
  intro far e rest h
  rcases h_raw : parseSumTail eoi far acc ts with ⟨e', r, far'⟩
  simp only [Sym.parse, h_raw, Option.some.injEq, Prod.mk.injEq] at h
  obtain ⟨rfl, rfl⟩ := h
  rw [parseSumTail.eq_def] at h_raw
  split at h_raw
  · rename_i l more
    split at h_raw
    · rename_i op h_op
      split at h_raw
      · rename_i x r1 far1 h_operand
        have h_len := r1.property
        obtain ⟨pre1, h_more, h_der1⟩ := ih .product more (by simp) far x r1.val
          (by simp [Sym.parse, h_operand])
        rcases h_tail : parseSumTail eoi far1 (.binary op acc x) r1.val with ⟨e2, r2, far2⟩
        rw [h_tail] at h_raw
        cases h_raw
        obtain ⟨pre2, h_r1, h_der2⟩ := ih (.sumTail (.binary op acc x)) r1.val
          (by simp only [List.length_cons]; omega) far1 e' r2.val (by simp [Sym.parse, h_tail])
        refine ⟨l :: pre1 ++ pre2, by simp [h_more, h_r1], ?_⟩
        simpa using Derives.sumTailCons h_op h_der1 h_der2
      · cases h_raw
        exact ⟨[], rfl, .sumTailNil⟩
    · cases h_raw
      exact ⟨[], rfl, .sumTailNil⟩
  · cases h_raw
    exact ⟨[], rfl, .sumTailNil⟩

theorem sound_sum {ts : Lexemes} (ih : ∀ A ts', ts'.length < ts.length → Sound eoi A ts')
    (h_product : Sound eoi .product ts) : Sound eoi .sum ts := by
  intro far e rest h
  obtain ⟨r, far', h_raw, rfl⟩ := raw_of_parse h
  rw [parseExpr.eq_def] at h_raw
  split at h_raw
  · rename_i l r1 far1 h_first
    have h_len := r1.property
    obtain ⟨pre1, h_ts, h_der1⟩ := h_product far l r1.val (by simp [Sym.parse, h_first])
    rcases h_tail : parseSumTail eoi far1 l r1.val with ⟨e2, r2, far2⟩
    rw [h_tail] at h_raw
    cases h_raw
    obtain ⟨pre2, h_r1, h_der2⟩ := ih (.sumTail l) r1.val h_len far1 e r2.val
      (by simp [Sym.parse, h_tail])
    exact ⟨pre1 ++ pre2, by simp [h_ts, h_r1], by simpa using Derives.sum h_der1 h_der2⟩
  · cases h_raw

/-- What the parser of a symbol reads is a derivation of that symbol. By induction over the
number of tokens; at each number the symbols follow the order in which the parsers call each
other on the same tokens. -/
theorem parse_sound (eoi : Nat) (A : Sym) (ts : Lexemes) : Sound eoi A ts := by
  induction h_n : ts.length using Nat.strongRecOn generalizing A ts with
  | ind n ih_n =>
    have ih : ∀ A ts', ts'.length < ts.length → Sound eoi A ts' :=
      fun A ts' h_lt => ih_n ts'.length (h_n ▸ h_lt) A ts' rfl
    have h_primary := sound_primary ih
    have h_power := sound_power ih h_primary
    have h_unary := sound_unary ih h_power
    have h_product := sound_product ih h_unary
    cases A with
    | sum => exact sound_sum ih h_product
    | sumTail acc => exact sound_sumTail ih acc
    | product => exact h_product
    | productTail acc => exact sound_productTail ih acc
    | unary => exact h_unary
    | power => exact h_power
    | primary => exact h_primary

-- ============================================================================
-- Whole token lists
-- ============================================================================

/-- A token list parses as a formula exactly when it derives from `expr`, and the tree is the
derivation's. -/
theorem parseLexemes_eq_ok_iff (eoi : Nat) (ls : Lexemes) (e : Expr) :
    parseLexemes eoi ls = .ok e ↔ Derives .sum (ls.map (·.token)) e := by
  constructor
  · intro h
    rw [parseLexemes] at h
    split at h
    · rename_i e' r far h_expr
      split at h
      · rename_i h_r
        cases h
        obtain ⟨pre, h_ls, h_der⟩ := parse_sound eoi .sum ls 0 e []
          (by simp [Sym.parse, h_expr, h_r])
        simpa [h_ls] using h_der
      · cases h
    · cases h
  · intro h
    have h_complete : Sym.sum.parse eoi 0 (ls ++ []) = some (e, []) :=
      parse_complete h eoi 0 rfl fun _ h_l => by cases h_l
    have h_parse : Sym.sum.parse eoi 0 ls = some (e, []) := by simpa using h_complete
    obtain ⟨r, far, h_raw, h_r⟩ := raw_of_parse h_parse
    rw [parseLexemes, h_raw]
    simp [h_r]

end MetricLayer.Formula
