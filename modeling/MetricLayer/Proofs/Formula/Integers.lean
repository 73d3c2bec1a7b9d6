import MetricLayer.Formula.Eval
import MetricLayer.Proofs.Outcome
import Mathlib.Data.Rat.Floor
/-!
# Formulas over the integers

A formula with 64-bit integer literals, integer columns and no `/` (`IntFormula`) has an exact
meaning in the integers (`IntFormula.value`): `+ - *` and negation are exact, `//` is the floor of
the rational quotient, `%` is what that quotient leaves (so a remainder has the divisor's sign)
and `**` is a power. Every node is checked against 64 bits, and the operands are taken left to
right, so a failure is the first one in post-order: a division by zero for `//` or `%` by zero,
an overflow for a value outside 64 bits.

The evaluator keeps to this meaning on every operator but two (`applyOp_int_of_supported`,
`applyOp_int_of_unsupported`): `i64::MIN % -1` and a `**` of `0`, `1` or `-1` with an exponent of
2^32 or more are overflows, although their exact values fit. Everywhere else the evaluation of a
whole formula is its exact value (`IntFormula.eval_toExpr_eq_value`), by induction over the
formula on the operator lemma.
-/

namespace MetricLayer.Formula

open MetricLayer.Decimal

/-! ## Floor division of integers -/

theorem floorDivInt_eq_fdiv (a : Int) {b : Int} (hb : b ≠ 0) : floorDivInt a b = a.fdiv b := by
  rw [Int.fdiv_eq_tdiv, floorDivInt]
  by_cases h_dvd : b ∣ a
  · have h_mod : a.tmod b = 0 := Int.tmod_eq_zero_of_dvd h_dvd
    simp [h_dvd, h_mod]
  · have h_mod : a.tmod b ≠ 0 := fun h => h_dvd (Int.dvd_of_tmod_eq_zero h)
    -- truncation rounds up exactly when the signs differ and the division is not exact
    rcases Int.lt_or_gt_of_ne hb with hb | hb
    · rw [Int.sign_eq_neg_one_of_neg hb]
      by_cases ha : 0 ≤ a
      · simp [h_dvd, h_mod, ha, hb, Int.not_lt.mpr]
      · simp [h_dvd, h_mod, ha, hb]
        omega
    · rw [Int.sign_eq_one_of_pos hb]
      by_cases ha : 0 ≤ a <;> simp [h_dvd, h_mod, ha] <;> omega

theorem fdiv_eq_floor_of_nonneg (a : Int) {b : Int} (hb : 0 ≤ b) : a.fdiv b = ⌊(a : ℚ) / b⌋ := by
  lift b to Nat using hb
  rw [Int.fdiv_eq_ediv_of_nonneg a (Int.natCast_nonneg _), Int.cast_natCast,
    Rat.floor_intCast_div_natCast]

theorem fdiv_eq_floor (a b : Int) : a.fdiv b = ⌊(a : ℚ) / b⌋ := by
  rcases Int.le_total 0 b with hb | hb
  · exact fdiv_eq_floor_of_nonneg a hb
  · rw [← Int.neg_fdiv_neg, fdiv_eq_floor_of_nonneg (-a) (Int.neg_nonneg_of_nonpos hb),
      Int.cast_neg, Int.cast_neg, neg_div_neg_eq]

/-- `//` is the floor of the rational quotient. -/
theorem floorDivInt_eq_floor (a : Int) {b : Int} (hb : b ≠ 0) :
    floorDivInt a b = ⌊(a : ℚ) / b⌋ := by
  rw [floorDivInt_eq_fdiv a hb, fdiv_eq_floor]

theorem floorModInt_eq_fmod (a : Int) {b : Int} (hb : b ≠ 0) : floorModInt a b = a.fmod b := by
  rw [Int.fmod_eq_tmod, floorModInt]
  by_cases h_dvd : b ∣ a
  · have h_mod : a.tmod b = 0 := Int.tmod_eq_zero_of_dvd h_dvd
    simp [h_dvd, h_mod]
  · have h_mod : a.tmod b ≠ 0 := fun h => h_dvd (Int.dvd_of_tmod_eq_zero h)
    -- the truncated remainder has the sign of the dividend
    have h_sign : a.tmod b < 0 ↔ a < 0 := by
      constructor
      · intro h
        by_contra ha
        have := Int.tmod_nonneg b (Int.not_lt.mp ha)
        omega
      · intro ha
        have := Int.tmod_nonneg b (Int.neg_nonneg_of_nonpos (Int.le_of_lt ha))
        rw [Int.neg_tmod] at this
        omega
    simp only [h_dvd, if_false, h_sign]
    rcases Int.lt_or_gt_of_ne hb with hb | hb
    · have hb' : ¬ 0 ≤ b := Int.not_le.mpr hb
      by_cases ha : 0 ≤ a
      · simp [ha, Int.not_lt.mpr ha, hb, hb', h_mod]
      · simp [ha, Int.not_le.mp ha, hb, hb', Int.toNat_of_nonpos hb.le]
    · have hb' : ¬ b < 0 := Int.not_lt.mpr hb.le
      by_cases ha : 0 ≤ a
      · simp [ha, Int.not_lt.mpr ha, hb.le, hb']
      · simp [ha, Int.not_le.mp ha, hb.le, hb', h_mod, abs_of_pos hb]

/-- `%` is what the floor of the rational quotient leaves. -/
theorem floorModInt_eq_sub_floor (a : Int) {b : Int} (hb : b ≠ 0) :
    floorModInt a b = a - b * ⌊(a : ℚ) / b⌋ := by
  rw [floorModInt_eq_fmod a hb, Int.fmod_def, fdiv_eq_floor]

/-! ## Integer formulas and their exact values -/

/-- The operators that keep integers integral: all but `/`. -/
inductive IntOp where
  | add
  | sub
  | mul
  | floorDiv
  | mod
  | pow
  deriving DecidableEq, Repr

/-- The formula operator an integer operator is. -/
def IntOp.toBinOp : IntOp → BinOp
  | .add => .add
  | .sub => .sub
  | .mul => .mul
  | .floorDiv => .floorDiv
  | .mod => .mod
  | .pow => .pow

/-- Formulas of integer arithmetic: 64-bit literals, columns, negation and every operator
but `/`. -/
inductive IntFormula where
  | lit (i : Int64)
  | column (name : String)
  | neg (f : IntFormula)
  | binary (op : IntOp) (l r : IntFormula)

/-- The formula tree an integer formula is. -/
def IntFormula.toExpr : IntFormula → Expr
  | .lit i => .number (.int i.toInt)
  | .column name => .column name
  | .neg f => .neg f.toExpr
  | .binary op l r => .binary op.toBinOp l.toExpr r.toExpr

/-- An exact integer, or an overflow when it needs more than 64 bits. -/
def within64 (v : Int) : Except EvalError Int :=
  if fitsI64 v then .ok v else .error .overflow

/-- The exact value of an operator on two integers, checked against 64 bits: `//` is the floor
of the rational quotient, `%` what that quotient leaves, `**` a power with a natural exponent;
`//` and `%` by zero are divisions by zero. -/
def IntOp.exact : IntOp → Int → Int → Except EvalError Int
  | .add, a, b => within64 (a + b)
  | .sub, a, b => within64 (a - b)
  | .mul, a, b => within64 (a * b)
  | .floorDiv, a, b => if b = 0 then .error .divisionByZero else within64 ⌊(a : ℚ) / b⌋
  | .mod, a, b => if b = 0 then .error .divisionByZero else within64 (a - b * ⌊(a : ℚ) / b⌋)
  | .pow, a, b => within64 (a ^ b.toNat)

namespace IntFormula

/-- The exact value of a formula with its columns read from `env`: operands left to right and
every node checked against 64 bits, so a failure is the first one in post-order. -/
def value (env : String → Int64) : IntFormula → Except EvalError Int
  | .lit i => .ok i.toInt
  | .column name => .ok (env name).toInt
  | .neg f => do within64 (-(← f.value env))
  | .binary op l r => do op.exact (← l.value env) (← r.value env)

theorem value_binary {env : String → Int64} {op : IntOp} {l r : IntFormula} {a b : Int}
    (h_l : l.value env = .ok a) (h_r : r.value env = .ok b) :
    (binary op l r).value env = op.exact a b := by
  simp only [value, h_l, h_r]
  rfl

/-- `P` holds of the operator and the operands of every binary node that is reached, that is
whose operands both have values. -/
def OperandsMeet (env : String → Int64) (P : IntOp → Int → Int → Prop) : IntFormula → Prop
  | .lit _ | .column _ => True
  | .neg f => f.OperandsMeet env P
  | .binary op l r => l.OperandsMeet env P ∧ r.OperandsMeet env P ∧
      ∀ a b, l.value env = .ok a → r.value env = .ok b → P op a b

/-- The columns of `env` as the evaluator reads them. -/
def reader (env : String → Int64) (name : String) : Except EvalError Number :=
  .ok (.int (env name).toInt)

end IntFormula

/-- The 64-bit range with its bounds written out, for `omega`. -/
theorem fitsI64_iff (v : Int) :
    fitsI64 v = true ↔ -9223372036854775808 ≤ v ∧ v ≤ 9223372036854775807 := by
  have h_min : i64Min = -9223372036854775808 := rfl
  have h_max : i64Max = 9223372036854775807 := rfl
  simp [fitsI64, h_min, h_max]

/-! ## The operators on 64-bit integers -/

/-- The evaluator's range check is `within64`. -/
theorem checked_eq (v : Int) : checked v = (within64 v).map .int := by
  unfold checked within64
  split <;> rfl

theorem not_fits_pow {a : Int} {e : Nat} (h_a : 2 ≤ a.natAbs) (h_e : 64 ≤ e) :
    fitsI64 (a ^ e) = false := by
  have h_big : 2 ^ 64 ≤ (a ^ e).natAbs := by
    rw [Int.natAbs_pow]
    calc 2 ^ 64 ≤ 2 ^ e := Nat.pow_le_pow_right (by decide) h_e
      _ ≤ a.natAbs ^ e := Nat.pow_le_pow_left h_a e
  rw [Bool.eq_false_iff]
  intro h_fits
  rw [fitsI64_iff] at h_fits
  omega

theorem fits_pow_of_natAbs_le_one {a : Int} (h : a.natAbs ≤ 1) (e : Nat) :
    fitsI64 (a ^ e) = true := by
  have h_pow : (a ^ e).natAbs ≤ 1 := by
    rw [Int.natAbs_pow]
    exact pow_le_one₀ (Nat.zero_le _) h
  rw [fitsI64_iff]
  omega

theorem neg_one_pow_eq (e : Nat) : (-1 : Int) ^ e = if e % 2 = 0 then 1 else -1 := by
  rw [neg_one_pow_eq_pow_mod_two]
  rcases Nat.mod_two_eq_zero_or_one e with h | h <;> simp [h]

/-- Whole powers of 64-bit integers are exact, save an exponent of 2^32 or more, which fails
for every base; only for `0`, `1` and `-1` is that a loss. -/
theorem powInt_eq {a : Int} {e : Nat} (h : e < 2 ^ 32 ∨ 2 ≤ a.natAbs) :
    powInt a e = (within64 (a ^ e)).map .int := by
  unfold powInt
  by_cases h_e : e ≥ Nat.pow 2 32
  · have h_a : 2 ≤ a.natAbs := h.resolve_left (by simpa [Nat.pow_eq] using h_e)
    have h_64 : 64 ≤ e := by simp only [Nat.pow_eq] at h_e; omega
    rw [if_pos h_e, within64, not_fits_pow h_a h_64]
    rfl
  · rw [if_neg h_e]
    by_cases h_small : a.natAbs ≤ 1
    · -- the powers of 0, 1 and -1 are 0, 1 and -1 again
      rw [within64, if_pos (fits_pow_of_natAbs_le_one h_small e)]
      rcases (show a = 0 ∨ a = 1 ∨ a = -1 by omega) with rfl | rfl | rfl
      · cases e <;> simp [Except.map]
      · simp [Except.map]
      · simp [Except.map, neg_one_pow_eq]
    · have h_a : 2 ≤ a.natAbs := by omega
      have h_ne : a ≠ 0 ∧ a ≠ 1 ∧ a ≠ -1 := by omega
      simp only [h_ne, beq_iff_eq, if_false]
      by_cases h_64 : e ≥ 64
      · rw [if_pos h_64, within64, not_fits_pow h_a h_64]
        rfl
      · rw [if_neg h_64, checked_eq]
        rfl

/-- On two integers, an operator whose integer step gives an integer or fails is that step,
after the check for a zero divisor. -/
theorem applyOp_int_int {op : BinOp} {a b : Int} {x : Except EvalError Int}
    (h_int : applyInt op a b = x.map .int) :
    applyOp op (.int a) (.int b) =
      if (op == .div || op == .floorDiv || op == .mod) && b == 0 then .error .divisionByZero
      else x.map .int := by
  simp only [applyOp, h_int]
  cases x <;> simp [Number.isZero] <;> rfl

/-- The operands on which the 64-bit operator computes the exact value: all but
`i64::MIN % -1`, and for `**` a non-negative exponent below 2^32 unless the base is at least 2
in size (whose power overflows anyway). -/
def IntOp.Supported : IntOp → Int → Int → Prop
  | .mod, a, b => ¬ (a = i64Min ∧ b = -1)
  | .pow, a, b => 0 ≤ b ∧ (b < 2 ^ 32 ∨ 2 ≤ a.natAbs)
  | _, _, _ => True

/-- On supported operands an operator gives its exact value, checked against 64 bits. -/
theorem applyOp_int_of_supported {op : IntOp} {a b : Int} (h : op.Supported a b) :
    applyOp op.toBinOp (.int a) (.int b) = (op.exact a b).map .int := by
  cases op with
  | add =>
    rw [applyOp_int_int (x := within64 (a + b)) (by simp [applyInt, checked_eq, IntOp.toBinOp])]
    simp +decide [IntOp.toBinOp, IntOp.exact]
  | sub =>
    rw [applyOp_int_int (x := within64 (a - b)) (by simp [applyInt, checked_eq, IntOp.toBinOp])]
    simp +decide [IntOp.toBinOp, IntOp.exact]
  | mul =>
    rw [applyOp_int_int (x := within64 (a * b)) (by simp [applyInt, checked_eq, IntOp.toBinOp])]
    simp +decide [IntOp.toBinOp, IntOp.exact]
  | floorDiv =>
    rw [applyOp_int_int (x := within64 (floorDivInt a b))
      (by simp [applyInt, checked_eq, IntOp.toBinOp])]
    by_cases h_zero : b = 0
    · simp +decide [IntOp.toBinOp, IntOp.exact, h_zero, Except.map]
    · simp +decide [IntOp.toBinOp, IntOp.exact, h_zero, floorDivInt_eq_floor a h_zero]
  | mod =>
    have h_min : ¬ (a = i64Min ∧ b = -1) := h
    rw [applyOp_int_int (x := within64 (floorModInt a b))
      (by simp [applyInt, checked_eq, IntOp.toBinOp, h_min])]
    by_cases h_zero : b = 0
    · simp +decide [IntOp.toBinOp, IntOp.exact, h_zero, Except.map]
    · simp +decide [IntOp.toBinOp, IntOp.exact, h_zero, floorModInt_eq_sub_floor a h_zero]
  | pow =>
    obtain ⟨h_nonneg, h_reach⟩ := h
    have h_exp : b.toNat < 2 ^ 32 ∨ 2 ≤ a.natAbs := by omega
    rw [applyOp_int_int (x := within64 (a ^ b.toNat))
      (by simp [applyInt, IntOp.toBinOp, h_nonneg, powInt_eq h_exp])]
    simp +decide [IntOp.toBinOp, IntOp.exact]

/-- On the other operands, a power's exponent being non-negative, the operator overflows
although the exact value fits: `i64::MIN % -1` is `0`, and a power of `0`, `1` or `-1` is one of
them for any exponent. -/
theorem applyOp_int_of_unsupported {op : IntOp} {a b : Int} (h_pow : op = .pow → 0 ≤ b)
    (h : ¬ op.Supported a b) :
    applyOp op.toBinOp (.int a) (.int b) = .error .overflow ∧ ∃ v, op.exact a b = .ok v := by
  cases op with
  | add | sub | mul | floorDiv => exact absurd trivial h
  | mod =>
    obtain ⟨rfl, rfl⟩ : a = i64Min ∧ b = -1 := Classical.not_not.mp h
    have h_int : applyInt .mod i64Min (-1) = (Except.error .overflow).map Number.int := by
      simp [applyInt, Except.map]
    refine ⟨by rw [IntOp.toBinOp, applyOp_int_int h_int]; rfl, 0, ?_⟩
    have h_rem : floorModInt i64Min (-1) = 0 := by decide
    rw [IntOp.exact, if_neg (by decide), ← floorModInt_eq_sub_floor _ (by decide), h_rem]
    rfl
  | pow =>
    have h_nonneg := h_pow rfl
    have h_exp : 2 ^ 32 ≤ b.toNat ∧ a.natAbs ≤ 1 := by
      simp only [IntOp.Supported, not_and, not_or] at h
      omega
    have h_int : applyInt .pow a b = (Except.error .overflow).map Number.int := by
      have h_large : b.toNat ≥ Nat.pow 2 32 := by
        rw [Nat.pow_eq]
        exact h_exp.1
      simp only [applyInt, if_pos h_nonneg]
      rw [powInt, if_pos h_large]
      rfl
    refine ⟨by rw [IntOp.toBinOp, applyOp_int_int h_int]; rfl, a ^ b.toNat, ?_⟩
    rw [IntOp.exact, within64, if_pos (fits_pow_of_natAbs_le_one h_exp.2 _)]

/-! ## Whole formulas -/

/-- A formula whose reached operands are all supported evaluates to its exact value: an integer
when every node fits in 64 bits, else the first failure in post-order. By induction over the
formula, each binary node by `applyOp_int_of_supported`. -/
theorem IntFormula.eval_toExpr_eq_value (env : String → Int64) (f : IntFormula)
    (h : f.OperandsMeet env IntOp.Supported) :
    eval (IntFormula.reader env) f.toExpr = (f.value env).map .int := by
  induction f with
  | lit i => rfl
  | column name => rfl
  | neg f ih =>
    simp only [IntFormula.toExpr, eval, ih h, IntFormula.value]
    cases f.value env with
    | error e => rfl
    | ok v => exact checked_eq (-v)
  | binary op l r ih_l ih_r =>
    obtain ⟨h_l, h_r, h_op⟩ := h
    simp only [IntFormula.toExpr, eval, ih_l h_l, ih_r h_r, IntFormula.value]
    cases h_lv : l.value env with
    | error e => rfl
    | ok a =>
      cases h_rv : r.value env with
      | error e => rfl
      | ok b => exact applyOp_int_of_supported (h_op a b h_lv h_rv)

/-- `(${price} - 7) // 2 % -(3 ** 2)` with a price of 40: every operand is supported, and the
evaluation is the exact value. -/
theorem priceSteps_eval_exact :
    let f : IntFormula := .binary .mod
      (.binary .floorDiv (.binary .sub (.column "price") (.lit 7)) (.lit 2))
      (.neg (.binary .pow (.lit 3) (.lit 2)))
    let env : String → Int64 := fun _ => 40
    f.OperandsMeet env IntOp.Supported ∧
      eval (IntFormula.reader env) f.toExpr = (f.value env).map .int := by
  intro f env
  have h_meet : f.OperandsMeet env IntOp.Supported := by
    simp [f, env, IntFormula.OperandsMeet, IntOp.Supported, IntFormula.value, IntOp.exact,
      within64, bind, Except.bind, fitsI64_iff]
  exact ⟨h_meet, IntFormula.eval_toExpr_eq_value env f h_meet⟩

/-- `1 ** 4294967296` is exactly `1`, but the evaluator reports an overflow: the exponent is
past 32 bits. -/
theorem one_pow_large_exponent_overflows :
    let f : IntFormula := .binary .pow (.lit 1) (.lit 4294967296)
    f.value (fun _ => 0) = .ok 1 ∧
      eval (IntFormula.reader fun _ => 0) f.toExpr = .error .overflow := by
  intro f
  have h_one : (1 : Int64).toInt = 1 := by decide
  have h_exp : (4294967296 : Int64).toInt = 4294967296 := by decide
  have h_unsupported : ¬ IntOp.pow.Supported 1 4294967296 := by
    simp [IntOp.Supported]
  constructor
  · rw [IntFormula.value_binary (a := 1) (b := 4294967296) (by rw [IntFormula.value, h_one])
      (by rw [IntFormula.value, h_exp])]
    -- the power is left unevaluated: `1 ^ n` is rewritten, never computed
    rw [IntOp.exact, one_pow, within64, if_pos (by decide)]
  · simp only [f, IntFormula.toExpr, IntOp.toBinOp, eval, h_one, h_exp]
    exact (applyOp_int_of_unsupported (fun _ => by decide) h_unsupported).1

end MetricLayer.Formula
