import Mathlib
import MetricLayer.Decimal.Fixed
import MetricLayer.Proofs.Decimal.Order
/-!
# Integers as doubles

`ofInt` converts an integer to the double nearest to it through `roundRatio`: the magnitude
`n` is scaled to a 53-bit significand, by `2^(52 - L)` while `L = ⌊log₂ n⌋` is below 52 and
rounded at `2^(L - 52)` from there on, then packed into fields (`ofInt_eq`). The significand
never passes `2^53`, so the fields are never those of a NaN (`ofInt_isNaN_eq_false`).

Up to `2^53` in magnitude nothing is rounded: the integer is the normal double of its binade and
significand (`ofInt_eq_ofFields`), its key is its sign times the key of its magnitude
(`floatKey_ofInt`), and the conversion keeps the order of the integers
(`ofInt_lt_ofInt_iff`). Past `2^53` neighbouring integers share a double.
-/

namespace MetricLayer.Decimal

open Float.Model Float.Model.UnpackedFloat

/-! ## Never NaN -/

theorem floorLog2Ratio_one {n : Nat} (h : n ≠ 0) : floorLog2Ratio n 1 = n.log2 := by
  have h_le := Nat.log2_self_le h
  have h_one : Nat.log2 1 = 0 := by decide
  simp [floorLog2Ratio, h_one, h_le]

/-- The unit exponent `roundRatio` scales `n / d` to. -/
def unitExponent (n d : Nat) : Int := max (floorLog2Ratio n d - 52) (-1074)

/-- The last stage of `roundRatio`: a rounded significand `s` at unit exponent `q`, carried into
the next binade when rounding reached `2^53`, then packed into fields. -/
def assemble (neg : Bool) (s : Nat) (q : Int) : Float :=
  let (s, q) := if s == Nat.pow 2 53 then (Nat.pow 2 52, q + 1) else (s, q)
  if q > 971 then infinity neg
  else if s < Nat.pow 2 52 then ofFields neg 0 s
  else ofFields neg (q + 1075).toNat (s - Nat.pow 2 52)

/-- `roundRatio` in three stages: scale to the unit exponent, round the quotient, pack. -/
theorem roundRatio_eq {neg : Bool} {n d : Nat} (h_n : n ≠ 0) (h_d : d ≠ 0) :
    roundRatio neg n d =
      assemble neg
        (roundHalfEven (if unitExponent n d < 0 then n * Nat.pow 2 (-unitExponent n d).toNat else n)
          (if unitExponent n d < 0 then d else d * Nat.pow 2 (unitExponent n d).toNat))
        (unitExponent n d) := by
  rw [roundRatio, if_neg (by simp [h_n, h_d])]
  rfl

theorem roundHalfEven_one (m : Nat) : roundHalfEven m 1 = m := by
  simp [roundHalfEven, Nat.mod_one]

theorem roundHalfEven_le {num den : Nat} (h : num / den < 2 ^ 53) :
    roundHalfEven num den ≤ 2 ^ 53 := by
  unfold roundHalfEven
  simp only
  split <;> omega

theorem unitExponent_one {n : Nat} (h : n ≠ 0) : unitExponent n 1 = n.log2 - 52 := by
  rw [unitExponent, floorLog2Ratio_one h]
  omega

/-- A nonzero integer converts as its magnitude `n` scaled to a 53-bit significand: exactly, by
`2^(52 - L)`, while `L = ⌊log₂ n⌋` is below 52, and rounded at `2^(L - 52)` from there on. -/
theorem ofInt_eq {i : Int} (h : i ≠ 0) :
    ofInt i = assemble (i < 0)
      (if i.natAbs.log2 < 52 then i.natAbs * 2 ^ (52 - i.natAbs.log2)
        else roundHalfEven i.natAbs (2 ^ (i.natAbs.log2 - 52)))
      (i.natAbs.log2 - 52) := by
  have h_n : i.natAbs ≠ 0 := Int.natAbs_ne_zero.mpr h
  rw [ofInt, roundRatio_eq h_n one_ne_zero, unitExponent_one h_n]
  congr 1
  by_cases h_L : i.natAbs.log2 < 52
  · simp [h_L, roundHalfEven_one]
  · have h_k : ((i.natAbs.log2 : Int) - 52).toNat = i.natAbs.log2 - 52 := by omega
    simp [h_L, h_k]

/-- The fields a significand below `2^53` is packed into never spell NaN. -/
theorem packed_isNaN_eq_false {neg : Bool} {s : Nat} {q : Int} (h_s : s < 2 ^ 53) :
    (if q > 971 then infinity neg else if s < Nat.pow 2 52 then ofFields neg 0 s
      else ofFields neg (q + 1075).toNat (s - Nat.pow 2 52)).isNaN = false := by
  split_ifs with h_q h_sub
  · exact ofFields_isNaN_eq_false (by norm_num) (.inr ⟨rfl, rfl⟩)
  · exact ofFields_isNaN_eq_false h_sub (.inl (by norm_num))
  · exact ofFields_isNaN_eq_false (by simp at *; omega) (.inl (by omega))

theorem assemble_isNaN_eq_false {neg : Bool} {s : Nat} {q : Int} (h_s : s ≤ 2 ^ 53) :
    (assemble neg s q).isNaN = false := by
  unfold assemble
  split
  rename_i s' q' h_carry
  -- the carry replaces a significand of exactly 2^53 by 2^52
  have h_s' : s' < 2 ^ 53 := by
    split at h_carry <;> simp only [Prod.mk.injEq, beq_iff_eq, Nat.pow_eq] at * <;> omega
  exact packed_isNaN_eq_false h_s'

/-- Converting an integer never gives NaN. -/
theorem ofInt_isNaN_eq_false (i : Int) : (ofInt i).isNaN = false := by
  by_cases h : i = 0
  · subst h
    decide
  rw [ofInt_eq h]
  apply assemble_isNaN_eq_false
  -- the significand before rounding is below 2^53, as 2^L ≤ n < 2^(L+1)
  have h_high := @Nat.lt_log2_self i.natAbs
  generalize i.natAbs.log2 = L at *
  split
  · calc i.natAbs * 2 ^ (52 - L) ≤ 2 ^ (L + 1) * 2 ^ (52 - L) :=
          Nat.mul_le_mul_right _ h_high.le
      _ = 2 ^ 53 := by rw [← Nat.pow_add]; congr 1; omega
  · apply roundHalfEven_le
    rw [Nat.div_lt_iff_lt_mul (Nat.two_pow_pos _), ← Nat.pow_add]
    calc i.natAbs < 2 ^ (L + 1) := h_high
      _ = 2 ^ (53 + (L - 52)) := by congr 1; omega

/-! ## Exact integers -/

/-- A significand from `2^52` to below `2^53` at an exponent up to 971 is packed as a normal
double, with no carry. -/
theorem assemble_normal {neg : Bool} {s : Nat} {q : Int} (h_lo : 2 ^ 52 ≤ s) (h_hi : s < 2 ^ 53)
    (h_q : q ≤ 971) : assemble neg s q = ofFields neg (q + 1075).toNat (s - 2 ^ 52) := by
  have h_carry : (s == Nat.pow 2 53) = false := by simp [Nat.pow_eq]; omega
  simp only [assemble, h_carry, Bool.false_eq_true, if_false, Nat.pow_eq]
  rw [if_neg (by omega), if_neg (by omega)]

/-- The 53-bit significand of a magnitude `n` from 1 to `2^53`: `n` scaled up by `2^(52 - L)`
for `L = ⌊log₂ n⌋ ≤ 52`, and `n / 2` at `n = 2^53`. -/
def significand (n : Nat) : Nat := n * 2 ^ (52 - n.log2) / 2 ^ (n.log2 - 52)

/-- Where a magnitude from 1 to `2^53` converts to in the key order. -/
def magnitudeKey (n : Nat) : Nat := (n.log2 + 1023) * 2 ^ 53 + significand n

theorem significand_eq_of_log2_le {n : Nat} (h : n.log2 ≤ 52) :
    significand n = n * 2 ^ (52 - n.log2) := by
  simp [significand, Nat.sub_eq_zero_of_le h]

theorem log2_le_of_le {n : Nat} (h_0 : n ≠ 0) (h_n : n ≤ 2 ^ 53) : n.log2 ≤ 53 :=
  Nat.le_of_lt_succ ((Nat.log2_lt h_0).mpr (by omega))

/-- The only magnitude up to `2^53` in the binade of `2^53` is `2^53` itself. -/
theorem eq_of_log2_gt {n : Nat} (h_0 : n ≠ 0) (h_n : n ≤ 2 ^ 53) (h_L : 52 < n.log2) :
    n = 2 ^ 53 := by
  have h_low := Nat.log2_self_le h_0
  have : 2 ^ 53 ≤ 2 ^ n.log2 := Nat.pow_le_pow_right (by decide) h_L
  omega

theorem significand_bounds {n : Nat} (h_0 : n ≠ 0) (h_n : n ≤ 2 ^ 53) :
    2 ^ 52 ≤ significand n ∧ significand n < 2 ^ 53 := by
  by_cases h_L : n.log2 ≤ 52
  · have h_low := Nat.log2_self_le h_0
    have h_high := @Nat.lt_log2_self n
    rw [significand_eq_of_log2_le h_L]
    generalize n.log2 = L at *
    constructor
    · calc 2 ^ 52 = 2 ^ L * 2 ^ (52 - L) := by rw [← Nat.pow_add]; congr 1; omega
        _ ≤ n * 2 ^ (52 - L) := Nat.mul_le_mul_right _ h_low
    · calc n * 2 ^ (52 - L) < 2 ^ (L + 1) * 2 ^ (52 - L) :=
            Nat.mul_lt_mul_of_pos_right h_high (Nat.two_pow_pos _)
        _ = 2 ^ 53 := by rw [← Nat.pow_add]; congr 1; omega
  · rw [eq_of_log2_gt h_0 h_n (by omega)]
    decide

/-- An integer up to `2^53` in magnitude converts exactly, to the normal double of its binade
and significand. -/
theorem ofInt_eq_ofFields {i : Int} (h_0 : i ≠ 0) (h_i : i.natAbs ≤ 2 ^ 53) :
    ofInt i = ofFields (i < 0) (i.natAbs.log2 + 1023) (significand i.natAbs - 2 ^ 52) := by
  have h_n : i.natAbs ≠ 0 := Int.natAbs_ne_zero.mpr h_0
  obtain ⟨h_lo, h_hi⟩ := significand_bounds h_n h_i
  have h_L := log2_le_of_le h_n h_i
  -- no rounding happens: the magnitude is scaled up, or it is 2^53 and halved
  have h_sig : (if i.natAbs.log2 < 52 then i.natAbs * 2 ^ (52 - i.natAbs.log2)
      else roundHalfEven i.natAbs (2 ^ (i.natAbs.log2 - 52))) = significand i.natAbs := by
    split
    · rw [significand_eq_of_log2_le (by omega)]
    · by_cases h_52 : i.natAbs.log2 = 52
      · rw [significand_eq_of_log2_le (by omega), h_52]
        simp [roundHalfEven_one]
      · rw [eq_of_log2_gt h_n h_i (by omega)]
        decide
  rw [ofInt_eq h_0, h_sig, assemble_normal h_lo h_hi (by omega)]
  congr 1
  omega

/-- The key of an integer up to `2^53` in magnitude: its sign times the key of its magnitude. -/
theorem floatKey_ofInt {i : Int} (h_i : i.natAbs ≤ 2 ^ 53) :
    floatKey (ofInt i) = i.sign * magnitudeKey i.natAbs := by
  by_cases h_0 : i = 0
  · subst h_0
    decide
  have h_n : i.natAbs ≠ 0 := Int.natAbs_ne_zero.mpr h_0
  obtain ⟨h_lo, h_hi⟩ := significand_bounds h_n h_i
  have h_L := log2_le_of_le h_n h_i
  have h_key : (i.natAbs.log2 + 1023) * 2 ^ 53 + 2 ^ 52 + (significand i.natAbs - 2 ^ 52) =
      magnitudeKey i.natAbs := by
    unfold magnitudeKey
    omega
  rw [ofInt_eq_ofFields h_0 h_i, floatKey_ofFields_normal (by omega) (by omega) (by omega), h_key]
  rcases Int.lt_or_gt_of_ne h_0 with h_neg | h_pos
  · rw [decide_eq_true h_neg, if_pos rfl, Int.sign_eq_neg_one_of_neg h_neg, neg_one_mul]
  · rw [decide_eq_false (not_lt.mpr h_pos.le), if_neg Bool.false_ne_true,
      Int.sign_eq_one_of_pos h_pos, one_mul]

/-- Magnitudes up to `2^53` keep their order in the key order. -/
theorem magnitudeKey_lt {a b : Nat} (h_a : a ≠ 0) (h_ab : a < b) (h_b : b ≤ 2 ^ 53) :
    magnitudeKey a < magnitudeKey b := by
  have h_b0 : b ≠ 0 := by omega
  obtain ⟨-, h_sig_a⟩ := significand_bounds h_a (by omega)
  obtain ⟨h_sig_b, -⟩ := significand_bounds h_b0 h_b
  have h_La : a.log2 ≤ b.log2 :=
    Nat.le_of_lt_succ ((Nat.log2_lt h_a).mpr (Nat.lt_trans h_ab Nat.lt_log2_self))
  unfold magnitudeKey
  rcases Nat.lt_or_eq_of_le h_La with h_lt | h_eq
  · -- a lower binade: the exponent step outweighs any significand
    have h_step : (a.log2 + 1023) * 2 ^ 53 + 2 ^ 53 ≤ (b.log2 + 1023) * 2 ^ 53 := by
      rw [← Nat.succ_mul]
      exact Nat.mul_le_mul_right _ (by omega)
    omega
  · -- one binade, below that of 2^53 (which holds 2^53 alone): significands scale alike
    have h_b52 : b.log2 ≤ 52 := by
      by_contra h_top
      have := eq_of_log2_gt h_a (by omega) (by omega)
      omega
    rw [significand_eq_of_log2_le (by omega), significand_eq_of_log2_le h_b52, h_eq]
    have := Nat.mul_lt_mul_of_pos_right h_ab (Nat.two_pow_pos (52 - b.log2))
    omega

theorem magnitudeKey_pos (n : Nat) : 0 < magnitudeKey n := by
  unfold magnitudeKey
  positivity

/-- Integers from `-2^53` to `2^53` keep their order in the key order of their doubles. -/
theorem floatKey_ofInt_lt {i j : Int} (h_i : -2 ^ 53 ≤ i) (h_ij : i < j) (h_j : j ≤ 2 ^ 53) :
    floatKey (ofInt i) < floatKey (ofInt j) := by
  rw [floatKey_ofInt (by omega), floatKey_ofInt (by omega)]
  have h_ki := magnitudeKey_pos i.natAbs
  have h_kj := magnitudeKey_pos j.natAbs
  rcases lt_trichotomy i 0 with h_i0 | rfl | h_i0 <;>
    rcases lt_trichotomy j 0 with h_j0 | rfl | h_j0
  · -- both negative: the larger integer has the smaller magnitude
    have := magnitudeKey_lt (a := j.natAbs) (b := i.natAbs) (by omega) (by omega) (by omega)
    simp [Int.sign_eq_neg_one_of_neg h_i0, Int.sign_eq_neg_one_of_neg h_j0]
    omega
  · simp [Int.sign_eq_neg_one_of_neg h_i0]
    omega
  · simp [Int.sign_eq_neg_one_of_neg h_i0, Int.sign_eq_one_of_pos h_j0]
    omega
  · omega
  · omega
  · simp [Int.sign_eq_one_of_pos h_j0]
    omega
  · omega
  · omega
  · have := magnitudeKey_lt (a := i.natAbs) (b := j.natAbs) (by omega) (by omega) (by omega)
    simp [Int.sign_eq_one_of_pos h_i0, Int.sign_eq_one_of_pos h_j0]
    omega

/-- Integers up to `2^53` in magnitude convert to doubles that compare as the integers do. -/
theorem ofInt_lt_ofInt_iff {i j : Int} (h_i : i.natAbs ≤ 2 ^ 53) (h_j : j.natAbs ≤ 2 ^ 53) :
    ofInt i < ofInt j ↔ i < j := by
  rw [lt_iff_floatKey (ofInt_isNaN_eq_false i) (ofInt_isNaN_eq_false j)]
  constructor
  · intro h_key
    by_contra h_ge
    rcases Int.lt_or_eq_of_le (not_lt.mp h_ge) with h_lt | h_eq
    · have := floatKey_ofInt_lt (by omega) h_lt (by omega)
      omega
    · rw [h_eq] at h_key
      exact lt_irrefl _ h_key
  · exact fun h => floatKey_ofInt_lt (by omega) h (by omega)

end MetricLayer.Decimal
