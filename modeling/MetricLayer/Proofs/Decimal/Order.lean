import Mathlib
import MetricLayer.Decimal.Binary
/-!
# The order of doubles

A double is stored as sign, exponent and fraction fields. Core Lean reads the fields back into an
unpacked value (`Float.Model.UnpackedFloat.unpack`): NaN exactly for an all-ones exponent with a
nonzero fraction (`unpack_eq_nan_iff`), otherwise an infinity, a zero or a finite `±m · 2^e`.
The fields `ofFields` writes unpack as expected: never NaN when the fraction fits
(`ofFields_isNaN_eq_false`), and the normal double of the fields for an exponent field from 1 to
2046 (`unpack_ofFields_normal`).

Comparisons of doubles (`<`, `==`) are read off the IEEE comparison of the unpacked values.
Away from NaN that comparison is the comparison of an integer key (`floatKey`): a finite double
`±m · 2^e` sits at `±((e + 1075) · 2^53 + m)`, both zeros at `0`, the infinities beyond every
finite double (`lt_iff_floatKey`, `beq_iff_floatKey`). So on doubles other than NaN, `<` is a
strict weak order and `==` its equivalence.
-/

namespace MetricLayer.Decimal

open Float.Model Float.Model.UnpackedFloat

/-! ## Bit fields -/

theorem toNat_unpackExponent (b : BitVec 64) :
    (@unpackExponent Format.binary64 b).toNat = b.toNat / 2 ^ 52 % 2 ^ 11 := by
  simp [unpackExponent, BitVec.extractLsb_toNat, Nat.shiftRight_eq_div_pow]

theorem toNat_unpackMantissa (b : BitVec 64) :
    (@unpackMantissa Format.binary64 b).toNat = b.toNat % 2 ^ 52 := by
  simp [unpackMantissa, BitVec.extractLsb_toNat]

theorem toNat_unpackSign (b : BitVec 64) :
    (@unpackSign Format.binary64 b).toNat = b.toNat / 2 ^ 63 % 2 := by
  simp [unpackSign, BitVec.extractLsb_toNat, Nat.shiftRight_eq_div_pow]

/-- An exponent field is all ones exactly when it reads 2047. -/
theorem exponentField_eq_ones_iff {b : BitVec 11} : b = -1#11 ↔ b.toNat = 2047 := by
  rw [← BitVec.toNat_inj]
  rfl

/-- An exponent field is zero exactly when it reads 0. -/
theorem exponentField_eq_zero_iff {b : BitVec 11} : b = 0#11 ↔ b.toNat = 0 := by
  rw [← BitVec.toNat_inj]
  rfl

theorem unpackSign_packComponents {spec : Format} {sign : Sign} {exponent mantissa} :
    unpackSign (packComponents spec sign exponent mantissa) = sign.toBitVec := by
  ext i hi
  obtain rfl : i = 0 := by omega
  simp [unpackSign, packComponents, BitVec.getLsbD_append, BitVec.getLsbD_eq_getElem,
    BitVec.getElem_append]

theorem ofBitVec_toBitVec (s : Sign) : Sign.ofBitVec s.toBitVec = s := by
  cases s <;> rfl

/-- A bit pattern unpacks to NaN exactly when its exponent field is all ones and its fraction
field is not zero. -/
theorem unpack_eq_nan_iff {spec : Format} (b : BitVec spec.numBits) :
    UnpackedFloat.unpack spec b = .notANumber ↔
      unpackExponent b = -1#_ ∧ unpackMantissa b ≠ 0#_ := by
  unfold UnpackedFloat.unpack
  simp only
  split_ifs <;> simp_all

/-- Packing a double other than NaN and unpacking it again gives no NaN. -/
theorem unpack_pack_ne_nan {u : UnpackedFloat} (h : u ≠ .notANumber) :
    UnpackedFloat.unpack Format.binary64 (UnpackedFloat.pack Format.binary64 u) ≠
      .notANumber := by
  rw [Ne, unpack_eq_nan_iff]
  rintro ⟨h_exp, h_mant⟩
  cases u with
  | notANumber => exact h rfl
  | infinity s =>
    simp [UnpackedFloat.pack, packedInfinity, unpackMantissa_packComponents] at h_mant
  | zero s =>
    simp [UnpackedFloat.pack, packedZero, unpackExponent_packComponents] at h_exp
  | finite s m e h_m =>
    simp only [UnpackedFloat.pack] at h_exp h_mant
    split_ifs at h_exp h_mant with h_inf h_normal
    · simp [packedInfinity, unpackMantissa_packComponents] at h_mant
    · -- a normal double's biased exponent is below all ones
      rw [unpackExponent_packComponents] at h_exp
      have h_exp' := congrArg BitVec.toNat h_exp
      simp at h_exp' h_inf
      omega
    · simp [unpackExponent_packComponents] at h_exp

theorem log2_of_binade {m : Nat} (h_lo : 2 ^ 52 ≤ m) (h_hi : m < 2 ^ 53) : m.log2 = 52 := by
  rw [Nat.log2_eq_iff (by omega)]
  exact ⟨h_lo, h_hi⟩

/-- A normal double, significand in `[2^52, 2^53)` and biased exponent from 1 to 2046, survives
packing and unpacking. -/
theorem unpack_pack_normal {s : Sign} {m : Nat} {e : Int} {h : 0 < m} (h_lo : 2 ^ 52 ≤ m)
    (h_hi : m < 2 ^ 53) (h_e : -1074 ≤ e) (h_e' : e ≤ 971) :
    UnpackedFloat.unpack Format.binary64 (UnpackedFloat.pack Format.binary64 (.finite s m e h)) =
      .finite s m e h := by
  have h_bias : (Format.binary64.exponentBias : Int) + ((52 : Nat) : Int) = 1075 := by decide
  have h_B : (e + (Format.binary64.exponentBias : Int) + ((52 : Nat) : Int)).toNat =
      (e + 1075).toNat := by rw [add_assoc, h_bias]
  simp only [UnpackedFloat.pack, log2_of_binade h_lo h_hi, h_B]
  rw [if_neg (by omega)]
  split
  case isFalse h_sub => exact absurd rfl h_sub
  unfold UnpackedFloat.unpack
  simp only [unpackExponent_packComponents, unpackMantissa_packComponents,
    unpackSign_packComponents, ofBitVec_toBitVec]
  have h_field : (BitVec.ofNat 11 (e + 1075).toNat).toNat = (e + 1075).toNat := by
    rw [BitVec.toNat_ofNat]
    omega
  rw [if_neg (by rw [exponentField_eq_ones_iff, h_field]; omega),
    if_neg (by rw [exponentField_eq_zero_iff, h_field]; omega)]
  congr 1
  · rw [BitVec.toNat_append, ← Nat.shiftLeft_add_eq_or_of_lt (BitVec.isLt _)]
    simp
    omega
  · rw [h_bias]
    simp
    omega

theorem isNaN_eq_false_iff {x : Float} : x.isNaN = false ↔ x.toModel.unpack ≠ .notANumber := by
  show x.toModel.unpack.isNaN = false ↔ _
  cases x.toModel.unpack <;> simp [UnpackedFloat.isNaN]

/-- Reading bits into a double makes no NaN of a pattern that is not one. -/
theorem ofBits_isNaN_eq_false {x : UInt64}
    (h : UnpackedFloat.unpack Format.binary64 x.toBitVec ≠ .notANumber) :
    (Float.ofBits x).isNaN = false :=
  isNaN_eq_false_iff.mpr (unpack_pack_ne_nan h)

/-- The double with the given fields is not NaN when its fraction fits in 52 bits and its
exponent field is below all ones, or all ones with a zero fraction (an infinity). -/
theorem ofFields_isNaN_eq_false {neg : Bool} {biased frac : Nat} (h_frac : frac < 2 ^ 52)
    (h_biased : biased < 2047 ∨ biased = 2047 ∧ frac = 0) :
    (ofFields neg biased frac).isNaN = false := by
  have h_pow : Nat.pow 2 52 = 4503599627370496 ∧ Nat.pow 2 63 = 9223372036854775808 :=
    ⟨rfl, rfl⟩
  refine ofBits_isNaN_eq_false ?_
  rw [Ne, unpack_eq_nan_iff]
  rintro ⟨h_exp, h_mant⟩
  have h_exp' := exponentField_eq_ones_iff.mp h_exp
  have h_mant' : (@unpackMantissa Format.binary64 _).toNat ≠ 0 := fun h =>
    h_mant (BitVec.eq_of_toNat_eq h)
  rw [toNat_unpackExponent] at h_exp'
  rw [toNat_unpackMantissa] at h_mant'
  simp only [h_pow, UInt64.toNat_toBitVec, UInt64.toNat_ofNat'] at h_exp' h_mant'
  cases neg <;> simp only [Bool.false_eq_true, if_true, if_false] at h_exp' h_mant' <;> omega

/-- The fields of a normal double, exponent field from 1 to 2046, unpack to its significand with
the implicit bit and its unbiased exponent. -/
theorem unpack_ofFields_normal {neg : Bool} {E f : Nat} (h_E : 0 < E) (h_E' : E < 2047)
    (h_f : f < 2 ^ 52) :
    (ofFields neg E f).toModel.unpack =
      .finite (if neg then .negative else .positive) (2 ^ 52 + f) (E - 1075) (by omega) := by
  have h_pow : Nat.pow 2 52 = 4503599627370496 ∧ Nat.pow 2 63 = 9223372036854775808 :=
    ⟨rfl, rfl⟩
  have h_bias : (Format.binary64.exponentBias : Int) + ((52 : Nat) : Int) = 1075 := by decide
  show UnpackedFloat.unpack Format.binary64 (UnpackedFloat.pack Format.binary64
    (UnpackedFloat.unpack Format.binary64
      (UInt64.ofNat ((if neg then Nat.pow 2 63 else 0) + E * Nat.pow 2 52 + f)).toBitVec)) = _
  generalize h_b :
    (UInt64.ofNat ((if neg then Nat.pow 2 63 else 0) + E * Nat.pow 2 52 + f)).toBitVec = b
  have h_N : b.toNat = (if neg then 9223372036854775808 else 0) + E * 4503599627370496 + f := by
    rw [← h_b, UInt64.toNat_toBitVec, UInt64.toNat_ofNat', h_pow.1, h_pow.2]
    cases neg <;> simp <;> omega
  have h_exp : (@unpackExponent Format.binary64 b).toNat = E := by
    rw [toNat_unpackExponent, h_N]
    cases neg <;> simp <;> omega
  have h_mant : (@unpackMantissa Format.binary64 b).toNat = f := by
    rw [toNat_unpackMantissa, h_N]
    cases neg <;> simp <;> omega
  have h_sign :
      Sign.ofBitVec (@unpackSign Format.binary64 b) = if neg then .negative else .positive := by
    have h_s := toNat_unpackSign b
    rw [h_N] at h_s
    unfold Sign.ofBitVec
    cases neg
    · rw [if_pos (BitVec.eq_of_toNat_eq (by simp at h_s ⊢; omega))]; rfl
    · rw [if_neg fun h => by have := congrArg BitVec.toNat h; simp at h_s this; omega]; rfl
  have h_unpack : UnpackedFloat.unpack Format.binary64 b =
      .finite (if neg then .negative else .positive) (2 ^ 52 + f) (E - 1075) (by omega) := by
    unfold UnpackedFloat.unpack
    simp only
    rw [if_neg (by rw [exponentField_eq_ones_iff, h_exp]; omega),
      if_neg (by rw [exponentField_eq_zero_iff, h_exp]; omega)]
    congr 1
    · rw [BitVec.toNat_append, ← Nat.shiftLeft_add_eq_or_of_lt (BitVec.isLt _), h_mant]
      simp
    · rw [h_exp, h_bias]
  rw [h_unpack, unpack_pack_normal (by omega) (by omega) (by omega) (by omega)]

/-! ## Order keys -/

/-- A finite unpacked double has a significand below `2^53` and an exponent in `[-1074, 971]`. -/
def Binary64Bounded : UnpackedFloat → Prop
  | .finite _ m e _ => m < 9007199254740992 ∧ -1074 ≤ e ∧ e ≤ 971
  | _ => True

/-- Every bit pattern unpacks to a bounded double. -/
theorem unpack_bounded (b : BitVec 64) :
    Binary64Bounded (UnpackedFloat.unpack Format.binary64 b) := by
  have h_bias : (Format.binary64.exponentBias : Int) + ((52 : Nat) : Int) = 1075 := by decide
  have h_width : (@unpackExponent Format.binary64 b).toNat < 2048 :=
    (@unpackExponent Format.binary64 b).isLt
  unfold UnpackedFloat.unpack
  simp only
  split
  · split <;> trivial
  · rename_i h_top
    have h_top' : (@unpackExponent Format.binary64 b).toNat ≠ 2047 :=
      mt exponentField_eq_ones_iff.mpr h_top
    split
    · -- subnormal: the fraction field alone, at the least exponent
      rename_i h_zero
      have h_zero' : (@unpackExponent Format.binary64 b).toNat = 0 :=
        exponentField_eq_zero_iff.mp h_zero
      split
      · trivial
      · have h_m := (@unpackMantissa Format.binary64 b).isLt
        refine ⟨by simp at h_m ⊢; omega, ?_, ?_⟩ <;> simp only [h_zero'] <;> omega
    · -- normal: the fraction with its implicit bit, at a biased exponent below all ones
      rename_i h_zero
      have h_zero' : (@unpackExponent Format.binary64 b).toNat ≠ 0 :=
        mt exponentField_eq_zero_iff.mpr h_zero
      have h_m := (1#1 ++ @unpackMantissa Format.binary64 b).isLt
      refine ⟨by simp at h_m ⊢; omega, ?_, ?_⟩ <;> rw [h_bias] <;> omega

/-- Where an unpacked double stands in the IEEE order, as an integer: the zeros at `0`, a finite
double at `±((e + 1075) · 2^53 + m)`, the infinities beyond every finite double. -/
def orderKey : UnpackedFloat → Int
  | .infinity .negative => -18446744073709551616
  | .infinity .positive => 18446744073709551616
  | .zero _ => 0
  | .finite .negative m e _ => -((e + 1075) * 9007199254740992 + m)
  | .finite .positive m e _ => (e + 1075) * 9007199254740992 + m
  | .notANumber => 0

/-- IEEE comparison of bounded doubles other than NaN is the comparison of their keys. -/
theorem compare_eq_orderKey {u v : UnpackedFloat} (h_u : Binary64Bounded u)
    (h_v : Binary64Bounded v) (h_u_num : u ≠ .notANumber) (h_v_num : v ≠ .notANumber) :
    u.compare v = some (compare (orderKey u) (orderKey v)) := by
  -- both comparisons split into cases; a branch gives one ordering on both sides, or the bounds
  -- contradict its conditions
  cases u with
  | notANumber => exact absurd rfl h_u_num
  | infinity s => cases v with
    | notANumber => exact absurd rfl h_v_num
    | infinity t => cases s <;> cases t <;> rfl
    | zero t => cases s <;> cases t <;> rfl
    | finite t m e h_m =>
      obtain ⟨h_mb, h_el, h_eu⟩ := h_v
      cases s <;> cases t <;> simp only [UnpackedFloat.compare, orderKey, Int.compare_eq_ite_lt] <;>
        split_ifs <;> first | rfl | omega
  | zero s => cases v with
    | notANumber => exact absurd rfl h_v_num
    | infinity t => cases s <;> cases t <;> rfl
    | zero t => cases s <;> cases t <;> rfl
    | finite t m e h_m =>
      obtain ⟨h_mb, h_el, h_eu⟩ := h_v
      cases s <;> cases t <;> simp only [UnpackedFloat.compare, orderKey, Int.compare_eq_ite_lt] <;>
        split_ifs <;> first | rfl | omega
  | finite s m e h_m =>
    obtain ⟨h_mb, h_el, h_eu⟩ := h_u
    cases v with
    | notANumber => exact absurd rfl h_v_num
    | infinity t =>
      cases s <;> cases t <;> simp only [UnpackedFloat.compare, orderKey, Int.compare_eq_ite_lt] <;>
        split_ifs <;> first | rfl | omega
    | zero t =>
      cases s <;> cases t <;> simp only [UnpackedFloat.compare, orderKey, Int.compare_eq_ite_lt] <;>
        split_ifs <;> first | rfl | omega
    | finite t m' e' h_m' =>
      -- same sign: exponents first, then significands; the key's 2^53 stride keeps them apart
      obtain ⟨h_mb', h_el', h_eu'⟩ := h_v
      cases s <;> cases t <;>
        simp only [UnpackedFloat.compare, orderKey, Int.compare_eq_ite_lt,
          Nat.compare_eq_ite_lt] <;>
        split_ifs <;> first | rfl | omega

/-- A double's place in the IEEE order, as an integer. -/
def floatKey (x : Float) : Int := orderKey x.toModel.unpack

/-- IEEE comparison of doubles other than NaN is the comparison of their keys. -/
theorem compare_eq_floatKey {x y : Float} (h_x : x.isNaN = false) (h_y : y.isNaN = false) :
    x.toModel.unpack.compare y.toModel.unpack = some (compare (floatKey x) (floatKey y)) :=
  compare_eq_orderKey (unpack_bounded x.toModel.toBits.toBitVec)
    (unpack_bounded y.toModel.toBits.toBitVec) (isNaN_eq_false_iff.mp h_x)
    (isNaN_eq_false_iff.mp h_y)

/-- Doubles other than NaN compare as their keys. -/
theorem lt_iff_floatKey {x y : Float} (h_x : x.isNaN = false) (h_y : y.isNaN = false) :
    x < y ↔ floatKey x < floatKey y := by
  show decide (x.toModel.unpack.lt y.toModel.unpack = true) = true ↔ _
  rw [decide_eq_true_iff, UnpackedFloat.lt, compare_eq_floatKey h_x h_y]
  simp [Int.compare_eq_lt]

/-- Doubles other than NaN are `==` exactly when their keys are equal. -/
theorem beq_iff_floatKey {x y : Float} (h_x : x.isNaN = false) (h_y : y.isNaN = false) :
    (x == y) = true ↔ floatKey x = floatKey y := by
  show (x.toModel.unpack.compare y.toModel.unpack == some .eq) = true ↔ _
  rw [compare_eq_floatKey h_x h_y]
  simp

/-- The key of a normal double: `E · 2^53` for its exponent field `E`, then its significand with
the implicit bit. -/
theorem floatKey_ofFields_normal {neg : Bool} {E f : Nat} (h_E : 0 < E) (h_E' : E < 2047)
    (h_f : f < 2 ^ 52) :
    floatKey (ofFields neg E f) =
      if neg then -((E * 2 ^ 53 + 2 ^ 52 + f : Nat) : Int)
      else ((E * 2 ^ 53 + 2 ^ 52 + f : Nat) : Int) := by
  rw [floatKey, unpack_ofFields_normal h_E h_E' h_f]
  cases neg <;> simp [orderKey] <;> ring

end MetricLayer.Decimal
