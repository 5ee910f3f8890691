import ChecksAndBalances.Verus.Json
import Mathlib.Data.Nat.Log

/-!
# Whole numbers

The double of a natural number below `2 ^ 53`: its exponent is its binary logarithm, and its
significand is the number with its highest bit at the place of the implicit one.
-/

namespace ChecksAndBalances

namespace JsNumber

/-- The significand of a positive number below `2 ^ 53`. -/
def significandOf (v : ℕ) : ℕ := v * 2 ^ (52 - v.log2)

/-- The double of a number below `2 ^ 53`. -/
def ofNat (v : ℕ) : JsNumber :=
  if v = 0 then ⟨0⟩
  else ⟨BitVec.ofNat 64 ((1023 + v.log2) * 2 ^ 52 + (significandOf v - 2 ^ 52))⟩

variable {v : ℕ}

theorem log2_le (hv : v < 2 ^ 53) (h0 : 0 < v) : v.log2 ≤ 52 :=
  Nat.le_of_lt_succ ((Nat.log2_lt (Nat.ne_of_gt h0)).2 hv)

/-- The highest bit of the significand is the implicit one. -/
theorem significandOf_bounds (hv : v < 2 ^ 53) (h0 : 0 < v) :
    2 ^ 52 ≤ significandOf v ∧ significandOf v < 2 ^ 53 := by
  have hlog := log2_le hv h0
  have hlow : 2 ^ v.log2 ≤ v := Nat.log2_self_le (Nat.ne_of_gt h0)
  have hhigh : v < 2 ^ (v.log2 + 1) := Nat.lt_log2_self
  have hpos : 0 < 2 ^ (52 - v.log2) := Nat.two_pow_pos _
  constructor
  · calc 2 ^ 52 = 2 ^ v.log2 * 2 ^ (52 - v.log2) := by
          rw [← Nat.pow_add, Nat.add_sub_cancel' hlog]
      _ ≤ v * 2 ^ (52 - v.log2) := Nat.mul_le_mul_right _ hlow
  · calc v * 2 ^ (52 - v.log2) < 2 ^ (v.log2 + 1) * 2 ^ (52 - v.log2) :=
          Nat.mul_lt_mul_of_pos_right hhigh hpos
      _ = 2 ^ 53 := by
          rw [← Nat.pow_add]
          congr 1
          omega

theorem toNat_bits (hv : v < 2 ^ 53) (h0 : 0 < v) :
    (ofNat v).bits.toNat = (1023 + v.log2) * 2 ^ 52 + (significandOf v - 2 ^ 52) := by
  have hlog := log2_le hv h0
  obtain ⟨hlow, hhigh⟩ := significandOf_bounds hv h0
  rw [ofNat, if_neg (Nat.ne_of_gt h0), BitVec.toNat_ofNat]
  apply Nat.mod_eq_of_lt
  omega

theorem exponent_ofNat (hv : v < 2 ^ 53) (h0 : 0 < v) : (ofNat v).exponent = 1023 + v.log2 := by
  have hlog := log2_le hv h0
  obtain ⟨hlow, hhigh⟩ := significandOf_bounds hv h0
  rw [exponent, BitVec.extractLsb'_toNat, toNat_bits hv h0, Nat.shiftRight_eq_div_pow]
  omega

theorem significand_ofNat (hv : v < 2 ^ 53) (h0 : 0 < v) :
    (ofNat v).significand = significandOf v := by
  have hlog := log2_le hv h0
  obtain ⟨hlow, hhigh⟩ := significandOf_bounds hv h0
  rw [significand, BitVec.extractLsb'_toNat, toNat_bits hv h0, Nat.shiftRight_eq_div_pow]
  omega

theorem isZero_ofNat (hv : v < 2 ^ 53) (h0 : 0 < v) : (ofNat v).isZero = false := by
  have hlog := log2_le hv h0
  obtain ⟨hlow, hhigh⟩ := significandOf_bounds hv h0
  have hne : (ofNat v).bits.extractLsb' 0 63 ≠ 0 := by
    intro hzero
    have hnat := congrArg BitVec.toNat hzero
    rw [BitVec.extractLsb'_toNat, toNat_bits hv h0, Nat.shiftRight_eq_div_pow,
      show (0 : BitVec 63).toNat = 0 from rfl] at hnat
    omega
  exact decide_eq_false hne

theorem msb_ofNat (hv : v < 2 ^ 53) (h0 : 0 < v) : (ofNat v).bits.msb = false := by
  have hlog := log2_le hv h0
  obtain ⟨hlow, hhigh⟩ := significandOf_bounds hv h0
  rw [BitVec.msb_eq_decide, toNat_bits hv h0]
  simp only [decide_eq_false_iff_not]
  omega

theorem isSafeInteger_ofNat (hv : v < 2 ^ 53) (h0 : 0 < v) : (ofNat v).isSafeInteger = true := by
  have hlog := log2_le hv h0
  have hshift : 1075 - (1023 + v.log2) = 52 - v.log2 := by omega
  simp only [isSafeInteger, exponent_ofNat hv h0, significand_ofNat hv h0, significandOf, hshift,
    Nat.mul_mod_left]
  simp
  omega

theorem toInt_ofNat (hv : v < 2 ^ 53) (h0 : 0 < v) : (ofNat v).toInt = v := by
  have hlog := log2_le hv h0
  have hshift : 1075 - (1023 + v.log2) = 52 - v.log2 := by omega
  have hpos : 0 < 2 ^ (52 - v.log2) := Nat.two_pow_pos _
  rw [toInt, isZero_ofNat hv h0, msb_ofNat hv h0, exponent_ofNat hv h0, significand_ofNat hv h0,
    hshift, significandOf, Nat.mul_div_cancel _ hpos]
  simp

-- One is 2^0, with the exponent 1023.
example : ofNat 1 = ⟨0x3ff0000000000000⟩ := by
  decide +kernel

end JsNumber

end ChecksAndBalances
