import Gauge.Decimal.Reader
import Gauge.Proofs.Signal.Arithmetic

/-! # The double nearest to a decimal

Reading a decimal rounds the number that it stands for, in every range of exponents. So two decimals of one
number are read alike, and one of the number of a double is read as that double.
-/
namespace Gauge.Decimal

open Float.Model Float.Model.UnpackedFloat
open Gauge.Signal

variable {m : ℕ} (hm : 0 < m) (e : ℤ)

include hm

theorem decimal_pos : (0 : ℚ) < m * 10 ^ e := by positivity

theorem le_log_decimal (he : 0 ≤ e) : e ≤ Int.log 2 (m * 10 ^ e : ℚ) := by
  have hpow : (2 : ℚ) ^ e ≤ m * 10 ^ e := by
    have hone : (1 : ℚ) ≤ m := by exact_mod_cast hm
    have hbase : (2 : ℚ) ^ e ≤ 10 ^ e := zpow_le_zpow_left₀ he (by norm_num) (by norm_num)
    exact hbase.trans (le_mul_of_one_le_left (by positivity) hone)
  exact (zpow_le_iff_le_log (decimal_pos hm e)).mp hpow

theorem log_decimal_le (he : e ≤ 0) : Int.log 2 (m * 10 ^ e : ℚ) ≤ m.log2 + e := by
  have hpow : (m * 10 ^ e : ℚ) < 2 ^ (m.log2 + e + 1) := by
    have hlt : (m : ℚ) < 2 ^ (m.log2 + 1) := by exact_mod_cast Nat.lt_log2_self
    have hbase : (10 : ℚ) ^ e ≤ 2 ^ e := by
      rw [← inv_le_inv₀ (by positivity) (by positivity), ← zpow_neg, ← zpow_neg]
      exact zpow_le_zpow_left₀ (by omega) (by norm_num) (by norm_num)
    calc (m * 10 ^ e : ℚ) < 2 ^ (m.log2 + 1) * 2 ^ e :=
          mul_lt_mul_of_lt_of_le_of_pos_of_nonneg hlt hbase (by positivity) (by positivity)
      _ = 2 ^ (m.log2 + e + 1) := by
          rw [← zpow_natCast, ← zpow_add₀ two_ne_zero]
          congr 1
          push_cast
          ring
  have hlog := (lt_zpow_iff_log_lt (decimal_pos hm e)).mp hpow
  omega

theorem scaled_product (he : 0 ≤ e) :
    UnpackedFloat.mul Format.binary64 (.finite .positive (m <<< 53) (-53) (by rw [Nat.shiftLeft_eq]; positivity))
      (.finite .positive (10 ^ e.toNat) 0 (by positivity)) = rounded .positive (m * 10 ^ e) := by
  obtain ⟨k, rfl⟩ := Int.eq_ofNat_of_zero_le he
  have hproduct : 0 < (m <<< 53) * 10 ^ k := by
    rw [Nat.shiftLeft_eq]
    positivity
  have hvalue : ((m <<< 53 * 10 ^ k : ℕ) * 2 ^ (-53 + 0 : ℤ) : ℚ) = m * 10 ^ (k : ℤ) := by
    rw [Nat.shiftLeft_eq, zpow_natCast]
    push_cast
    norm_num
    ring
  have hplace : (-53 + 0 : ℤ) ≤ place (m * 10 ^ (k : ℤ)) := by
    have hlog := le_log_decimal hm k he
    rw [place_eq]
    omega
  rw [← hvalue] at hplace ⊢
  exact roundWithAccuracy_exact .positive hproduct hplace

/-- What is read from a decimal is its number rounded, or out of range as that is. -/
theorem nearest_eq_rounded : nearest m e = .ofModel (pack (rounded .positive (m * 10 ^ e))) := by
  have hpos := decimal_pos hm e
  have hbits : (2 ^ Format.binary64.exponentBits : ℤ) = 2048 := rfl
  rw [nearest, Float.Model.ofScientific]
  congr 1
  unfold UnpackedFloat.ofScientific
  rw [dif_neg hm.ne', hbits]
  split_ifs with hlarge hsmall he
  · have hlog := le_log_decimal hm e (by omega)
    exact (pack_rounded_of_large hpos (by omega)).symm
  · have hlog := log_decimal_le hm e (by omega)
    rw [rounded_of_small .positive hpos (by omega)]
  · exact congrArg pack (scaled_product hm e he)
  · have hdenominator : 0 < Nat.pow 10 (-e).toNat := Nat.pow_pos (by decide)
    have hvalue : (m * 2 ^ (0 : ℤ) / ((10 ^ (-e).toNat : ℕ) * 2 ^ (0 : ℤ)) : ℚ) = m * 10 ^ e := by
      obtain ⟨k, hk⟩ := Int.eq_ofNat_of_zero_le (by omega : 0 ≤ -e)
      rw [zpow_zero, mul_one, mul_one, hk, Int.toNat_natCast, div_eq_mul_inv, Nat.cast_pow, Nat.cast_ofNat,
        ← zpow_natCast, ← zpow_neg, ← hk, neg_neg]
    rw [← hvalue]
    exact congrArg pack (div_eq_rounded .positive .positive hm hdenominator 0 0)

omit hm

theorem nearest_zero : nearest 0 e = .ofModel (pack (.zero .positive)) := rfl

variable {e}

/-- Two decimals of one number are read alike. -/
theorem nearest_congr {n : ℕ} {f : ℤ} (h : (m * 10 ^ e : ℚ) = n * 10 ^ f) : nearest m e = nearest n f := by
  rcases Nat.eq_zero_or_pos m with rfl | hm
  · have hn : n = 0 := by
      rw [Nat.cast_zero, zero_mul, eq_comm, mul_eq_zero, Nat.cast_eq_zero] at h
      exact h.resolve_right (by positivity)
    rw [hn, nearest_zero, nearest_zero]
  · have hn : 0 < n := by
      by_contra hzero
      rw [Nat.eq_zero_of_not_pos hzero, Nat.cast_zero, zero_mul] at h
      exact (decimal_pos hm e).ne' h
    rw [nearest_eq_rounded hm, nearest_eq_rounded hn, h]

/-- A decimal of the number of a double is read as that double. -/
theorem nearest_of_value? {v : Float} (hm : 0 < m) (h : value? v = some (m * 10 ^ e : ℚ)) : nearest m e = v := by
  rw [nearest_eq_rounded hm, ← unpack_of_value? (decimal_pos hm e) h, ofModel_pack_unpack]

theorem signOf_rounded (x : ℚ) : signOf (rounded .positive x) = .positive := by
  simp only [rounded, fitted]
  split_ifs <;> rfl

/-- A decimal has no sign. -/
theorem isNegative_nearest (m : ℕ) (e : ℤ) : isNegative (nearest m e) = false := by
  rw [← Bool.not_eq_true]
  rcases Nat.eq_zero_or_pos m with rfl | hm
  · rw [nearest_zero, isNegative_ofModel_pack]
    exact Sign.noConfusion
  · rw [nearest_eq_rounded hm, isNegative_ofModel_pack, signOf_rounded]
    exact Sign.noConfusion

end Gauge.Decimal
