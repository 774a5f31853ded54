import Gauge.Proofs.Signal.Arithmetic
import Gauge.Signal.Whole

/-! # Rounding to decimals

The powers of ten that a signal is scaled with are off by the roundings of repeated squaring and are neither
lost nor zero while they are in range. So a finite signal is lost to rounding only if the product or the quotient
leaves the range of doubles.
-/
namespace Gauge.Signal

open Float.Model Float.Model.UnpackedFloat

/-! ### Whole numbers -/

theorem abs_lt_of_lt_wholeBound {v : Float} {x : ℚ} (hv : value? v = some x) (h : v.abs < wholeBound) :
    |x| < 2 ^ 52 := by
  have habs : value? v.abs = some |x| := by rw [value?_abs, hv, Option.map_some]
  rcases (abs_nonneg x).eq_or_lt with hzero | hpos
  · rw [← hzero]
    norm_num
  · obtain ⟨m, e, hm, hunpack, hcanonical, hvalue⟩ := unpack_cases_of_pos hpos habs
    have hbound : wholeBound.toModel.unpack = .finite .positive (2 ^ 52) 0 (by decide) := rfl
    have hcompare : v.abs.toModel.unpack.lt wholeBound.toModel.unpack = true := of_decide_eq_true h
    rw [hunpack, hbound, UnpackedFloat.lt, UnpackedFloat.compare, beq_iff_eq, Option.some.injEq,
      Ordering.then_eq_lt, Int.compare_eq_lt, Int.compare_eq_eq, Nat.compare_eq_lt] at hcompare
    rw [hvalue]
    rcases hcompare with he | ⟨rfl, hsmall⟩
    · have hmantissa : (m : ℚ) < 2 ^ 53 := by exact_mod_cast hcanonical.lt
      have hexponent : (2 : ℚ) ^ e ≤ 2 ^ (-1 : ℤ) := zpow_le_zpow_right₀ one_le_two (by omega)
      calc (m * 2 ^ e : ℚ) < 2 ^ 53 * 2 ^ (-1 : ℤ) :=
            mul_lt_mul_of_lt_of_le_of_pos_of_nonneg hmantissa hexponent (by positivity) (by positivity)
        _ = 2 ^ 52 := by norm_num
    · rw [zpow_zero, mul_one]
      exact_mod_cast hsmall

theorem value?_withSignOf (v : Float) {w : Float} {y : ℚ} (hw : value? w = some y) :
    ∃ z, value? (withSignOf v w) = some z ∧ |z| = |y| := by
  unfold withSignOf
  split
  · refine ⟨-y, ?_, abs_neg y⟩
    rw [value?_neg, hw, Option.map_some]
  · exact ⟨y, hw, rfl⟩

/-- Rounding to a whole number moves a signal away from zero by one at most. -/
theorem value?_roundBy (carry : Float → Float → Bool) {v : Float} {x : ℚ} (hv : value? v = some x) :
    ∃ y, value? (roundBy carry v) = some y ∧ |y| ≤ |x| + 1 := by
  unfold roundBy
  split
  case isFalse => exact ⟨x, hv, by linarith⟩
  case isTrue hsmall =>
    have hlt := abs_lt_of_lt_wholeBound hv hsmall
    have habs : value? v.abs = some |x| := by rw [value?_abs, hv, Option.map_some]
    have hfloor : ⌊|x|⌋₊ < 2 ^ 52 := (Nat.floor_lt (abs_nonneg x)).mpr (by exact_mod_cast hlt)
    have hunits : v.abs.toUInt64 = ⌊|x|⌋₊.toUInt64 := by
      rw [← UInt64.toNat_inj, toNat_toUInt64 (abs_nonneg x) habs]
      show _ = ⌊|x|⌋₊ % 2 ^ 64
      omega
    have hle : (⌊|x|⌋₊ : ℚ) ≤ |x| := Nat.floor_le (abs_nonneg x)
    simp only [hunits, toFloat_add_one (by omega : ⌊|x|⌋₊ + 1 < 2 ^ 53)]
    split
    · obtain ⟨z, hz, habsz⟩ := value?_withSignOf v (value?_natCast (by omega : ⌊|x|⌋₊ + 1 < 2 ^ 53))
      refine ⟨z, hz, ?_⟩
      rw [habsz, Nat.abs_cast, Nat.cast_succ]
      linarith
    · obtain ⟨z, hz, habsz⟩ := value?_withSignOf v (value?_natCast (by omega : ⌊|x|⌋₊ < 2 ^ 53))
      refine ⟨z, hz, ?_⟩
      rw [habsz, Nat.abs_cast]
      linarith

/-! ### Powers -/

/-- A signal from one on whose number is `x` up to `k` roundings. -/
def Within (k : ℕ) (x : ℚ) (v : Float) : Prop :=
  ∃ z, value? v = some z ∧ 1 ≤ z ∧ x * (1 - unitRoundoff) ^ k ≤ z ∧ z ≤ x * (1 + unitRoundoff) ^ k

theorem within_of_value? {v : Float} {x : ℚ} (hv : value? v = some x) (hx : 1 ≤ x) : Within 0 x v := by
  refine ⟨x, hv, hx, ?_, ?_⟩ <;> rw [pow_zero, mul_one]

theorem unitRoundoff_pos : 0 < unitRoundoff := by norm_num [unitRoundoff]

theorem unitRoundoff_lt_one : unitRoundoff < 1 := by norm_num [unitRoundoff]

/-- Two roundings add up, and the product brings one more. -/
theorem Within.mul {j k : ℕ} {x y : ℚ} {v w : Float} (hv : Within j x v) (hw : Within k y w) (hx : 0 ≤ x)
    (hy : 0 ≤ y) (hle : x * y * (1 + unitRoundoff) ^ (j + k) ≤ largest) : Within (j + k + 1) (x * y) (v * w) := by
  have hpos := unitRoundoff_pos
  have hlt := unitRoundoff_lt_one
  obtain ⟨a, ha, honea, hlowa, hhigha⟩ := hv
  obtain ⟨b, hb, honeb, hlowb, hhighb⟩ := hw
  have hone : 1 ≤ a * b := one_le_mul_of_one_le_of_one_le honea honeb
  have hlow : x * y * (1 - unitRoundoff) ^ (j + k) ≤ a * b := by
    calc x * y * (1 - unitRoundoff) ^ (j + k) = x * (1 - unitRoundoff) ^ j * (y * (1 - unitRoundoff) ^ k) := by ring
      _ ≤ a * b := mul_le_mul hlowa hlowb (mul_nonneg hy (pow_nonneg (sub_nonneg.mpr hlt.le) k)) (by linarith)
  have hhigh : a * b ≤ x * y * (1 + unitRoundoff) ^ (j + k) := by
    calc a * b ≤ x * (1 + unitRoundoff) ^ j * (y * (1 + unitRoundoff) ^ k) :=
          mul_le_mul hhigha hhighb (by linarith) (by positivity)
      _ = x * y * (1 + unitRoundoff) ^ (j + k) := by ring
  have hvalue : value? (v * w) = some (nearby (a * b)) := by
    refine (roundsTo_mul ha hb).value?_eq ?_
    rw [abs_of_pos (by linarith)]
    exact hhigh.trans hle
  have hlog : 0 ≤ Int.log 2 (a * b) := (zpow_le_iff_le_log (by linarith)).mp (by rwa [zpow_zero])
  obtain ⟨hbelow, habove⟩ := abs_le.mp (nearby_error_of_normal (x := a * b) (by linarith) (by omega))
  refine ⟨nearby (a * b), hvalue, one_le_nearby hone, ?_, ?_⟩
  · calc x * y * (1 - unitRoundoff) ^ (j + k + 1) = x * y * (1 - unitRoundoff) ^ (j + k) * (1 - unitRoundoff) := by
          ring
      _ ≤ a * b * (1 - unitRoundoff) := mul_le_mul_of_nonneg_right hlow (sub_nonneg.mpr hlt.le)
      _ ≤ nearby (a * b) := by linarith
  · calc nearby (a * b) ≤ a * b * (1 + unitRoundoff) := by linarith
      _ ≤ x * y * (1 + unitRoundoff) ^ (j + k) * (1 + unitRoundoff) := mul_le_mul_of_nonneg_right hhigh (by linarith)
      _ = x * y * (1 + unitRoundoff) ^ (j + k + 1) := by ring

theorem powerLoop_zero (bits : ℕ) (a r : Float) : powerLoop bits 0 a r = r := by
  induction bits generalizing a with
  | zero => rfl
  | succ bits ih => exact ih (a * a)

theorem bound_mono {x y : ℚ} (hx : 1 ≤ x) (hy : 0 ≤ y) {b n p q : ℕ} (hb : b ≤ n) (hp : p ≤ q) :
    y * x ^ b * (1 + unitRoundoff) ^ p ≤ y * x ^ n * (1 + unitRoundoff) ^ q := by
  have hone : 1 ≤ 1 + unitRoundoff := le_add_of_nonneg_right unitRoundoff_pos.le
  have hzero : 0 ≤ x := zero_le_one.trans hx
  gcongr

/-- Each bit squares `a`, whose roundings double, and takes it into the product if it is set. The last square
may leave the range, since nothing is multiplied with it. -/
theorem within_powerLoop {bits n : ℕ} {a r : Float} {x y : ℚ} {j k : ℕ} (hbits : n < 2 ^ bits) (ha : Within j x a)
    (hr : Within k y r) (hx : 1 ≤ x) (hy : 1 ≤ y)
    (hle : y * x ^ n * (1 + unitRoundoff) ^ (k + n * (j + 1)) ≤ largest) :
    Within (k + n * (j + 1)) (y * x ^ n) (powerLoop bits n a r) := by
  induction bits generalizing n a r x y j k with
  | zero =>
    obtain rfl : n = 0 := by omega
    rwa [Nat.zero_mul, Nat.add_zero, pow_zero, mul_one]
  | succ bits ih =>
    have hzero : 0 ≤ y := zero_le_one.trans hy
    -- What has been taken into the product after this bit.
    obtain ⟨k', y', hone', hr', hexponent, hvalue⟩ : ∃ k' y', 1 ≤ y' ∧
        Within k' y' (if n % 2 = 1 then r * a else r) ∧ k' + n / 2 * (j + j + 1 + 1) = k + n * (j + 1) ∧
        y' * (x * x) ^ (n / 2) = y * x ^ n := by
      obtain ⟨h, rfl | rfl⟩ := Nat.even_or_odd' n
      · have hhalf : 2 * h / 2 = h := by omega
        rw [if_neg (by omega), hhalf]
        exact ⟨k, y, hy, hr, by ring, by ring⟩
      · have hhalf : (2 * h + 1) / 2 = h := by omega
        have hrange : y * x * (1 + unitRoundoff) ^ (k + j) ≤ largest := by
          have hmono := bound_mono hx hzero (b := 1) (n := 2 * h + 1) (by omega)
            (by nlinarith : k + j ≤ k + (2 * h + 1) * (j + 1))
          rw [pow_one] at hmono
          exact hmono.trans hle
        rw [if_pos (by omega), hhalf]
        exact ⟨k + j + 1, y * x, one_le_mul_of_one_le_of_one_le hy hx,
          hr.mul ha hzero (zero_le_one.trans hx) hrange, by ring, by ring⟩
    have hloop : powerLoop (bits + 1) n a r =
        powerLoop bits (n / 2) (a * a) (if n % 2 = 1 then r * a else r) := rfl
    rw [hloop]
    rcases Nat.eq_zero_or_pos (n / 2) with hhalf | hhalf
    · rw [hhalf, Nat.zero_mul, Nat.add_zero] at hexponent
      rw [hhalf, pow_zero, mul_one] at hvalue
      rwa [hhalf, powerLoop_zero, ← hexponent, ← hvalue]
    · have hrange : x * x * (1 + unitRoundoff) ^ (j + j) ≤ largest := by
        have hmono := bound_mono hx zero_le_one (b := 2) (n := n) (by omega)
          (by nlinarith [Nat.div_mul_le_self n 2] : j + j ≤ k + n * (j + 1))
        have hscale : 1 * x ^ n * (1 + unitRoundoff) ^ (k + n * (j + 1)) ≤
            y * x ^ n * (1 + unitRoundoff) ^ (k + n * (j + 1)) := by
          have hpos := unitRoundoff_pos
          gcongr
        rw [one_mul, sq] at hmono
        exact (hmono.trans hscale).trans hle
      have hsquare := ha.mul ha (zero_le_one.trans hx) (zero_le_one.trans hx) hrange
      rw [← hexponent, ← hvalue] at hle ⊢
      exact ih (by omega) hsquare hr' (one_le_mul_of_one_le_of_one_le hx hx) hone' hle

/-- A power in range is the exact one up to one rounding for each factor. -/
theorem within_power {a : Float} {x : ℚ} (ha : value? a = some x) (hx : 1 ≤ x) {n : ℕ}
    (hle : x ^ n * (1 + unitRoundoff) ^ n ≤ largest) : Within n (x ^ n) (power a n) := by
  have hone : value? 1 = some 1 := by decide +kernel
  have hloop := within_powerLoop (n := n) Nat.lt_log2_self (within_of_value? ha hx) (within_of_value? hone le_rfl)
    hx le_rfl
  rw [Nat.zero_add, Nat.zero_add, Nat.mul_one, one_mul] at hloop
  exact hloop hle

/-! ### Powers of ten -/

theorem le_largest : (17 * 10 ^ 307 : ℚ) ≤ largest := by
  have hcast {a b m n : ℕ} (h : a * Nat.pow 10 m ≤ b * Nat.pow 2 n) : (a * 10 ^ m : ℚ) ≤ b * 2 ^ (n : ℤ) := by
    rw [zpow_natCast]
    exact_mod_cast h
  exact hcast (a := 17) (b := 2 ^ 53 - 1) (m := 307) (n := 971) (by decide +kernel)

theorem le_one_sub_pow {n : ℕ} (hn : n ≤ 308) : 999 / 1000 ≤ (1 - unitRoundoff) ^ n := by
  have hcast : (n : ℚ) ≤ 308 := by exact_mod_cast hn
  have hbernoulli := one_add_mul_le_pow (a := -unitRoundoff) (by linarith [unitRoundoff_lt_one]) n
  have hsmall : 308 * unitRoundoff ≤ 1 / 1000 := by norm_num [unitRoundoff]
  have hproduct : n * unitRoundoff ≤ 308 * unitRoundoff := mul_le_mul_of_nonneg_right hcast unitRoundoff_pos.le
  rw [← sub_eq_add_neg] at hbernoulli
  linarith

theorem one_add_pow_le {n : ℕ} (hn : n ≤ 308) : (1 + unitRoundoff) ^ n ≤ 1001 / 999 := by
  have hlow := le_one_sub_pow hn
  have hproduct : (1 + unitRoundoff) ^ n * (1 - unitRoundoff) ^ n ≤ 1 := by
    rw [← mul_pow]
    have hlt := unitRoundoff_lt_one
    have hpos := unitRoundoff_pos
    exact pow_le_one₀ (mul_nonneg (by linarith) (by linarith)) (by nlinarith)
  have hpos : 0 < (1 + unitRoundoff) ^ n := pow_pos (by linarith [unitRoundoff_pos]) n
  nlinarith

/-- The power of ten that a signal is scaled with is near the exact one. -/
theorem value?_power_ten {n : ℕ} (hn : n ≤ 308) :
    ∃ p, value? (power 10 n) = some p ∧ 1 ≤ p ∧ 99 / 100 * 10 ^ n ≤ p ∧ p ≤ 101 / 100 * 10 ^ n := by
  have hten : value? 10 = some 10 := by decide +kernel
  have hpos : (0 : ℚ) < 10 ^ n := by positivity
  have hlow := mul_le_mul_of_nonneg_left (le_one_sub_pow hn) hpos.le
  have hhigh := mul_le_mul_of_nonneg_left (one_add_pow_le hn) hpos.le
  have hmax : (10 ^ n : ℚ) ≤ 10 * 10 ^ 307 := by
    rw [← pow_succ']
    exact pow_le_pow_right₀ (by norm_num) hn
  have hrange : (10 : ℚ) ^ n * (1 + unitRoundoff) ^ n ≤ largest := by
    have hlargest := le_largest
    generalize (10 : ℚ) ^ 307 = c at hmax hlargest
    linarith
  obtain ⟨p, hp, hone, hbelow, habove⟩ := within_power hten (by norm_num) hrange
  exact ⟨p, hp, hone, by linarith, by linarith⟩

theorem half_least_le {n : ℕ} (hn : n ≤ 308) : (2 ^ (-1075 : ℤ) : ℚ) ≤ 1 / 100 * (10 ^ n)⁻¹ := by
  have hcast {m k : ℕ} (h : Nat.pow 10 m ≤ Nat.pow 2 k) : (2 ^ (-k : ℤ) : ℚ) ≤ (10 ^ m)⁻¹ := by
    rw [zpow_neg, zpow_natCast]
    exact inv_anti₀ (by positivity) (by exact_mod_cast h)
  have hleast : (2 ^ (-1075 : ℤ) : ℚ) ≤ (10 ^ (308 + 2))⁻¹ := hcast (by decide +kernel)
  have hmono : ((10 : ℚ) ^ (308 + 2))⁻¹ ≤ (10 ^ (n + 2))⁻¹ :=
    inv_anti₀ (by positivity) (pow_le_pow_right₀ (by norm_num) (by omega))
  calc (2 ^ (-1075 : ℤ) : ℚ) ≤ (10 ^ (n + 2))⁻¹ := hleast.trans hmono
    _ = 1 / 100 * (10 ^ n)⁻¹ := by
      rw [pow_add, mul_inv, mul_comm]
      norm_num

/-- The reciprocal of a power of ten is near the exact one, although it can be below the normal doubles. -/
theorem value?_reciprocal {p : Float} {x : ℚ} {n : ℕ} (hn : n ≤ 308) (hp : value? p = some x) (hone : 1 ≤ x)
    (hhigh : x ≤ 101 / 100 * 10 ^ n) :
    ∃ q, value? (1 / p) = some q ∧ 0 < q ∧ q ≤ 1 ∧ 9 / 10 * (10 ^ n)⁻¹ ≤ q := by
  have hunit : value? 1 = some 1 := by decide +kernel
  have hx : 0 < x := one_pos.trans_le hone
  have hpos : 0 < 1 / x := by positivity
  have hle : 1 / x ≤ 1 := (div_le_one hx).mpr hone
  have hvalue : value? (1 / p) = some (nearby (1 / x)) := by
    refine (roundsTo_div hunit hp hx.ne').value?_eq ?_
    have hlargest := abs_le_largest hunit
    rw [abs_one] at hlargest
    rw [abs_of_pos hpos]
    exact hle.trans hlargest
  have hscale : (0 : ℚ) < (10 ^ n)⁻¹ := by positivity
  have hexact : 100 / 101 * (10 ^ n)⁻¹ ≤ 1 / x := by
    rw [le_div_iff₀ hx]
    calc 100 / 101 * (10 ^ n)⁻¹ * x ≤ 100 / 101 * (10 ^ n)⁻¹ * (101 / 100 * 10 ^ n) :=
          mul_le_mul_of_nonneg_left hhigh (by positivity)
      _ = 1 := by field_simp
  have hbelow := (abs_le.mp (nearby_error_le hpos)).1
  have hsmall : 1 / x * unitRoundoff ≤ 1 / x * (1 / 100) :=
    mul_le_mul_of_nonneg_left (by norm_num [unitRoundoff]) hpos.le
  have hleast := half_least_le hn
  have hlower : 9 / 10 * ((10 : ℚ) ^ n)⁻¹ ≤ nearby (1 / x) := by linarith
  exact ⟨nearby (1 / x), hvalue, lt_of_lt_of_le (by positivity) hlower, nearby_le_one hpos hle, hlower⟩

theorem value?_powerInt_neg {n : ℕ} (hn : n ≤ 308) :
    ∃ q, value? (powerInt 10 (-n)) = some q ∧ 0 < q ∧ q ≤ 1 ∧ 9 / 10 * (10 ^ n)⁻¹ ≤ q := by
  rcases Nat.eq_zero_or_pos n with rfl | hpos
  · exact ⟨1, by decide +kernel, by norm_num, le_rfl, by norm_num⟩
  · have hpower : powerInt 10 (-n) = 1 / power 10 n := by
      rw [powerInt, if_pos (by omega), Int.natAbs_neg, Int.natAbs_natCast]
    obtain ⟨p, hp, hone, -, hhigh⟩ := value?_power_ten hn
    rw [hpower]
    exact value?_reciprocal hn hp hone hhigh

/-! ### Decimals -/

section

variable {v : Float} {x : ℚ} (hv : value? v = some x) {n : ℕ} (hn : n ≤ 308)

include hv hn

/-- With up to 308 decimals nothing is lost unless the scaled signal leaves the range. -/
theorem isFinite_roundTo_natCast (h : (v * powerInt 10 n).isInf = false) : (roundTo v n).isFinite = true := by
  obtain ⟨p, hp, hone, -, -⟩ := value?_power_ten hn
  have hpower : powerInt 10 n = power 10 n := if_neg (by omega)
  rw [hpower] at h
  rw [roundTo, hpower]
  have hscaled : (v * power 10 n).isFinite = true := by
    rw [isFinite_eq_not_isInf (roundsTo_mul hv hp).isNaN_eq_false, h]
    rfl
  obtain ⟨y, hy⟩ := exists_value?_of_isFinite hscaled
  obtain ⟨z, hz, -⟩ := value?_roundBy (fun whole size => 0.5 ≤ size - whole) hy
  have hquotient : |z / p| ≤ largest := by
    rw [abs_div]
    exact (div_le_self (abs_nonneg z) (hone.trans (le_abs_self p))).trans (abs_le_largest hz)
  exact isFinite_of_value? ((roundsTo_div hz hp (by linarith)).value?_eq hquotient)

theorem isFinite_roundTo_natCast_of_le (hle : |x| * 10 ^ n ≤ 10 ^ 307) : (roundTo v n).isFinite = true := by
  obtain ⟨p, hp, hone, -, hhigh⟩ := value?_power_ten hn
  have hpower : powerInt 10 n = power 10 n := if_neg (by omega)
  refine isFinite_roundTo_natCast hv hn ?_
  have hproduct : |x * p| ≤ largest := by
    have hlargest := le_largest
    have hscale : |x| * p ≤ |x| * (101 / 100 * 10 ^ n) := mul_le_mul_of_nonneg_left hhigh (abs_nonneg x)
    have hpos : (0 : ℚ) < 10 ^ 307 := by positivity
    rw [abs_mul, abs_of_pos (by linarith : 0 < p)]
    generalize (10 : ℚ) ^ 307 = c at hle hlargest hpos
    linarith
  have hfinite := isFinite_of_value? ((roundsTo_mul hv hp).value?_eq hproduct)
  have hrange := isFinite_eq_not_isInf (roundsTo_mul hv hp).isNaN_eq_false
  rw [hfinite] at hrange
  rw [hpower]
  exact (Bool.not_eq_true' _).mp hrange.symm

/-- Scaling with places before the point does not leave the range, and rounding then adds one at most. -/
theorem exists_scaled_neg : ∃ q z, value? (powerInt 10 (-n)) = some q ∧ 0 < q ∧ 9 / 10 * (10 ^ n)⁻¹ ≤ q ∧
    value? (round (v * powerInt 10 (-n))) = some z ∧ |z| ≤ |nearby (x * q)| + 1 := by
  obtain ⟨q, hq, hpos, hone, hlow⟩ := value?_powerInt_neg hn
  have hproduct : |x * q| ≤ largest := by
    rw [abs_mul, abs_of_pos hpos]
    exact (mul_le_of_le_one_right (abs_nonneg x) hone).trans (abs_le_largest hv)
  obtain ⟨z, hz, hle⟩ :=
    value?_roundBy (fun whole size => 0.5 ≤ size - whole) ((roundsTo_mul hv hq).value?_eq hproduct)
  exact ⟨q, z, hq, hpos, hlow, hz, hle⟩

theorem isNaN_roundTo_neg : (roundTo v (-n)).isNaN = false := by
  obtain ⟨q, z, hq, hpos, -, hz, -⟩ := exists_scaled_neg hv hn
  exact (roundsTo_div hz hq hpos.ne').isNaN_eq_false

theorem isFinite_roundTo_neg_of_le (hle : |x| ≤ 10 ^ 307) : (roundTo v (-n)).isFinite = true := by
  obtain ⟨q, z, hq, hpos, hlow, hz, hbound⟩ := exists_scaled_neg hv hn
  refine isFinite_of_value? ((roundsTo_div hz hq hpos.ne').value?_eq ?_)
  have hnearby : |nearby (x * q)| ≤ 2 * (|x| * q) + 1 / 100 := by
    have herror := abs_nearby_le (x * q)
    have hleast := half_least_le (Nat.zero_le 308)
    rw [pow_zero, inv_one, mul_one] at hleast
    rw [abs_mul, abs_of_pos hpos] at herror
    have hsmall : |x| * q * unitRoundoff ≤ |x| * q * 1 :=
      mul_le_mul_of_nonneg_left unitRoundoff_lt_one.le (mul_nonneg (abs_nonneg x) hpos.le)
    linarith
  have hinverse : 1 ≤ 10 / 9 * (10 * 10 ^ 307) * q := by
    have hmax : (10 ^ n : ℚ) ≤ 10 * 10 ^ 307 := by
      rw [← pow_succ']
      exact pow_le_pow_right₀ (by norm_num) hn
    have hten : (0 : ℚ) < 10 ^ n := by positivity
    calc (1 : ℚ) = 10 / 9 * 10 ^ n * (9 / 10 * (10 ^ n)⁻¹) := by field_simp
      _ ≤ 10 / 9 * (10 * 10 ^ 307) * q := by gcongr
  have hlargest := mul_le_mul_of_nonneg_right le_largest hpos.le
  have hscale := mul_le_mul_of_nonneg_right hle hpos.le
  rw [abs_div, abs_of_pos hpos, div_le_iff₀ hpos]
  generalize (10 : ℚ) ^ 307 = c at hinverse hlargest hscale
  nlinarith

end

/-- A finite signal is not lost to rounding as long as it is at most 10³⁰⁷, also when it is scaled up. -/
theorem isFinite_roundTo_of_le {v : Float} {x : ℚ} (hv : value? v = some x) {k : ℤ} (hlow : -308 ≤ k)
    (hhigh : k ≤ 308) (hle : |x| * 10 ^ k.toNat ≤ 10 ^ 307) : (roundTo v k).isFinite = true := by
  obtain ⟨n, rfl | rfl⟩ := k.eq_nat_or_neg
  · exact isFinite_roundTo_natCast_of_le hv (by omega) hle
  · have htoNat : (-n : ℤ).toNat = 0 := by omega
    rw [htoNat, pow_zero, mul_one] at hle
    exact isFinite_roundTo_neg_of_le hv (by omega) hle

end Gauge.Signal
