import Mathlib
import Gauge.Signal.Basic

/-! # Rounding to a double

The model of doubles rounds a mantissa with an exponent and two bits for what is left out. All of it depends
only on the rational number that they stand for. The exponent of the last place is that of the number, unless
the number is too small for it.
-/
namespace Gauge.Signal

open Float.Model Float.Model.UnpackedFloat

/-- The whole part of a number with the bits that tell how far the number is above it. -/
def extended (x : ℚ) : ExtendedMantissa where
  mantissa := ⌊x⌋₊
  roundBit := decide (1 / 2 ≤ x - ⌊x⌋₊)
  stickyBit := decide (x - ⌊x⌋₊ ≠ 0 ∧ x - ⌊x⌋₊ ≠ 1 / 2)

theorem extended_add {n : ℕ} {f : ℚ} (hf : 0 ≤ f) (hlt : f < 1) :
    extended (n + f) = ⟨n, decide (1 / 2 ≤ f), decide (f ≠ 0 ∧ f ≠ 1 / 2)⟩ := by
  have hfloor : ⌊(n + f : ℚ)⌋₊ = n :=
    (Nat.floor_eq_iff (by positivity)).mpr ⟨by linarith, by linarith⟩
  rw [extended, hfloor, add_sub_cancel_left]

theorem extended_natCast (n : ℕ) : extended n = ExtendedMantissa.ofMantissaAndAccuracy n .exact := by
  have h := extended_add (n := n) le_rfl one_pos
  rw [add_zero] at h
  rw [h]
  norm_num [ExtendedMantissa.ofMantissaAndAccuracy]

theorem extended_div (n : ℕ) {d : ℕ} (hd : 0 < d) :
    extended (n / d : ℚ) = ExtendedMantissa.ofMantissaAndAccuracy (n / d) (accuracyOfFraction (n % d) d) := by
  have hpos : (0 : ℚ) < d := Nat.cast_pos.mpr hd
  have hsplit : (n / d : ℚ) = (n / d : ℕ) + (n % d : ℕ) / (d : ℚ) := by
    have hcast : (n : ℚ) = d * (n / d : ℕ) + (n % d : ℕ) := by exact_mod_cast (Nat.div_add_mod n d).symm
    rw [div_eq_iff hpos.ne', add_mul, div_mul_cancel₀ _ hpos.ne', mul_comm, ← hcast]
  have hlow : (0 : ℚ) ≤ (n % d : ℕ) / (d : ℚ) := by positivity
  have hhigh : ((n % d : ℕ) / (d : ℚ)) < 1 := by
    rw [div_lt_one hpos]
    exact_mod_cast Nat.mod_lt n hd
  rw [hsplit, extended_add hlow hhigh]
  generalize n % d = r
  have hround : (1 / 2 ≤ (r : ℚ) / d) ↔ d ≤ 2 * r := by
    rw [div_le_div_iff₀ two_pos hpos, one_mul, mul_comm]
    exact_mod_cast Iff.rfl
  have hhalf : ((r : ℚ) / d = 1 / 2) ↔ 2 * r = d := by
    rw [div_eq_div_iff hpos.ne' two_ne_zero, one_mul, mul_comm]
    exact_mod_cast Iff.rfl
  have hzero : ((r : ℚ) / d = 0) ↔ r = 0 := by
    rw [div_eq_zero_iff, Nat.cast_eq_zero, Nat.cast_eq_zero]
    exact or_iff_left hd.ne'
  simp only [hround, ne_eq, hhalf, hzero, accuracyOfFraction]
  by_cases hr : r = 0
  · subst hr
    simp [ExtendedMantissa.ofMantissaAndAccuracy, hd.ne']
  · rw [if_neg hr]
    cases horder : compare (2 * r) d with
    | lt =>
      have hlt : 2 * r < d := Nat.compare_eq_lt.mp horder
      simp [ExtendedMantissa.ofMantissaAndAccuracy, hr, hlt, hlt.ne]
    | eq =>
      have heq : 2 * r = d := Nat.compare_eq_eq.mp horder
      simp [ExtendedMantissa.ofMantissaAndAccuracy, heq]
    | gt =>
      have hgt : d < 2 * r := Nat.compare_eq_gt.mp horder
      simp [ExtendedMantissa.ofMantissaAndAccuracy, hr, hgt.le, hgt.ne']

theorem round_or_sticky (f : ℚ) : (decide (1 / 2 ≤ f) || decide (f ≠ 0 ∧ f ≠ 1 / 2)) = decide (f ≠ 0) := by
  rw [← Bool.decide_or, decide_eq_decide]
  constructor
  · rintro (hround | ⟨hne, -⟩)
    · intro hzero
      linarith
    · exact hne
  · intro hne
    by_cases hhalf : f = 1 / 2
    · exact .inl hhalf.ge
    · exact .inr ⟨hne, hhalf⟩

theorem exists_floor_add {x : ℚ} (hx : 0 ≤ x) : ∃ (n : ℕ) (f : ℚ), 0 ≤ f ∧ f < 1 ∧ x = n + f :=
  ⟨⌊x⌋₊, x - ⌊x⌋₊, sub_nonneg.mpr (Nat.floor_le hx), by linarith [Nat.lt_floor_add_one x], by ring⟩

theorem shiftRightOne_extended {x : ℚ} (hx : 0 ≤ x) : (extended x).shiftRightOne = extended (x / 2) := by
  obtain ⟨n, f, hf, hlt, rfl⟩ := exists_floor_add hx
  have hcast : (n : ℚ) = 2 * (n / 2 : ℕ) + (n % 2 : ℕ) := by exact_mod_cast (Nat.div_add_mod n 2).symm
  have hhalved : (n + f) / 2 = (n / 2 : ℕ) + ((n % 2 : ℕ) + f) / 2 := by rw [hcast]; ring
  have hbit : ((n % 2 : ℕ) : ℚ) ≤ 1 := by exact_mod_cast Nat.lt_succ_iff.mp (Nat.mod_lt n two_pos)
  rw [hhalved, extended_add hf hlt, extended_add (by positivity) (by linarith)]
  simp only [ExtendedMantissa.shiftRightOne, ExtendedMantissa.mk.injEq, true_and, round_or_sticky]
  rcases Nat.mod_two_eq_zero_or_one n with heven | hodd
  · rw [heven]
    refine ⟨(decide_eq_false ?_).symm, decide_eq_decide.mpr ⟨?_, ?_⟩⟩
    · push_cast
      linarith
    · intro hne
      refine ⟨?_, ?_⟩
      · intro hzero
        exact hne (by push_cast at hzero; linarith)
      · push_cast
        intro hhalf
        linarith
    · rintro ⟨hne, -⟩ hzero
      exact hne (by rw [hzero]; norm_num)
  · rw [hodd]
    refine ⟨(decide_eq_true ?_).symm, decide_eq_decide.mpr ⟨?_, ?_⟩⟩
    · push_cast
      linarith
    · intro hne
      refine ⟨?_, ?_⟩
      · push_cast
        intro hzero
        linarith
      · intro hhalf
        exact hne (by push_cast at hhalf; linarith)
    · rintro ⟨-, hne⟩ hzero
      exact hne (by rw [hzero]; norm_num)

theorem shiftRight_extended {x : ℚ} (hx : 0 ≤ x) (k : ℕ) : extended x >>> k = extended (x / 2 ^ k) := by
  induction k with
  | zero =>
    rw [pow_zero, div_one]
    rfl
  | succ k ih =>
    have hstep : extended x >>> (k + 1) = (extended x >>> k).shiftRightOne := rfl
    rw [hstep, ih, shiftRightOne_extended (by positivity), div_div, pow_succ]

/-! ### The exponent of the last place -/

theorem zpow_le_iff_le_log {x : ℚ} (hx : 0 < x) {k : ℤ} : 2 ^ k ≤ x ↔ k ≤ Int.log 2 x := by
  exact_mod_cast Int.zpow_le_iff_le_log one_lt_two hx

theorem lt_zpow_iff_log_lt {x : ℚ} (hx : 0 < x) {k : ℤ} : x < 2 ^ k ↔ Int.log 2 x < k := by
  exact_mod_cast Int.lt_zpow_iff_log_lt one_lt_two hx

theorem log_mul_zpow {x : ℚ} (hx : 0 < x) (e : ℤ) : Int.log 2 (x * 2 ^ e) = Int.log 2 x + e := by
  have hpos : (0 : ℚ) < x * 2 ^ e := by positivity
  refine eq_of_forall_le_iff fun k => ?_
  have hscale : (2 : ℚ) ^ k ≤ x * 2 ^ e ↔ (2 : ℚ) ^ (k - e) ≤ x := by
    rw [zpow_sub₀ two_ne_zero, div_le_iff₀ (by positivity)]
  rw [← zpow_le_iff_le_log hpos, hscale, zpow_le_iff_le_log hx]
  omega

theorem log_natCast_mul_zpow {m : ℕ} (hm : 0 < m) (e : ℤ) : Int.log 2 (m * 2 ^ e : ℚ) = m.log2 + e := by
  rw [log_mul_zpow (Nat.cast_pos.mpr hm), Int.log_natCast, Nat.log2_eq_log_two]

/-- The exponent of the last place of the doubles around a number. -/
def place (x : ℚ) : ℤ := Format.binary64.targetExponent (Int.log 2 x + 1)

theorem targetExponent_eq (t : ℤ) : Format.binary64.targetExponent t = max (t - 53) (-1074) := rfl

theorem place_eq (x : ℚ) : place x = max (Int.log 2 x - 52) (-1074) := by
  rw [place, targetExponent_eq]
  congr 1
  ring

theorem place_mono {x y : ℚ} (h : Int.log 2 x ≤ Int.log 2 y) : place x ≤ place y := by
  rw [place_eq, place_eq]
  omega

theorem place_natCast_mul_zpow {m : ℕ} (hm : 0 < m) (e : ℤ) :
    place (m * 2 ^ e) = Format.binary64.targetExponent (totalExponent m e) := by
  rw [place, log_natCast_mul_zpow hm, totalExponent]
  congr 1
  ring

theorem shiftToExponent_extended {x : ℚ} (hx : 0 < x) {m : ℕ} {e target : ℤ} {accuracy : Accuracy}
    (h : ExtendedMantissa.ofMantissaAndAccuracy m accuracy = extended (x / 2 ^ e)) (he : e ≤ target) :
    shiftToExponent m e accuracy target = (extended (x / 2 ^ target), target) := by
  obtain ⟨k, rfl⟩ := Int.le.dest he
  have hshift : (e + k - e).toNat = k := by omega
  have hdiv : x / 2 ^ e / 2 ^ k = x / 2 ^ (e + k) := by
    rw [zpow_add₀ two_ne_zero, zpow_natCast, div_div]
  rw [shiftToExponent, h, hshift, shiftRight_extended (by positivity), hdiv]

/-- A mantissa that leaves out no place of the doubles around `x` is shifted to their last place. -/
theorem shiftToTargetExponent_extended {x : ℚ} (hx : 0 < x) {m : ℕ} {e : ℤ} {accuracy : Accuracy}
    (h : ExtendedMantissa.ofMantissaAndAccuracy m accuracy = extended (x / 2 ^ e)) (he : e ≤ place x) :
    shiftToTargetExponent Format.binary64 m e accuracy = (extended (x / 2 ^ place x), place x) := by
  have hmantissa : m = ⌊x / 2 ^ e⌋₊ := by
    have hparts := congrArg ExtendedMantissa.mantissa h
    cases accuracy with
    | exact => exact hparts
    | inexact order => cases order <;> exact hparts
  have htarget : Format.binary64.targetExponent (totalExponent m e) = place x := by
    by_cases hm : m = 0
    · -- The number is below the place `e`, which then is the last place of all doubles.
      have hsmall : x < 2 ^ e := by
        rw [hmantissa, Nat.floor_eq_zero, div_lt_one (by positivity)] at hm
        exact hm
      have hlog : Int.log 2 x < e := (lt_zpow_iff_log_lt hx).mp hsmall
      rw [place_eq] at he ⊢
      rw [hm, totalExponent, targetExponent_eq, Nat.log2_zero]
      omega
    · have hlow : (m : ℚ) ≤ x / 2 ^ e := hmantissa ▸ Nat.floor_le (by positivity)
      have hlog : Int.log 2 (x / 2 ^ e) = m.log2 := by
        have hone : (1 : ℚ) ≤ x / 2 ^ e := le_trans (by exact_mod_cast Nat.pos_of_ne_zero hm) hlow
        rw [Int.log_of_one_le_right 2 hone, ← hmantissa, Nat.log2_eq_log_two]
      have hsum : Int.log 2 x = m.log2 + e := by
        rw [← hlog, ← log_mul_zpow (by positivity), div_mul_cancel₀ _ (by positivity)]
      rw [place, hsum, totalExponent]
      congr 1
      ring
  rw [shiftToTargetExponent, htarget]
  exact shiftToExponent_extended hx h he

/-! ### The rounded number -/

def fitted (sign : Sign) (m : ℕ) (e : ℤ) : UnpackedFloat :=
  let shifted := shiftToTargetExponent Format.binary64 m e .exact
  if h : shifted.1.mantissa = 0 then .zero sign
  else .finite sign shifted.1.mantissa shifted.2 (Nat.pos_of_ne_zero h)

def rounded (sign : Sign) (x : ℚ) : UnpackedFloat :=
  fitted sign (extended (x / 2 ^ place x)).roundedMantissa (place x)

theorem roundWithAccuracy_eq_rounded (sign : Sign) {x : ℚ} (hx : 0 < x) {m : ℕ} {e : ℤ} {accuracy : Accuracy}
    (h : ExtendedMantissa.ofMantissaAndAccuracy m accuracy = extended (x / 2 ^ e)) (he : e ≤ place x) :
    roundWithAccuracy Format.binary64 sign m e accuracy = rounded sign x := by
  rw [roundWithAccuracy, shiftToTargetExponent_extended hx h he]
  rfl

theorem roundWithAccuracy_exact (sign : Sign) {m : ℕ} (hm : 0 < m) {e : ℤ} (he : e ≤ place (m * 2 ^ e)) :
    roundWithAccuracy Format.binary64 sign m e .exact = rounded sign (m * 2 ^ e) := by
  have hvalue : (m * 2 ^ e / 2 ^ e : ℚ) = m := mul_div_cancel_right₀ _ (by positivity)
  refine roundWithAccuracy_eq_rounded sign (by positivity) ?_ he
  rw [hvalue, extended_natCast]

theorem decreaseExponent_value (m : ℕ) (e target : ℤ) :
    ((decreaseExponent m e target).1 * 2 ^ (decreaseExponent m e target).2 : ℚ) = m * 2 ^ e := by
  simp only [decreaseExponent]
  generalize (e - target).toNat = k
  have hscale : (2 : ℚ) ^ e = 2 ^ k * 2 ^ (e - k) := by
    rw [← zpow_natCast, ← zpow_add₀ two_ne_zero]
    congr 1
    ring
  rw [Nat.shiftLeft_eq, Nat.cast_mul, Nat.cast_pow, hscale, mul_assoc]
  rfl

theorem decreaseExponent_le (m : ℕ) (e target : ℤ) : (decreaseExponent m e target).2 ≤ target := by
  simp only [decreaseExponent]
  omega

theorem decreaseExponent_pos {m : ℕ} (hm : 0 < m) (e target : ℤ) : 0 < (decreaseExponent m e target).1 := by
  simp only [decreaseExponent, Nat.shiftLeft_eq]
  positivity

theorem round_eq_rounded (sign : Sign) {m : ℕ} (hm : 0 < m) (e : ℤ) :
    UnpackedFloat.round Format.binary64 sign m e = rounded sign (m * 2 ^ e) := by
  have hplace := decreaseExponent_le m e (place (m * 2 ^ e))
  have hvalue := decreaseExponent_value m e (place (m * 2 ^ e))
  have hround := roundWithAccuracy_exact sign (decreaseExponent_pos hm e (place (m * 2 ^ e)))
    (hplace.trans_eq (congrArg place hvalue.symm))
  rw [hvalue] at hround
  rw [UnpackedFloat.round, ← place_natCast_mul_zpow hm]
  exact hround

theorem roundToInt_positive {m : ℕ} (hm : 0 < m) (e : ℤ) :
    roundToInt .positive m e = ⌊(m * 2 ^ e : ℚ)⌋₊ := by
  have hvalue := decreaseExponent_value m e 0
  have hexact : ExtendedMantissa.ofMantissaAndAccuracy (decreaseExponent m e 0).1 .exact =
      extended (m * 2 ^ e / 2 ^ (decreaseExponent m e 0).2) := by
    rw [← hvalue, mul_div_cancel_right₀ _ (by positivity), extended_natCast]
  have hshift := shiftToExponent_extended (by positivity) hexact (decreaseExponent_le m e 0)
  rw [zpow_zero, div_one] at hshift
  simp only [roundToInt, hshift]
  rfl

structure IsCanonical (m : ℕ) (e : ℤ) : Prop where
  lt : m < 2 ^ 53
  ge : -1074 ≤ e
  full : 2 ^ 52 ≤ m ∨ e = -1074

theorem IsCanonical.targetExponent {m : ℕ} {e : ℤ} (h : IsCanonical m e) (hm : 0 < m) :
    Format.binary64.targetExponent (totalExponent m e) = e := by
  have hhigh : m.log2 < 53 := (Nat.log2_lt hm.ne').mpr h.lt
  have hge := h.ge
  rw [totalExponent, targetExponent_eq]
  rcases h.full with hfull | rfl
  · have hlow : 52 ≤ m.log2 := (Nat.le_log2 hm.ne').mpr hfull
    omega
  · omega

theorem IsCanonical.place {m : ℕ} {e : ℤ} (h : IsCanonical m e) (hm : 0 < m) : place (m * 2 ^ e) = e := by
  rw [place_natCast_mul_zpow hm, h.targetExponent hm]

/-- A mantissa that need not be canonical fits as the canonical one of its number. -/
theorem fitted_eq (sign : Sign) {n m : ℕ} {p e : ℤ} (hm : 0 < m) (h : IsCanonical m e)
    (hvalue : (n * 2 ^ p : ℚ) = m * 2 ^ e) (hle : p ≤ e) : fitted sign n p = .finite sign m e hm := by
  have hpos : (0 : ℚ) < m * 2 ^ e := by positivity
  have hexact : ExtendedMantissa.ofMantissaAndAccuracy n .exact = extended (m * 2 ^ e / 2 ^ p) := by
    rw [← hvalue, mul_div_cancel_right₀ _ (by positivity), extended_natCast]
  have hshift := shiftToTargetExponent_extended hpos hexact (hle.trans_eq (h.place hm).symm)
  rw [h.place hm, mul_div_cancel_right₀ _ (by positivity), extended_natCast] at hshift
  simp only [fitted, hshift]
  exact dif_neg hm.ne'

theorem rounded_canonical (sign : Sign) {m : ℕ} {e : ℤ} (hm : 0 < m) (h : IsCanonical m e) :
    rounded sign (m * 2 ^ e) = .finite sign m e hm := by
  have hround : (ExtendedMantissa.ofMantissaAndAccuracy m .exact).roundedMantissa = m := rfl
  rw [rounded, h.place hm, mul_div_cancel_right₀ _ (by positivity), extended_natCast, hround]
  exact fitted_eq sign hm h rfl le_rfl

theorem fitted_zero (sign : Sign) (p : ℤ) : fitted sign 0 p = .zero sign := by
  have hempty : ExtendedMantissa.ofMantissaAndAccuracy 0 .exact = extended 0 := by
    rw [← extended_natCast, Nat.cast_zero]
  have hshifted : (shiftToTargetExponent Format.binary64 0 p .exact).1.mantissa = 0 := by
    simp only [shiftToTargetExponent, shiftToExponent, hempty, shiftRight_extended le_rfl, zero_div]
    exact Nat.floor_zero
  exact dif_pos hshifted

/-! ### Out of range -/

/-- A number that is not too small for it has its last place at its first digit or below. -/
theorem one_le_div_place {x : ℚ} (hx : 0 < x) (h : -1074 ≤ Int.log 2 x) : 1 ≤ x / 2 ^ place x := by
  rw [one_le_div (by positivity), zpow_le_iff_le_log hx, place_eq]
  omega

theorem le_roundedMantissa (em : ExtendedMantissa) : em.mantissa ≤ em.roundedMantissa := by
  unfold ExtendedMantissa.roundedMantissa Accuracy.roundToNearestEven
  split <;> omega

/-- A number from the least positive double on is rounded to a mantissa at its last place or above. -/
theorem exists_rounded (sign : Sign) {x : ℚ} (hx : 0 < x) (h : -1074 ≤ Int.log 2 x) :
    ∃ m e, ∃ hm : 0 < m, rounded sign x = .finite sign m e hm ∧ place x ≤ e := by
  have hone := one_le_div_place hx h
  have hfloor : ⌊x / 2 ^ place x⌋₊ ≤ (extended (x / 2 ^ place x)).roundedMantissa :=
    le_roundedMantissa (extended (x / 2 ^ place x))
  unfold rounded
  generalize (extended (x / 2 ^ place x)).roundedMantissa = n at hfloor ⊢
  have hn : 0 < n := (Nat.floor_pos.mpr hone).trans_le hfloor
  have hlog : Int.log 2 x ≤ Int.log 2 (n * 2 ^ place x : ℚ) := by
    have hsplit : Int.log 2 x = Nat.log 2 ⌊x / 2 ^ place x⌋₊ + place x := by
      rw [← Int.log_of_one_le_right 2 hone, ← log_mul_zpow (by positivity), div_mul_cancel₀ _ (by positivity)]
    have hmono : Nat.log 2 ⌊x / 2 ^ place x⌋₊ ≤ Nat.log 2 n := Nat.log_mono_right hfloor
    rw [log_mul_zpow (by positivity), Int.log_natCast]
    omega
  have hplace : place x ≤ place (n * 2 ^ place x) := place_mono hlog
  have hexact : ExtendedMantissa.ofMantissaAndAccuracy n .exact = extended (n * 2 ^ place x / 2 ^ place x) := by
    rw [mul_div_cancel_right₀ _ (by positivity), extended_natCast]
  simp only [fitted, shiftToTargetExponent_extended (by positivity) hexact hplace]
  have hmantissa : 0 < (extended (n * 2 ^ place x / 2 ^ place (n * 2 ^ place x))).mantissa :=
    Nat.floor_pos.mpr (one_le_div_place (by positivity) (h.trans hlog))
  exact ⟨_, _, hmantissa, dif_neg hmantissa.ne', hplace⟩

theorem pack_finite_of_large (sign : Sign) {m : ℕ} {e : ℤ} (hm : 0 < m) (h : 972 ≤ e) :
    Float.Model.pack (.finite sign m e hm) = Float.Model.pack (.infinity sign) := by
  have hbiased : 2 ^ Format.binary64.exponentBits ≤
      (e + Format.binary64.exponentBias + Format.binary64.mantissaBitsWithoutImplicit).toNat + 1 := by
    have hsum : e + Format.binary64.exponentBias + Format.binary64.mantissaBitsWithoutImplicit = e + 1075 := by
      rw [add_assoc]
      rfl
    rw [hsum]
    show 2048 ≤ _
    omega
  have hpack : UnpackedFloat.pack Format.binary64 (.finite sign m e hm) =
      UnpackedFloat.pack Format.binary64 (.infinity sign) := if_pos hbiased
  simp only [Float.Model.pack, hpack]

theorem pack_rounded_of_large {x : ℚ} (hx : 0 < x) (h : 1024 ≤ Int.log 2 x) :
    Float.Model.pack (rounded .positive x) = Float.Model.pack (.infinity .positive) := by
  obtain ⟨m, e, hm, hround, hplace⟩ := exists_rounded .positive hx (by omega)
  have hlarge : 972 ≤ e := by
    rw [place_eq] at hplace
    omega
  rw [hround, pack_finite_of_large .positive hm hlarge]

theorem rounded_of_small (sign : Sign) {x : ℚ} (hx : 0 < x) (h : Int.log 2 x < -1075) :
    rounded sign x = .zero sign := by
  have hplace : place x = -1074 := by
    rw [place_eq]
    omega
  have hhalf : x / 2 ^ place x < 1 / 2 := by
    have hlt : x < 2 ^ (Int.log 2 x + 1) := (lt_zpow_iff_log_lt hx).mpr (by omega)
    have hle : (2 : ℚ) ^ (Int.log 2 x + 1) ≤ 2 ^ (-1 + place x) := zpow_le_zpow_right₀ one_le_two (by omega)
    rw [zpow_add₀ two_ne_zero (-1), zpow_neg_one] at hle
    rw [div_lt_iff₀ (by positivity), one_div]
    exact hlt.trans_le hle
  have hzero : (extended (x / 2 ^ place x)).roundedMantissa = 0 := by
    have hsplit := extended_add (n := 0) (f := x / 2 ^ place x) (by positivity) (by linarith)
    rw [Nat.cast_zero, zero_add] at hsplit
    rw [hsplit, decide_eq_false (not_le.mpr hhalf)]
    cases decide (x / 2 ^ place x ≠ 0 ∧ x / 2 ^ place x ≠ 1 / 2) <;> rfl
  rw [rounded, hzero, fitted_zero]

end Gauge.Signal
