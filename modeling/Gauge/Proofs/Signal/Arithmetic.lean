import Gauge.Proofs.Signal.Words

/-! # Arithmetic of numbers

A product or a quotient of finite signals is the double nearest to the exact result, as long as that is in
range. Rounding moves a number by half a unit of its last place at most and keeps it within the range.
-/
namespace Gauge.Signal

open Float.Model Float.Model.UnpackedFloat

/-! ### The nearest multiple of the last place -/

theorem roundedMantissa_error {y : ℚ} (hy : 0 ≤ y) : |((extended y).roundedMantissa : ℚ) - y| ≤ 1 / 2 := by
  obtain ⟨n, f, hf, hlt, rfl⟩ := exists_floor_add hy
  rw [extended_add hf hlt, abs_le]
  rcases lt_trichotomy f (1 / 2) with hlow | rfl | hhigh
  · have hdown (sticky : Bool) : ExtendedMantissa.roundedMantissa ⟨n, false, sticky⟩ = n := by
      cases sticky <;> rfl
    rw [decide_eq_false (not_le.mpr hlow), hdown]
    constructor <;> linarith
  · have htie : ExtendedMantissa.roundedMantissa ⟨n, true, false⟩ = n + n % 2 := rfl
    have hbit : ((n % 2 : ℕ) : ℚ) ≤ 1 := by exact_mod_cast Nat.lt_succ_iff.mp (Nat.mod_lt n two_pos)
    have hnonneg : (0 : ℚ) ≤ (n % 2 : ℕ) := Nat.cast_nonneg _
    rw [decide_eq_true le_rfl, decide_eq_false fun h => h.2 rfl, htie, Nat.cast_add]
    constructor <;> linarith
  · have hup : ExtendedMantissa.roundedMantissa ⟨n, true, true⟩ = n + 1 := rfl
    rw [decide_eq_true hhigh.le, decide_eq_true ⟨(one_half_pos.trans hhigh).ne', hhigh.ne'⟩, hup, Nat.cast_succ]
    constructor <;> linarith

theorem roundedMantissa_le {y : ℚ} (hy : 0 ≤ y) {n : ℕ} (h : y ≤ n) : (extended y).roundedMantissa ≤ n := by
  have herror := (abs_le.mp (roundedMantissa_error hy)).2
  have hlt : ((extended y).roundedMantissa : ℚ) < (n + 1 : ℕ) := by
    push_cast
    linarith
  exact Nat.lt_succ_iff.mp (Nat.cast_lt.mp hlt)

theorem natCast_le_roundedMantissa {y : ℚ} {n : ℕ} (h : n ≤ y) : n ≤ (extended y).roundedMantissa :=
  (Nat.le_floor h).trans (le_roundedMantissa (extended y))

/-- A number moved to the nearest multiple of its last place, as if doubles had no largest one. -/
def nearby (x : ℚ) : ℚ :=
  let size : ℚ := (extended (|x| / 2 ^ place |x|)).roundedMantissa * 2 ^ place |x|
  if x < 0 then -size else size

theorem nearby_of_nonneg {x : ℚ} (hx : 0 ≤ x) :
    nearby x = (extended (x / 2 ^ place x)).roundedMantissa * 2 ^ place x := by
  simp only [nearby, abs_of_nonneg hx, if_neg (not_lt.mpr hx)]

theorem nearby_zero : nearby 0 = 0 := by
  have hnone : (extended (0 / 2 ^ place 0)).roundedMantissa = 0 := by
    refine Nat.le_zero.mp (roundedMantissa_le (by positivity) ?_)
    rw [zero_div, Nat.cast_zero]
  rw [nearby_of_nonneg le_rfl, hnone, Nat.cast_zero, zero_mul]

theorem nearby_neg {x : ℚ} (hx : 0 ≤ x) : nearby (-x) = -nearby x := by
  rcases hx.eq_or_lt with rfl | hpos
  · rw [neg_zero, nearby_zero, neg_zero]
  · rw [nearby_of_nonneg hx]
    simp only [nearby, abs_neg, abs_of_nonneg hx, if_pos (neg_neg_of_pos hpos)]

theorem nearby_nonneg {x : ℚ} (hx : 0 ≤ x) : 0 ≤ nearby x := by
  rw [nearby_of_nonneg hx]
  positivity

theorem multiple_of_unit (n k : ℕ) (e : ℤ) : (n * 2 ^ (e + k) : ℚ) = (n * 2 ^ k : ℕ) * 2 ^ e := by
  rw [zpow_add₀ two_ne_zero, zpow_natCast]
  push_cast
  ring

/-- Rounding does not pass a multiple of a higher place. -/
theorem nearby_le {x : ℚ} (hx : 0 ≤ x) {n : ℕ} {e : ℤ} (he : place x ≤ e) (h : x ≤ n * 2 ^ e) :
    nearby x ≤ n * 2 ^ e := by
  obtain ⟨k, rfl⟩ := Int.le.dest he
  rw [multiple_of_unit] at h ⊢
  rw [nearby_of_nonneg hx]
  have hle := roundedMantissa_le (by positivity) ((div_le_iff₀ (by positivity)).mpr h)
  exact mul_le_mul_of_nonneg_right (Nat.cast_le.mpr hle) (by positivity)

theorem le_nearby {x : ℚ} {n : ℕ} {e : ℤ} (he : place x ≤ e) (h : n * 2 ^ e ≤ x) : n * 2 ^ e ≤ nearby x := by
  have hx : 0 ≤ x := h.trans' (by positivity)
  obtain ⟨k, rfl⟩ := Int.le.dest he
  rw [multiple_of_unit] at h ⊢
  rw [nearby_of_nonneg hx]
  have hle := natCast_le_roundedMantissa ((le_div_iff₀ (by positivity)).mpr h)
  exact mul_le_mul_of_nonneg_right (Nat.cast_le.mpr hle) (by positivity)

theorem nearby_error {x : ℚ} (hx : 0 ≤ x) : |nearby x - x| ≤ 2 ^ place x / 2 := by
  have hscale : nearby x - x = ((extended (x / 2 ^ place x)).roundedMantissa - x / 2 ^ place x) * 2 ^ place x := by
    rw [nearby_of_nonneg hx, sub_mul, div_mul_cancel₀ _ (by positivity)]
  rw [hscale, abs_mul, abs_of_pos (by positivity : (0 : ℚ) < 2 ^ place x)]
  calc _ ≤ 1 / 2 * 2 ^ place x :=
        mul_le_mul_of_nonneg_right (roundedMantissa_error (by positivity)) (by positivity)
    _ = 2 ^ place x / 2 := by ring

def unitRoundoff : ℚ := 1 / 2 ^ 53

theorem nearby_error_of_normal {x : ℚ} (hx : 0 < x) (h : -1022 ≤ Int.log 2 x) :
    |nearby x - x| ≤ x * unitRoundoff := by
  have hplace : place x = Int.log 2 x - 52 := by
    rw [place_eq]
    omega
  have hlow : (2 : ℚ) ^ Int.log 2 x ≤ x := (zpow_le_iff_le_log hx).mpr le_rfl
  refine (nearby_error hx.le).trans ?_
  rw [hplace, zpow_sub₀ two_ne_zero, div_div, unitRoundoff, mul_one_div]
  exact div_le_div₀ hx.le hlow (by positivity) (by norm_num)

/-- Where the last place does not follow the number, half of the least double is lost at most. -/
theorem nearby_error_le {x : ℚ} (hx : 0 < x) : |nearby x - x| ≤ x * unitRoundoff + 2 ^ (-1075 : ℤ) := by
  by_cases h : -1022 ≤ Int.log 2 x
  · exact (nearby_error_of_normal hx h).trans (le_add_of_nonneg_right (by positivity))
  · have hplace : place x = -1074 := by
      rw [place_eq]
      omega
    refine (nearby_error hx.le).trans (le_add_of_nonneg_of_le (by rw [unitRoundoff]; positivity) ?_)
    rw [hplace, div_eq_mul_inv, ← zpow_sub_one₀ two_ne_zero]
    rfl

theorem abs_nearby (x : ℚ) : |nearby x| = nearby |x| := by
  rcases le_total 0 x with hx | hx
  · rw [abs_of_nonneg hx, abs_of_nonneg (nearby_nonneg hx)]
  · have hneg : 0 ≤ -x := neg_nonneg.mpr hx
    have hodd := nearby_neg hneg
    rw [neg_neg] at hodd
    rw [hodd, abs_neg, abs_of_nonpos hx, abs_of_nonneg (nearby_nonneg hneg)]

theorem abs_nearby_le (x : ℚ) : |nearby x| ≤ |x| + |x| * unitRoundoff + 2 ^ (-1075 : ℤ) := by
  rw [abs_nearby]
  rcases (abs_nonneg x).eq_or_lt with hzero | hpos
  · rw [← hzero, nearby_zero, zero_mul, add_zero, zero_add]
    positivity
  · have herror := (abs_le.mp (nearby_error_le hpos)).2
    linarith

/-! ### Doubles in range -/

def largest : ℚ := (2 ^ 53 - 1 : ℕ) * 2 ^ (971 : ℤ)

theorem largest_lt : largest < 2 ^ (1024 : ℤ) := by
  have hsplit : (2 : ℚ) ^ (1024 : ℤ) = 2 ^ 53 * 2 ^ (971 : ℤ) := by
    rw [← zpow_natCast, ← zpow_add₀ two_ne_zero]
    rfl
  rw [largest, hsplit]
  exact mul_lt_mul_of_pos_right (by norm_num) (by positivity)

theorem nearby_le_largest {x : ℚ} (hx : 0 < x) (h : x ≤ largest) : nearby x ≤ largest := by
  have hlog : Int.log 2 x < 1024 := (lt_zpow_iff_log_lt hx).mp (h.trans_lt largest_lt)
  refine nearby_le hx.le ?_ h
  rw [place_eq]
  omega

/-- Numbers from one on stay there. -/
theorem one_le_nearby {x : ℚ} (h : 1 ≤ x) : 1 ≤ nearby x := by
  have hx : 0 < x := one_pos.trans_le h
  have hlog : 0 ≤ Int.log 2 x := (zpow_le_iff_le_log hx).mp (by rwa [zpow_zero])
  have hlow : (1 : ℕ) * 2 ^ Int.log 2 x ≤ nearby x := by
    refine le_nearby ?_ ?_
    · rw [place_eq]
      omega
    · rw [Nat.cast_one, one_mul]
      exact (zpow_le_iff_le_log hx).mpr le_rfl
  rw [Nat.cast_one, one_mul] at hlow
  exact (one_le_zpow₀ one_le_two hlog).trans hlow

theorem nearby_le_one {x : ℚ} (hx : 0 < x) (h : x ≤ 1) : nearby x ≤ 1 := by
  have hlog : Int.log 2 x < 1 := (lt_zpow_iff_log_lt hx).mp (h.trans_lt (by norm_num))
  have hle : nearby x ≤ (1 : ℕ) * 2 ^ (0 : ℤ) := by
    refine nearby_le hx.le ?_ (by simpa using h)
    rw [place_eq]
    omega
  simpa using hle

theorem IsCanonical.le_of_le_largest {m : ℕ} {e : ℤ} (h : IsCanonical m e) (hle : (m * 2 ^ e : ℚ) ≤ largest) :
    e ≤ 971 := by
  rcases h.full with hfull | rfl
  · by_contra hlarge
    have hexponent : (2 : ℚ) ^ (972 : ℤ) ≤ 2 ^ e := zpow_le_zpow_right₀ one_le_two (by omega)
    have hmantissa : (2 ^ 52 : ℚ) ≤ m := by exact_mod_cast hfull
    have hproduct : (2 : ℚ) ^ (1024 : ℤ) ≤ m * 2 ^ e := by
      calc (2 : ℚ) ^ (1024 : ℤ) = 2 ^ 52 * 2 ^ (972 : ℤ) := by
            rw [← zpow_natCast, ← zpow_add₀ two_ne_zero]
            rfl
        _ ≤ m * 2 ^ e := mul_le_mul hmantissa hexponent (by positivity) (by positivity)
    exact absurd (hproduct.trans hle) (not_le.mpr largest_lt)
  · decide

theorem IsCanonical.le_largest {m : ℕ} {e : ℤ} (h : IsCanonical m e) (he : e ≤ 971) :
    (m * 2 ^ e : ℚ) ≤ largest :=
  mul_le_mul (Nat.cast_le.mpr (Nat.le_sub_one_of_lt h.lt)) (zpow_le_zpow_right₀ one_le_two he) (by positivity)
    (by positivity)

/-- A mantissa of full length fits, shifted by one place if rounding gave it one more. -/
theorem exists_fitted (sign : Sign) {n : ℕ} {p : ℤ} (hn : 0 < n) (hle : n ≤ 2 ^ 53) (hp : -1074 ≤ p)
    (hfull : 2 ^ 52 ≤ n ∨ p = -1074) :
    ∃ m e, ∃ hm : 0 < m, fitted sign n p = .finite sign m e hm ∧ IsCanonical m e ∧
      (n * 2 ^ p : ℚ) = m * 2 ^ e := by
  rcases hle.lt_or_eq with hlt | rfl
  · have hcanonical : IsCanonical n p := ⟨hlt, hp, hfull⟩
    exact ⟨n, p, hn, fitted_eq sign hn hcanonical rfl le_rfl, hcanonical, rfl⟩
  · have hcanonical : IsCanonical (2 ^ 52) (p + 1) := ⟨by norm_num, by omega, .inl le_rfl⟩
    have hvalue : ((2 ^ 53 : ℕ) * 2 ^ p : ℚ) = (2 ^ 52 : ℕ) * 2 ^ (p + 1) := by
      rw [zpow_add_one₀ two_ne_zero]
      push_cast
      ring
    have hpos : 0 < 2 ^ 52 := by norm_num
    exact ⟨2 ^ 52, p + 1, hpos, fitted_eq sign hpos hcanonical hvalue (by omega), hcanonical, hvalue⟩

theorem rounded_cases (sign : Sign) {x : ℚ} (hx : 0 < x) :
    (rounded sign x = .zero sign ∧ nearby x = 0) ∨
      ∃ m e, ∃ hm : 0 < m, rounded sign x = .finite sign m e hm ∧ IsCanonical m e ∧ nearby x = m * 2 ^ e := by
  have hplace := place_eq x
  have hhigh : x / 2 ^ place x ≤ (2 ^ 53 : ℕ) := by
    have hlt : x < 2 ^ (53 + place x) := (lt_zpow_iff_log_lt hx).mpr (by omega)
    rw [zpow_add₀ two_ne_zero] at hlt
    rw [div_le_iff₀ (by positivity)]
    exact_mod_cast hlt.le
  have hlow : 2 ^ 52 ≤ (extended (x / 2 ^ place x)).roundedMantissa ∨ place x = -1074 := by
    by_cases hsmall : place x = -1074
    · exact .inr hsmall
    · left
      refine natCast_le_roundedMantissa ((le_div_iff₀ (by positivity)).mpr ?_)
      have hle : (2 : ℚ) ^ (52 + place x) ≤ x := (zpow_le_iff_le_log hx).mpr (by omega)
      rw [zpow_add₀ two_ne_zero] at hle
      exact_mod_cast hle
  have hle := roundedMantissa_le (by positivity) hhigh
  rw [nearby_of_nonneg hx.le, rounded]
  generalize (extended (x / 2 ^ place x)).roundedMantissa = n at hlow hle ⊢
  rcases Nat.eq_zero_or_pos n with rfl | hn
  · left
    rw [fitted_zero, Nat.cast_zero, zero_mul]
    exact ⟨rfl, rfl⟩
  · exact .inr (exists_fitted sign hn hle (by omega) hlow)

/-! ### The double of an exact result -/

theorem signed_mul (s t : Sign) (x y : ℚ) : signed (s * t) (x * y) = signed s x * signed t y := by
  cases s with
  | positive =>
    cases t with
    | positive => rfl
    | negative => exact (mul_neg x y).symm
  | negative =>
    cases t with
    | positive => exact (neg_mul x y).symm
    | negative => exact (neg_mul_neg x y).symm

theorem signed_div (s t : Sign) (x y : ℚ) : signed (s / t) (x / y) = signed s x / signed t y := by
  cases s with
  | positive =>
    cases t with
    | positive => rfl
    | negative => exact (div_neg x).symm
  | negative =>
    cases t with
    | positive => exact (neg_div y x).symm
    | negative => exact (neg_div_neg_eq x y).symm

theorem nearby_signed (sign : Sign) {x : ℚ} (hx : 0 ≤ x) : nearby (signed sign x) = signed sign (nearby x) := by
  cases sign with
  | positive => rfl
  | negative => exact nearby_neg hx

theorem value?_pack_zero (sign : Sign) : value? (.ofModel (pack (.zero sign))) = some 0 :=
  value?_of_zero (unpack_pack trivial)

theorem value?_pack_finite (sign : Sign) {m : ℕ} {e : ℤ} (hm : 0 < m) (h : IsCanonical m e) (he : e ≤ 971) :
    value? (.ofModel (pack (.finite sign m e hm))) = some (signed sign (m * 2 ^ e)) := by
  have hpacked : IsPacked (.finite sign m e hm) := ⟨h, he⟩
  rw [← apply_mul]
  exact value?_of_finite (unpack_pack hpacked)

/-- The double that an exact result becomes: a zero, or the rounded number, out of range as it may be. -/
inductive RoundsTo : ℚ → Float → Prop
  | zero (sign : Sign) : RoundsTo 0 (.ofModel (pack (.zero sign)))
  | nonzero (sign : Sign) {x : ℚ} (hx : 0 < x) : RoundsTo (signed sign x) (.ofModel (pack (rounded sign x)))

theorem RoundsTo.value?_eq {x : ℚ} {v : Float} (h : RoundsTo x v) (hle : |x| ≤ largest) :
    value? v = some (nearby x) := by
  cases h with
  | zero sign => rw [value?_pack_zero, nearby_zero]
  | @nonzero sign x hx =>
    rw [abs_signed sign hx.le] at hle
    rw [nearby_signed sign hx.le]
    rcases rounded_cases sign hx with ⟨hzero, hvalue⟩ | ⟨m, e, hm, hfinite, hcanonical, hvalue⟩
    · rw [hzero, hvalue, value?_pack_zero]
      cases sign <;> simp [signed]
    · have he := hcanonical.le_of_le_largest (hvalue ▸ nearby_le_largest hx hle)
      rw [hfinite, hvalue, value?_pack_finite sign hm hcanonical he]

/-- An exact result may leave the range of doubles but does not get lost. -/
theorem RoundsTo.isNaN_eq_false {x : ℚ} {v : Float} (h : RoundsTo x v) : v.isNaN = false := by
  cases h with
  | zero sign => exact not_isNaN_of_value? (value?_pack_zero sign)
  | @nonzero sign x hx =>
    rcases rounded_cases sign hx with ⟨hzero, -⟩ | ⟨m, e, hm, hfinite, hcanonical, -⟩
    · rw [hzero]
      exact not_isNaN_of_value? (value?_pack_zero sign)
    · rw [hfinite]
      by_cases he : e ≤ 971
      · exact not_isNaN_of_value? (value?_pack_finite sign hm hcanonical he)
      · rw [pack_finite_of_large sign hm (by omega)]
        cases sign <;> decide +kernel

/-! ### Products and quotients -/

theorem abs_le_largest {v : Float} {x : ℚ} (h : value? v = some x) : |x| ≤ largest := by
  rcases unpack_cases h with ⟨sign, -, rfl⟩ | ⟨sign, m, e, hm, -, hcanonical, he, rfl⟩
  · rw [abs_zero, largest]
    positivity
  · rw [abs_signed sign (by positivity)]
    exact hcanonical.le_largest he

theorem place_product {m₁ m₂ : ℕ} {e₁ e₂ : ℤ} (h₁ : 0 < m₁) (h₂ : 0 < m₂) (hleft : IsCanonical m₁ e₁)
    (hright : IsCanonical m₂ e₂) : e₁ + e₂ ≤ place ((m₁ * m₂ : ℕ) * 2 ^ (e₁ + e₂)) := by
  have hpos : 0 < m₁ * m₂ := Nat.mul_pos h₁ h₂
  have hlog := log_natCast_mul_zpow hpos (e₁ + e₂)
  rw [place_eq, hlog]
  by_cases hfull : 2 ^ 52 ≤ m₁ * m₂
  · have hlow : 52 ≤ (m₁ * m₂).log2 := (Nat.le_log2 hpos.ne').mpr hfull
    omega
  · -- Neither mantissa is full, so both factors have the least exponent.
    have hsmall₁ : e₁ = -1074 :=
      hleft.full.resolve_left fun h => hfull (h.trans (Nat.le_mul_of_pos_right m₁ h₂))
    have hsmall₂ : e₂ = -1074 :=
      hright.full.resolve_left fun h => hfull (h.trans (Nat.le_mul_of_pos_left m₂ h₁))
    omega

theorem roundsTo_mul {v w : Float} {x y : ℚ} (hv : value? v = some x) (hw : value? w = some y) :
    RoundsTo (x * y) (v * w) := by
  show RoundsTo (x * y) (.ofModel (pack (v.toModel.unpack.mul Format.binary64 w.toModel.unpack)))
  rcases unpack_cases hv with ⟨s, hunpack, rfl⟩ | ⟨s, m₁, e₁, h₁, hunpack, hleft, -, rfl⟩
  · rw [zero_mul, hunpack]
    rcases unpack_cases hw with ⟨t, hunpack, -⟩ | ⟨t, m₂, e₂, h₂, hunpack, -⟩
    · rw [hunpack]
      exact .zero (s * t)
    · rw [hunpack]
      exact .zero (s * t)
  · rw [hunpack]
    rcases unpack_cases hw with ⟨t, hunpack, rfl⟩ | ⟨t, m₂, e₂, h₂, hunpack, hright, -, rfl⟩
    · rw [mul_zero, hunpack]
      exact .zero (s * t)
    · have hvalue : (m₁ * 2 ^ e₁ * (m₂ * 2 ^ e₂) : ℚ) = (m₁ * m₂ : ℕ) * 2 ^ (e₁ + e₂) := by
        rw [zpow_add₀ two_ne_zero]
        push_cast
        ring
      have hround := roundWithAccuracy_exact (s * t) (Nat.mul_pos h₁ h₂) (place_product h₁ h₂ hleft hright)
      have hproduct : UnpackedFloat.mul Format.binary64 (.finite s m₁ e₁ h₁) (.finite t m₂ e₂ h₂) =
          rounded (s * t) (m₁ * 2 ^ e₁ * (m₂ * 2 ^ e₂)) := by
        rw [hvalue]
        exact hround
      rw [hunpack, hproduct, ← signed_mul]
      exact .nonzero (s * t) (by positivity)

theorem place_quotient {m₁ m₂ : ℕ} (h₁ : 0 < m₁) (h₂ : 0 < m₂) (e₁ e₂ : ℤ) :
    Format.binary64.targetExponent (totalExponent m₁ e₁ - totalExponent m₂ e₂) ≤
      place (m₁ * 2 ^ e₁ / (m₂ * 2 ^ e₂)) := by
  have hlow : (2 : ℚ) ^ (m₁.log2 + e₁) ≤ m₁ * 2 ^ e₁ := by
    rw [zpow_le_iff_le_log (by positivity), log_natCast_mul_zpow h₁]
  have hhigh : (m₂ * 2 ^ e₂ : ℚ) ≤ 2 ^ (m₂.log2 + e₂ + 1) := by
    refine ((lt_zpow_iff_log_lt (by positivity)).mpr ?_).le
    rw [log_natCast_mul_zpow h₂]
    omega
  have hpow : (2 : ℚ) ^ (m₁.log2 + e₁ - (m₂.log2 + e₂ + 1)) ≤ m₁ * 2 ^ e₁ / (m₂ * 2 ^ e₂) := by
    rw [zpow_sub₀ two_ne_zero]
    exact div_le_div₀ (by positivity) hlow (by positivity) hhigh
  have hlog := (zpow_le_iff_le_log (by positivity)).mp hpow
  rw [place_eq, targetExponent_eq, totalExponent, totalExponent]
  omega

/-- A quotient is divided out to a place at the last one or below, with what is left over noted. -/
theorem div_eq_rounded (s t : Sign) {m₁ m₂ : ℕ} (h₁ : 0 < m₁) (h₂ : 0 < m₂) (e₁ e₂ : ℤ) :
    UnpackedFloat.div Format.binary64 (.finite s m₁ e₁ h₁) (.finite t m₂ e₂ h₂) =
      rounded (s / t) (m₁ * 2 ^ e₁ / (m₂ * 2 ^ e₂)) := by
  have hplace := place_quotient h₁ h₂ e₁ e₂
  generalize htarget : min (e₁ - e₂)
    (Format.binary64.targetExponent (totalExponent m₁ e₁ - totalExponent m₂ e₂)) = target
  generalize hshift : (e₁ - e₂ - target).toNat = shift
  have hsplit : e₁ - e₂ = target + shift := by omega
  have hvalue : (m₁ * 2 ^ e₁ / (m₂ * 2 ^ e₂) / 2 ^ target : ℚ) = (m₁ <<< shift : ℕ) / m₂ := by
    have hscale : (2 : ℚ) ^ e₁ / 2 ^ e₂ = 2 ^ target * 2 ^ shift := by
      rw [← zpow_sub₀ two_ne_zero, hsplit, zpow_add₀ two_ne_zero, zpow_natCast]
    rw [mul_div_mul_comm, hscale, Nat.shiftLeft_eq, Nat.cast_mul, Nat.cast_pow, Nat.cast_ofNat]
    field_simp
  have hexact : ExtendedMantissa.ofMantissaAndAccuracy (m₁ <<< shift / m₂)
      (accuracyOfFraction (m₁ <<< shift % m₂) m₂) = extended (m₁ * 2 ^ e₁ / (m₂ * 2 ^ e₂) / 2 ^ target) := by
    rw [hvalue, extended_div _ h₂]
  have hround := roundWithAccuracy_eq_rounded (s / t) (x := m₁ * 2 ^ e₁ / (m₂ * 2 ^ e₂)) (by positivity) hexact
    (by omega)
  simp only [UnpackedFloat.div, divCore, htarget, hshift]
  exact hround

theorem roundsTo_div {v w : Float} {x y : ℚ} (hv : value? v = some x) (hw : value? w = some y) (hy : y ≠ 0) :
    RoundsTo (x / y) (v / w) := by
  show RoundsTo (x / y) (.ofModel (pack (v.toModel.unpack.div Format.binary64 w.toModel.unpack)))
  rcases unpack_cases hw with ⟨t, -, rfl⟩ | ⟨t, m₂, e₂, h₂, hunpack, -, -, rfl⟩
  · exact absurd rfl hy
  · rw [hunpack]
    rcases unpack_cases hv with ⟨s, hunpack, rfl⟩ | ⟨s, m₁, e₁, h₁, hunpack, -, -, rfl⟩
    · rw [zero_div, hunpack]
      exact .zero (s / t)
    · rw [hunpack, div_eq_rounded, ← signed_div]
      exact .nonzero (s / t) (by positivity)

/-! ### Sums -/

theorem add_eq_rounded {m₁ m₂ : ℕ} (h₁ : 0 < m₁) (h₂ : 0 < m₂) (e₁ e₂ : ℤ) :
    UnpackedFloat.add Format.binary64 (.finite .positive m₁ e₁ h₁) (.finite .positive m₂ e₂ h₂) =
      rounded .positive (m₁ * 2 ^ e₁ + m₂ * 2 ^ e₂) := by
  have hlower {m : ℕ} {e : ℤ} (he : min e₁ e₂ ≤ e) :
      ((decreaseExponent m e (min e₁ e₂)).1 * 2 ^ min e₁ e₂ : ℚ) = m * 2 ^ e := by
    have hexponent : (decreaseExponent m e (min e₁ e₂)).2 = min e₁ e₂ := by
      simp only [decreaseExponent]
      omega
    have hvalue := decreaseExponent_value m e (min e₁ e₂)
    rwa [hexponent] at hvalue
  rw [← hlower (min_le_left e₁ e₂), ← hlower (min_le_right e₁ e₂), ← add_mul]
  have hpos := decreaseExponent_pos h₁ e₁ (min e₁ e₂)
  simp only [UnpackedFloat.add, Sign.apply]
  generalize (decreaseExponent m₁ e₁ (min e₁ e₂)).1 = a at hpos ⊢
  generalize (decreaseExponent m₂ e₂ (min e₁ e₂)).1 = b
  have hcompare : compare (a + b : ℤ) 0 = .gt := Int.compare_eq_gt.mpr (by omega)
  have hround := round_eq_rounded .positive (Nat.add_pos_left hpos b) (min e₁ e₂)
  rw [Nat.cast_add] at hround
  rw [UnpackedFloat.normalize, hcompare]
  exact hround

theorem add_eq_of_pos {v w : Float} {x y : ℚ} (hx : 0 < x) (hy : 0 < y) (hv : value? v = some x)
    (hw : value? w = some y) : v + w = .ofModel (pack (rounded .positive (x + y))) := by
  obtain ⟨m₁, e₁, h₁, hleft, -, rfl⟩ := unpack_cases_of_pos hx hv
  obtain ⟨m₂, e₂, h₂, hright, -, rfl⟩ := unpack_cases_of_pos hy hw
  show Float.ofModel (pack (v.toModel.unpack.add Format.binary64 w.toModel.unpack)) = _
  rw [hleft, hright, add_eq_rounded]

/-- Among whole numbers of 53 bits one is added exactly. -/
theorem toFloat_add_one {n : ℕ} (hn : n + 1 < 2 ^ 53) : n.toUInt64.toFloat + 1 = (n + 1).toUInt64.toFloat := by
  have hsum : value? (n + 1).toUInt64.toFloat = some (n + 1 : ℚ) := by exact_mod_cast value?_natCast hn
  have hone : value? 1 = some 1 := by decide +kernel
  rcases Nat.eq_zero_or_pos n with rfl | hpos
  · decide +kernel
  · have hvalue := value?_natCast (Nat.lt_of_succ_lt hn)
    rw [add_eq_of_pos (Nat.cast_pos.mpr hpos) one_pos hvalue hone, ← unpack_of_value? (by positivity) hsum,
      ofModel_pack_unpack]

end Gauge.Signal
