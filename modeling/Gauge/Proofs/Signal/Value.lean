import Gauge.Proofs.Signal.Missing
import Gauge.Proofs.Signal.Rounding

/-! # The numbers that signals stand for

A finite signal stands for a rational number, and the unpacked form of a double is the only canonical one of
its number. The words of the bitwise operators are the signals that stand for whole numbers in range.
-/
namespace Gauge.Signal

open Float.Model Float.Model.UnpackedFloat

/-! ### Packing -/

def IsPacked : UnpackedFloat → Prop
  | .finite _ m e _ => IsCanonical m e ∧ e ≤ 971
  | _ => True

theorem toNat_leading_one (mantissa : BitVec 52) : (1#1 ++ mantissa).toNat = 2 ^ 52 + mantissa.toNat := by
  rw [BitVec.toNat_append, ← Nat.shiftLeft_add_eq_or_of_lt mantissa.isLt, Nat.shiftLeft_eq]
  rfl

theorem isPacked_unpack (v : Float) : IsPacked v.toModel.unpack := by
  unfold Float.Model.unpack
  fun_cases UnpackedFloat.unpack with
  | case1 | case2 | case3 => trivial
  | case4 mantissa exponent shifted sign bits hones hzero hmantissa =>
    have hshifted : shifted = -1075 := by
      simp only [shifted, exponent, hzero]
      rfl
    have hlt : mantissa.toNat < 2 ^ 52 := mantissa.isLt
    refine ⟨⟨?_, ?_, .inr ?_⟩, ?_⟩ <;> omega
  | case5 mantissa exponent shifted sign bits hones hzero =>
    have hshifted : shifted = exponent.toNat - 1075 := rfl
    have hpos : exponent.toNat ≠ 0 := fun h => hzero (BitVec.eq_of_toNat_eq h)
    have hmax : exponent.toNat ≠ 2047 := fun h => hones (BitVec.eq_of_toNat_eq h)
    have hlt : mantissa.toNat < 2 ^ 52 := mantissa.isLt
    have hexponent : exponent.toNat < 2048 := exponent.isLt
    have hmantissa := toNat_leading_one mantissa
    refine ⟨⟨?_, ?_, .inl ?_⟩, ?_⟩ <;> omega

theorem pack_finite (sign : Sign) {m : ℕ} {e : ℤ} (hm : 0 < m) (he : e ≤ 971) :
    UnpackedFloat.pack Format.binary64 (.finite sign m e hm) = packComponents Format.binary64 sign
      (if m.log2 = 52 then BitVec.ofNat 11 (e + 1075).toNat else 0#11) (BitVec.ofNat 52 m) := by
  have hbiased : (e + Format.binary64.exponentBias + Format.binary64.mantissaBitsWithoutImplicit).toNat =
      (e + 1075).toNat := by
    rw [add_assoc]
    rfl
  have hbits : (m.log2 + 1 = Format.binary64.mantissaBits) ↔ m.log2 = 52 := by
    have hmantissa : Format.binary64.mantissaBits = 53 := rfl
    omega
  rw [UnpackedFloat.pack]
  simp only [hbiased, hbits]
  rw [if_neg (by omega)]
  by_cases hfull : m.log2 = 52
  · rw [if_pos hfull, if_pos hfull]
  · rw [if_neg hfull, if_neg hfull]

theorem unpack_normal (sign : Sign) {m : ℕ} {e : ℤ} (hm : 0 < m) (hlow : 2 ^ 52 ≤ m) (hhigh : m < 2 ^ 53)
    (hmin : -1074 ≤ e) (hmax : e ≤ 971) :
    UnpackedFloat.unpack Format.binary64 (packComponents Format.binary64 sign (BitVec.ofNat 11 (e + 1075).toNat)
      (BitVec.ofNat 52 m)) = .finite sign m e hm := by
  have hexponent : (BitVec.ofNat 11 (e + 1075).toNat).toNat = (e + 1075).toNat := Nat.mod_eq_of_lt (by omega)
  have hmantissa : (1#1 ++ BitVec.ofNat 52 m).toNat = m := by
    rw [toNat_leading_one, BitVec.toNat_ofNat]
    omega
  have hones : BitVec.ofNat 11 (e + 1075).toNat ≠ -1#11 := by
    intro hequal
    have hmaximal : (e + 1075).toNat = 2047 := hexponent.symm.trans (congrArg BitVec.toNat hequal)
    omega
  have hzero : BitVec.ofNat 11 (e + 1075).toNat ≠ 0#11 := by
    intro hequal
    have hnone : (e + 1075).toNat = 0 := hexponent.symm.trans (congrArg BitVec.toNat hequal)
    omega
  rw [UnpackedFloat.unpack]
  simp only [unpackMantissa_packComponents, unpackExponent_packComponents, unpackSign_packComponents,
    Sign.ofBitVec_toBitVec]
  rw [if_neg hones, if_neg hzero]
  simp only [UnpackedFloat.finite.injEq, true_and]
  refine ⟨hmantissa, ?_⟩
  rw [hexponent]
  show ((e + 1075).toNat : ℤ) - 1075 = e
  omega

theorem unpack_subnormal (sign : Sign) {m : ℕ} (hm : 0 < m) (hhigh : m < 2 ^ 52) :
    UnpackedFloat.unpack Format.binary64 (packComponents Format.binary64 sign 0#11 (BitVec.ofNat 52 m)) =
      .finite sign m (-1074) hm := by
  have hmantissa : (BitVec.ofNat 52 m).toNat = m := Nat.mod_eq_of_lt hhigh
  have hzero : BitVec.ofNat 52 m ≠ 0#52 := by
    intro hequal
    exact hm.ne' (hmantissa.symm.trans (congrArg BitVec.toNat hequal))
  rw [UnpackedFloat.unpack]
  simp only [unpackMantissa_packComponents, unpackExponent_packComponents, unpackSign_packComponents,
    Sign.ofBitVec_toBitVec]
  rw [if_neg (by decide), if_pos trivial, dif_neg hzero]
  simp only [UnpackedFloat.finite.injEq, true_and]
  exact ⟨hmantissa, rfl⟩

theorem unpack_pack {u : UnpackedFloat} (h : IsPacked u) : (pack u).unpack = u := by
  cases u with
  | notANumber => rfl
  | infinity sign | zero sign => cases sign <;> rfl
  | finite sign m e hm =>
    obtain ⟨hcanonical, hmax⟩ := h
    have hlog : m.log2 < 53 := (Nat.log2_lt hm.ne').mpr hcanonical.lt
    show UnpackedFloat.unpack _ (UnpackedFloat.pack Format.binary64 (.finite sign m e hm)) = _
    rw [pack_finite sign hm hmax]
    by_cases hfull : m.log2 = 52
    · rw [if_pos hfull]
      have hlow : 2 ^ 52 ≤ m := (Nat.le_log2 hm.ne').mp hfull.ge
      exact unpack_normal sign hm hlow hcanonical.lt hcanonical.ge hmax
    · rw [if_neg hfull]
      have hsmall : m < 2 ^ 52 := (Nat.log2_lt hm.ne').mp (by omega)
      obtain rfl : e = -1074 := hcanonical.full.resolve_left hsmall.not_ge
      exact unpack_subnormal sign hm hsmall

theorem ofModel_pack_unpack (v : Float) : Float.ofModel (pack v.toModel.unpack) = v := Float.ofBits_toBits v

theorem unpack_injective {v w : Float} (h : v.toModel.unpack = w.toModel.unpack) : v = w := by
  rw [← ofModel_pack_unpack v, h, ofModel_pack_unpack]

theorem unpack_neg (v : Float) : (-v).toModel.unpack = v.toModel.unpack.neg := by
  have hpacked : IsPacked v.toModel.unpack.neg := by
    have h := isPacked_unpack v
    cases hunpack : v.toModel.unpack with
    | finite sign m e hm =>
      rw [hunpack] at h
      exact h
    | notANumber | infinity | zero => trivial
  exact unpack_pack hpacked

theorem unpack_abs (v : Float) : v.abs.toModel.unpack = v.toModel.unpack.abs := by
  have hpacked : IsPacked v.toModel.unpack.abs := by
    have h := isPacked_unpack v
    cases hunpack : v.toModel.unpack with
    | finite sign m e hm =>
      rw [hunpack] at h
      exact h
    | notANumber | infinity | zero => trivial
  exact unpack_pack hpacked

/-! ### The sign bit -/

/-- The sign of a signal; a missing one has none and counts as positive. -/
def signOf : UnpackedFloat → Sign
  | .notANumber => .positive
  | .infinity sign | .zero sign | .finite sign _ _ _ => sign

theorem unpackSign_pack (u : UnpackedFloat) :
    unpackSign (UnpackedFloat.pack Format.binary64 u) = (signOf u).toBitVec := by
  cases u with
  | notANumber | infinity | zero => exact unpackSign_packComponents ..
  | finite sign m e hm =>
    rw [UnpackedFloat.pack]
    split_ifs <;> exact unpackSign_packComponents ..

theorem isNegative_ofModel_pack (u : UnpackedFloat) :
    isNegative (.ofModel (pack u)) = true ↔ signOf u = .negative := by
  have hsign : signOf u = .negative ↔ (signOf u).toBitVec.toNat = 1 := by
    cases signOf u with
    | negative => exact iff_of_true rfl rfl
    | positive => exact iff_of_false Sign.noConfusion zero_ne_one
  have hbits : (unpackSign (UnpackedFloat.pack Format.binary64 u)).toNat =
      (UnpackedFloat.pack Format.binary64 u).toNat / 2 ^ 63 := by
    have hlt : (UnpackedFloat.pack Format.binary64 u).toNat < 2 ^ 64 := BitVec.isLt _
    rw [unpackSign_def, BitVec.extractLsb'_toNat, Nat.shiftRight_eq_div_pow]
    show _ / 2 ^ 63 % 2 = _
    omega
  have hlt : (UnpackedFloat.pack Format.binary64 u).toNat < 2 ^ 64 := BitVec.isLt _
  rw [hsign, ← unpackSign_pack, hbits, isNegative, decide_eq_true_iff, UInt64.le_iff_toNat_le]
  show 2 ^ 63 ≤ (UnpackedFloat.pack Format.binary64 u).toNat ↔ _
  omega

theorem isNegative_iff (v : Float) : isNegative v = true ↔ signOf v.toModel.unpack = .negative := by
  rw [← isNegative_ofModel_pack, ofModel_pack_unpack]

/-! ### Numbers -/

def value? (v : Float) : Option ℚ :=
  match v.toModel.unpack with
  | .zero _ => some 0
  | .finite sign m e _ => some (sign.apply m * 2 ^ e)
  | _ => none

theorem value?_of_zero {v : Float} {sign : Sign} (h : v.toModel.unpack = .zero sign) : value? v = some 0 := by
  rw [value?, h]

theorem value?_of_finite {v : Float} {sign : Sign} {m : ℕ} {e : ℤ} {hm : 0 < m}
    (h : v.toModel.unpack = .finite sign m e hm) : value? v = some (sign.apply m * 2 ^ e : ℚ) := by
  rw [value?, h]

theorem isSome_value? (v : Float) : (value? v).isSome = v.isFinite := by
  rw [value?, Float.isFinite, Float.Model.isFinite]
  cases v.toModel.unpack <;> rfl

theorem isFinite_of_value? {v : Float} {x : ℚ} (h : value? v = some x) : v.isFinite = true := by
  rw [← isSome_value?, h, Option.isSome_some]

theorem exists_value?_of_isFinite {v : Float} (h : v.isFinite = true) : ∃ x, value? v = some x := by
  rw [← isSome_value?] at h
  exact Option.isSome_iff_exists.mp h

theorem not_isNaN_of_value? {v : Float} {x : ℚ} (h : value? v = some x) : v.isNaN = false := by
  cases hnan : v.isNaN with
  | false => rfl
  | true =>
    rw [value?, isNaN_iff.mp hnan] at h
    cases h

theorem apply_neg (sign : Sign) (n : ℤ) : (-sign).apply n = -sign.apply n := by
  cases sign with
  | negative => exact (neg_neg n).symm
  | positive => rfl

theorem value?_neg (v : Float) : value? (-v) = (value? v).map (- ·) := by
  rw [value?, value?, unpack_neg]
  cases v.toModel.unpack with
  | notANumber | infinity => rfl
  | zero sign => simp [UnpackedFloat.neg]
  | finite sign m e hm => simp [UnpackedFloat.neg, apply_neg]

theorem value?_abs (v : Float) : value? v.abs = (value? v).map (|·|) := by
  rw [value?, value?, unpack_abs]
  cases v.toModel.unpack with
  | notANumber | infinity => rfl
  | zero sign => simp [UnpackedFloat.abs]
  | finite sign m e hm => cases sign <;> simp [UnpackedFloat.abs, Sign.apply, abs_mul]

def signed : Sign → ℚ → ℚ
  | .positive, x => x
  | .negative, x => -x

theorem apply_mul (sign : Sign) (m : ℕ) (x : ℚ) : (sign.apply m : ℚ) * x = signed sign (m * x) := by
  cases sign <;> simp [Sign.apply, signed]

theorem abs_signed (sign : Sign) {x : ℚ} (hx : 0 ≤ x) : |signed sign x| = x := by
  cases sign <;> simp [signed, abs_of_nonneg hx]

/-- A finite double is a zero or a signed canonical mantissa. -/
theorem unpack_cases {v : Float} {x : ℚ} (h : value? v = some x) :
    (∃ sign, v.toModel.unpack = .zero sign ∧ x = 0) ∨
      ∃ sign m e, ∃ hm : 0 < m, v.toModel.unpack = .finite sign m e hm ∧ IsCanonical m e ∧ e ≤ 971 ∧
        x = signed sign (m * 2 ^ e) := by
  have hpacked := isPacked_unpack v
  rw [value?] at h
  cases hunpack : v.toModel.unpack with
  | notANumber | infinity =>
    rw [hunpack] at h
    cases h
  | zero sign =>
    rw [hunpack] at h
    exact .inl ⟨sign, rfl, (Option.some.inj h).symm⟩
  | finite sign m e hm =>
    rw [hunpack] at h hpacked
    refine .inr ⟨sign, m, e, hm, rfl, hpacked.1, hpacked.2, ?_⟩
    rw [← apply_mul]
    exact (Option.some.inj h).symm

theorem unpack_cases_of_pos {v : Float} {x : ℚ} (hx : 0 < x) (h : value? v = some x) :
    ∃ m e, ∃ hm : 0 < m, v.toModel.unpack = .finite .positive m e hm ∧ IsCanonical m e ∧ x = m * 2 ^ e := by
  rcases unpack_cases h with ⟨-, -, rfl⟩ | ⟨sign, m, e, hm, hunpack, hcanonical, -, hvalue⟩
  · exact absurd hx (lt_irrefl 0)
  · cases sign with
    | positive => exact ⟨m, e, hm, hunpack, hcanonical, hvalue⟩
    | negative =>
      have hpos : (0 : ℚ) < m * 2 ^ e := by positivity
      have hneg : x = -(m * 2 ^ e) := hvalue
      linarith

/-- A positive double is its number rounded. -/
theorem unpack_of_value? {v : Float} {x : ℚ} (hx : 0 < x) (h : value? v = some x) :
    v.toModel.unpack = rounded .positive x := by
  obtain ⟨m, e, hm, hunpack, hcanonical, rfl⟩ := unpack_cases_of_pos hx h
  rw [hunpack, rounded_canonical .positive hm hcanonical]

theorem eq_of_value? {v w : Float} {x : ℚ} (hx : 0 < x) (hv : value? v = some x) (hw : value? w = some x) :
    v = w :=
  unpack_injective ((unpack_of_value? hx hv).trans (unpack_of_value? hx hw).symm)

theorem value?_of_beq {v w : Float} {x : ℚ} (hw : value? w = some x) (h : (v == w) = true) : value? v = some x := by
  have hzeros : value? 0 = value? (-0) := by decide +kernel
  rcases (Float.beq_iff_ne_nan_and_eq.mp h).2.2 with rfl | ⟨rfl, rfl⟩ | ⟨rfl, rfl⟩
  · exact hw
  · exact hzeros.trans hw
  · exact hzeros.symm.trans hw

end Gauge.Signal
