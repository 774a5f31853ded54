import Gauge.Proofs.Signal.Value

/-! # Words among the signals

A signal is a word exactly if it stands for a whole number in range, and the signal of a word stands for its
number again.
-/
namespace Gauge.Signal

open Float.Model Float.Model.UnpackedFloat

/-! ### Whole numbers -/

theorem isCanonical_shiftLeft {n : ℕ} (hpos : 0 < n) (hlt : n < 2 ^ 53) :
    IsCanonical (n <<< (52 - n.log2)) (-(52 - n.log2 : ℕ)) := by
  have hlog : n.log2 < 53 := (Nat.log2_lt hpos.ne').mpr hlt
  have hlow : 2 ^ n.log2 ≤ n := (Nat.le_log2 hpos.ne').mp le_rfl
  have hhigh : n < 2 ^ (n.log2 + 1) := (Nat.log2_lt hpos.ne').mp (Nat.lt_succ_self _)
  have hsplit : 2 ^ n.log2 * 2 ^ (52 - n.log2) = 2 ^ 52 := by
    rw [← pow_add]
    congr 1
    omega
  have hpow : 0 < 2 ^ (52 - n.log2) := by positivity
  rw [Nat.shiftLeft_eq]
  refine ⟨?_, by omega, .inl ?_⟩
  · calc n * 2 ^ (52 - n.log2) < 2 ^ (n.log2 + 1) * 2 ^ (52 - n.log2) := Nat.mul_lt_mul_of_pos_right hhigh hpow
      _ = 2 ^ 53 := by rw [pow_succ, mul_right_comm, hsplit]; rfl
  · calc 2 ^ 52 = 2 ^ n.log2 * 2 ^ (52 - n.log2) := hsplit.symm
      _ ≤ n * 2 ^ (52 - n.log2) := Nat.mul_le_mul_right _ hlow

theorem value?_natCast {n : ℕ} (hlt : n < 2 ^ 53) : value? n.toUInt64.toFloat = some (n : ℚ) := by
  have hsize : n.toUInt64.toNat = n := Nat.mod_eq_of_lt (by omega)
  have hunpack : n.toUInt64.toFloat.toModel.unpack = (pack (.ofNat Format.binary64 n)).unpack := by
    show (pack (.ofNat Format.binary64 n.toUInt64.toNat)).unpack = _
    rw [hsize]
  by_cases hzero : n = 0
  · subst hzero
    exact value?_of_zero hunpack
  · have hpos : 0 < n := Nat.pos_of_ne_zero hzero
    have hcanonical := isCanonical_shiftLeft hpos hlt
    have hshifted : 0 < n <<< (52 - n.log2) := by
      rw [Nat.shiftLeft_eq]
      positivity
    have hvalue : (n <<< (52 - n.log2) : ℕ) * 2 ^ (-(52 - n.log2 : ℕ) : ℤ) = (n : ℚ) := by
      rw [Nat.shiftLeft_eq, Nat.cast_mul, Nat.cast_pow, Nat.cast_ofNat, mul_assoc, ← zpow_natCast,
        ← zpow_add₀ two_ne_zero, add_neg_cancel, zpow_zero, mul_one]
    have hround : UnpackedFloat.ofNat Format.binary64 n =
        .finite .positive (n <<< (52 - n.log2)) (-(52 - n.log2 : ℕ)) hshifted := by
      have hnormalize : UnpackedFloat.ofNat Format.binary64 n =
          UnpackedFloat.round Format.binary64 .positive n 0 := by
        have hcompare : compare (n : ℤ) 0 = .gt := Int.compare_eq_gt.mpr (by omega)
        simp only [UnpackedFloat.ofNat, UnpackedFloat.ofInt, UnpackedFloat.normalize, hcompare, Int.toNat_natCast]
      rw [hnormalize, round_eq_rounded .positive hpos, zpow_zero, mul_one, ← hvalue]
      exact rounded_canonical .positive hshifted hcanonical
    have hpacked : IsPacked (.finite .positive _ _ hshifted) := ⟨hcanonical, by omega⟩
    rw [hround, unpack_pack hpacked] at hunpack
    rw [value?_of_finite hunpack]
    exact congrArg some hvalue

theorem toNat_toUInt64 {v : Float} {x : ℚ} (hx : 0 ≤ x) (h : value? v = some x) :
    v.toUInt64.toNat = min ⌊x⌋₊ (2 ^ 64 - 1) := by
  have hclamp : v.toUInt64.toNat = min (v.toModel.unpack.toInt 0 (UInt64.size - 1)).toNat (2 ^ 64 - 1) := by
    show (UInt64.ofNatClamp (v.toModel.unpack.toInt 0 (UInt64.size - 1)).toNat).toNat = _
    generalize (v.toModel.unpack.toInt 0 (UInt64.size - 1)).toNat = n
    have hsize : UInt64.size = 2 ^ 64 := rfl
    unfold UInt64.ofNatClamp
    split
    · rw [UInt64.toNat_ofNatLT]
      omega
    · rw [UInt64.toNat_ofNatLT]
      omega
  rw [hclamp]
  congr 1
  rcases unpack_cases h with ⟨sign, hunpack, rfl⟩ | ⟨sign, m, e, hm, hunpack, -, -, rfl⟩
  · rw [hunpack, Nat.floor_zero]
    rfl
  · have hpos : (0 : ℚ) < m * 2 ^ e := by positivity
    rw [hunpack]
    cases sign with
    | positive =>
      show (roundToInt .positive m e).toNat = ⌊(m * 2 ^ e : ℚ)⌋₊
      rw [roundToInt_positive hm, Int.toNat_natCast]
    | negative => exact absurd hx (not_le.mpr (neg_neg_of_pos hpos))

/-! ### Comparison and sign -/

theorem unpack_of_value?_eq_zero {v : Float} (h : value? v = some 0) :
    ∃ sign, v.toModel.unpack = .zero sign := by
  rcases unpack_cases h with ⟨sign, hunpack, -⟩ | ⟨sign, m, e, hm, -, -, -, hvalue⟩
  · exact ⟨sign, hunpack⟩
  · have hpos : (0 : ℚ) < m * 2 ^ e := by positivity
    have hzero := abs_signed sign hpos.le
    rw [← hvalue, abs_zero] at hzero
    exact absurd hzero hpos.ne

theorem beq_iff_of_value? {v w : Float} {x y : ℚ} (hx : 0 ≤ x) (hv : value? v = some x) (hw : value? w = some y) :
    (v == w) = true ↔ x = y := by
  constructor
  · intro hequal
    exact Option.some.inj (hv.symm.trans (value?_of_beq hw hequal))
  · rintro rfl
    rcases hx.lt_or_eq with hpos | rfl
    · obtain rfl := eq_of_value? hpos hv hw
      have hpresent := not_isNaN_of_value? hv
      rw [Float.isNaN_eq_decide_eq_nan, decide_eq_false_iff_not] at hpresent
      exact Float.beq_self_iff.mpr hpresent
    · obtain ⟨sign, hv⟩ := unpack_of_value?_eq_zero hv
      obtain ⟨sign', hw⟩ := unpack_of_value?_eq_zero hw
      show (v.toModel.unpack.compare w.toModel.unpack == some .eq) = true
      rw [hv, hw]
      rfl

theorem isNegative_iff_of_value? {v : Float} {x : ℚ} (hx : x ≠ 0) (h : value? v = some x) :
    isNegative v = true ↔ x < 0 := by
  rw [isNegative_iff]
  rcases unpack_cases h with ⟨sign, -, rfl⟩ | ⟨sign, m, e, hm, hunpack, -, -, rfl⟩
  · exact absurd rfl hx
  · have hpos : (0 : ℚ) < m * 2 ^ e := by positivity
    rw [hunpack]
    cases sign with
    | positive => exact iff_of_false Sign.noConfusion (not_lt.mpr hpos.le)
    | negative => exact iff_of_true rfl (neg_neg_of_pos hpos)

/-! ### Words -/

theorem toWord?_of_value?_eq_none {v : Float} (h : value? v = none) : toWord? v = none := by
  have hunpack : v = Float.ofModel (pack v.toModel.unpack) := (ofModel_pack_unpack v).symm
  rw [value?] at h
  cases hcase : v.toModel.unpack with
  | notANumber => exact toWord?_eq_none (isNaN_iff.mpr hcase)
  | infinity sign =>
    rw [hunpack, hcase]
    cases sign <;> decide +kernel
  | zero sign =>
    rw [hcase] at h
    cases h
  | finite sign m e hm =>
    rw [hcase] at h
    cases h

section

variable {v : Float} {x : ℚ} (h : value? v = some x)

include h

/-- The magnitude of a signal compares equal to a number below 2⁵³ if it is that number. -/
theorem beq_abs_iff {size : UInt64} (hlt : size.toNat < 2 ^ 53) :
    (size.toFloat == v.abs) = true ↔ (size.toNat : ℚ) = |x| := by
  have hsize := value?_natCast hlt
  have habs : value? v.abs = some |x| := by rw [value?_abs, h, Option.map_some]
  rw [Nat.toUInt64_eq, UInt64.ofNat_toNat] at hsize
  exact beq_iff_of_value? (Nat.cast_nonneg _) hsize habs

theorem signed_magnitude {n : ℕ} (hn : (n : ℚ) = |x|) :
    ((if isNegative v then -(n : ℤ) else n : ℤ) : ℚ) = x := by
  by_cases hx : x = 0
  · subst hx
    rw [abs_zero, Nat.cast_eq_zero] at hn
    simp [hn]
  · by_cases hneg : x < 0
    · rw [if_pos ((isNegative_iff_of_value? hx h).mpr hneg), Int.cast_neg, Int.cast_natCast, hn, abs_of_neg hneg,
        neg_neg]
    · have hpositive : ¬ isNegative v = true := fun hsign => hneg ((isNegative_iff_of_value? hx h).mp hsign)
      rw [if_neg hpositive, Int.cast_natCast, hn, abs_of_nonneg (not_lt.mp hneg)]

theorem value?_of_toWord? {w : Int32} (hw : toWord? v = some w) : x = w.toInt := by
  unfold toWord? at hw
  simp only [UInt64.le_iff_toNat_le, ← UInt64.toNat_inj] at hw
  generalize v.abs.toUInt64 = size at hw
  split at hw
  case isFalse => cases hw
  case isTrue hequal =>
    split at hw
    case isTrue hle =>
      have hrange : size.toNat ≤ 2 ^ 31 - 1 := hle
      have hsigned := signed_magnitude h ((beq_abs_iff h (by omega)).mp hequal)
      obtain rfl := Option.some.inj hw
      rw [Int32.toInt_ofInt_of_le (by split_ifs <;> omega) (by split_ifs <;> omega)]
      exact hsigned.symm
    case isFalse =>
      split at hw
      case isFalse => cases hw
      case isTrue hmin =>
        rw [Bool.and_eq_true, decide_eq_true_iff] at hmin
        have hrange : size.toNat = 2 ^ 31 := hmin.1
        have hsigned := signed_magnitude h ((beq_abs_iff h (by omega)).mp hequal)
        obtain rfl := Option.some.inj hw
        rw [if_pos hmin.2, hrange] at hsigned
        exact hsigned.symm

end

theorem toWord?_of_value? {v : Float} {w : Int32} (h : value? v = some (w.toInt : ℚ)) : toWord? v = some w := by
  have hmin := w.le_toInt
  have hmax := w.toInt_lt
  have habs : value? v.abs = some (w.toInt.natAbs : ℚ) := by
    rw [value?_abs, h, Option.map_some, Nat.cast_natAbs, Int.cast_abs]
  have hsize : v.abs.toUInt64.toNat = w.toInt.natAbs := by
    rw [toNat_toUInt64 (Nat.cast_nonneg _) habs, Nat.floor_natCast]
    omega
  have hmagnitude : (v.abs.toUInt64.toNat : ℚ) = |(w.toInt : ℚ)| := by
    rw [hsize, Nat.cast_natAbs, Int.cast_abs]
  have hequal := (beq_abs_iff h (by omega)).mpr hmagnitude
  have hsigned : (if isNegative v then -(v.abs.toUInt64.toNat : ℤ) else v.abs.toUInt64.toNat : ℤ) = w.toInt := by
    exact_mod_cast signed_magnitude h hmagnitude
  simp only [toWord?, UInt64.le_iff_toNat_le, ← UInt64.toNat_inj]
  rw [if_pos hequal, hsigned, Int32.ofInt_toInt]
  have hlargest : UInt64.toNat 0x7FFFFFFF = 2 ^ 31 - 1 := rfl
  by_cases hle : v.abs.toUInt64.toNat ≤ UInt64.toNat 0x7FFFFFFF
  · exact if_pos hle
  · have hvalue : w.toInt = -2 ^ 31 := by omega
    have hnegative : isNegative v = true := by
      refine (isNegative_iff_of_value? ?_ h).mpr ?_ <;> rw [hvalue] <;> norm_num
    have htwo : v.abs.toUInt64.toNat = 2 ^ 31 := by omega
    rw [if_neg hle, if_pos (by rw [hnegative, htwo]; rfl)]
    exact congrArg some (Int32.toInt_inj.mp hvalue.symm)

/-- The signals that are words are those of their numbers. -/
theorem toWord?_eq_some_iff {v : Float} {w : Int32} : toWord? v = some w ↔ value? v = some (w.toInt : ℚ) := by
  refine ⟨fun hw => ?_, toWord?_of_value?⟩
  cases hvalue : value? v with
  | none =>
    rw [toWord?_of_value?_eq_none hvalue] at hw
    cases hw
  | some x => rw [value?_of_toWord? hvalue hw]

theorem value?_ofWhole {n : ℤ} (hlt : n.natAbs < 2 ^ 53) : value? (ofWhole n) = some (n : ℚ) := by
  cases n with
  | ofNat n => exact value?_natCast hlt
  | negSucc n =>
    have hmagnitude : value? (n + 1).toUInt64.toFloat = some ((n + 1 : ℕ) : ℚ) := value?_natCast hlt
    rw [ofWhole, value?_neg, hmagnitude, Option.map_some, Int.cast_negSucc]

theorem value?_ofWord (w : Int32) : value? (ofWord w) = some (w.toInt : ℚ) := by
  have hmin := w.le_toInt
  have hmax := w.toInt_lt
  exact value?_ofWhole (by omega)

theorem toWord?_ofWord (w : Int32) : toWord? (ofWord w) = some w := toWord?_of_value? (value?_ofWord w)

end Gauge.Signal
