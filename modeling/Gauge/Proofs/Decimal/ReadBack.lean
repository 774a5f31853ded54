import Gauge.Decimal.Shortest
import Gauge.Proofs.Decimal.Nearest

/-! # Decimals read back

The text of a finite signal without sign is a numeral of digits and at most one point, and reading it gives
the signal again. Neither moving zeros into the scale nor writing a decimal without exponent changes its number.
-/
namespace Gauge.Decimal

open Float.Model
open Gauge.Signal

def Scaled.value (d : Scaled) : ℚ := d.digits * 10 ^ d.scale

theorem toFloat_congr {d d' : Scaled} (h : d.value = d'.value) : d.toFloat = d'.toFloat := nearest_congr h

/-! ### Digits -/

theorem digitsValue_append (start : Nat) (cs ds : List Char) :
    digitsValue start (cs ++ ds) = digitsValue (digitsValue start cs) ds :=
  Nat.ofDigitChars_append start

theorem digitsValue_zeros (start k : Nat) : digitsValue start (List.replicate k '0') = 10 ^ k * start :=
  Nat.ofDigitChars_replicate_zero

theorem digitsValue_wholeDigits (n : Nat) : digitsValue 0 (wholeDigits n) = n :=
  Nat.ofDigitChars_toDigits (by decide) (by decide)

theorem isDigit_of_mem_wholeDigits {n : Nat} {c : Char} (hc : c ∈ wholeDigits n) : c.isDigit = true :=
  Nat.isDigit_of_mem_toDigits (by decide) (by decide) hc

/-- A list is what stands before its last zeros, and these. -/
theorem take_append_zeros (ds : List Char) :
    ds.take (ds.length - (ds.reverse.takeWhile (· = '0')).length) ++
      List.replicate (ds.reverse.takeWhile (· = '0')).length '0' = ds := by
  have htail : (ds.reverse.takeWhile (· = '0')).reverse =
      List.replicate (ds.reverse.takeWhile (· = '0')).length '0' := by
    refine List.eq_replicate_iff.mpr ⟨List.length_reverse, fun c hc => ?_⟩
    have hzero := List.mem_takeWhile_imp (List.mem_reverse.mp hc)
    exact of_decide_eq_true hzero
  have hback : (ds.reverse.dropWhile (· = '0')).reverse ++ (ds.reverse.takeWhile (· = '0')).reverse = ds := by
    rw [← List.reverse_append, List.takeWhile_append_dropWhile, List.reverse_reverse]
  have hlength := congrArg List.length hback
  simp only [List.length_append, List.length_reverse] at hlength
  have hfront : ds.take (ds.length - (ds.reverse.takeWhile (· = '0')).length) =
      (ds.reverse.dropWhile (· = '0')).reverse := by
    have htake := congrArg (List.take (ds.length - (ds.reverse.takeWhile (· = '0')).length)) hback
    rw [List.take_left' (by rw [List.length_reverse]; omega)] at htake
    exact htake.symm
  rw [hfront, ← htail, hback]

theorem value_stripZeros (d : Scaled) : d.stripZeros.value = d.value := by
  obtain ⟨digits, scale⟩ := d
  simp only [Scaled.stripZeros, Scaled.value]
  have hsplit := take_append_zeros (wholeDigits digits)
  generalize (List.takeWhile (fun x => decide (x = '0')) (wholeDigits digits).reverse).length = zeros at hsplit ⊢
  have hdigits : (digits : ℚ) = 10 ^ zeros * digitsValue 0 ((wholeDigits digits).take
      ((wholeDigits digits).length - zeros)) := by
    have hvalue := digitsValue_wholeDigits digits
    rw [← hsplit, digitsValue_append, digitsValue_zeros] at hvalue
    exact_mod_cast hvalue.symm
  rw [hdigits, zpow_add₀ (by norm_num), zpow_natCast]
  ring

/-! ### Positional writing -/

theorem split_digits {cs : List Char} (h : ∀ c ∈ cs, c.isDigit = true) : split cs = ⟨cs, [], []⟩ := by
  have htake : cs.takeWhile Char.isDigit = cs := List.takeWhile_eq_self_iff.mpr h
  have hdrop : cs.dropWhile Char.isDigit = [] := List.dropWhile_eq_nil_iff.mpr h
  simp only [split, htake, hdrop]

theorem split_point {whole fraction : List Char} (hwhole : ∀ c ∈ whole, c.isDigit = true)
    (hfraction : ∀ c ∈ fraction, c.isDigit = true) :
    split (whole ++ '.' :: fraction) = ⟨whole, fraction, []⟩ := by
  have htake : (whole ++ '.' :: fraction).takeWhile Char.isDigit = whole := by
    rw [List.takeWhile_append_of_pos hwhole]
    simp
  have hdrop : (whole ++ '.' :: fraction).dropWhile Char.isDigit = '.' :: fraction := by
    rw [List.dropWhile_append_of_pos hwhole]
    rfl
  have hall : fraction.takeWhile Char.isDigit = fraction := List.takeWhile_eq_self_iff.mpr hfraction
  have hnone : fraction.dropWhile Char.isDigit = [] := List.dropWhile_eq_nil_iff.mpr hfraction
  simp only [split, htake, hdrop, hall, hnone]

theorem numeral?_digits {cs : List Char} (hne : cs ≠ []) (h : ∀ c ∈ cs, c.isDigit = true) :
    numeral? cs = some (nearest (digitsValue 0 cs) 0) := by
  have hdigit : (!cs.isEmpty || !([] : List Char).isEmpty) = true := by simp [hne]
  simp only [numeral?, split_digits h, Split.hasDigit, hdigit, Split.value]
  rfl

theorem numeral?_point {whole fraction : List Char} (hne : whole ≠ []) (hwhole : ∀ c ∈ whole, c.isDigit = true)
    (hfraction : ∀ c ∈ fraction, c.isDigit = true) :
    numeral? (whole ++ '.' :: fraction) = some (nearest (digitsValue 0 (whole ++ fraction)) (-fraction.length)) := by
  have hdigit : (!whole.isEmpty || !fraction.isEmpty) = true := by simp [hne]
  simp only [numeral?, split_point hwhole hfraction, Split.hasDigit, hdigit, Split.value, digitsValue_append,
    zero_sub]
  rfl

/-- A point among digits scales the number that they write. -/
theorem numeral?_insert_point {cs : List Char} (h : ∀ c ∈ cs, c.isDigit = true) {places : ℕ}
    (hlength : places < cs.length) :
    numeral? (cs.take (cs.length - places) ++ '.' :: cs.drop (cs.length - places)) =
      some (nearest (digitsValue 0 cs) (-places)) := by
  have hwhole : cs.take (cs.length - places) ≠ [] := by
    rw [ne_eq, List.take_eq_nil_iff]
    rintro (hzero | rfl)
    · omega
    · simp at hlength
  have hfraction : (cs.drop (cs.length - places)).length = places := by
    rw [List.length_drop]
    omega
  rw [numeral?_point hwhole (fun c hc => h c (List.mem_of_mem_take hc)) (fun c hc => h c (List.mem_of_mem_drop hc)),
    List.take_append_drop, hfraction]

theorem isDigit_zeros {n k : ℕ} : ∀ c ∈ List.replicate k '0' ++ wholeDigits n, c.isDigit = true := by
  refine List.forall_mem_append.mpr ⟨fun c hc => ?_, fun c hc => isDigit_of_mem_wholeDigits hc⟩
  rw [List.eq_of_mem_replicate hc]
  rfl

/-- A decimal written without exponent is read as what it stands for. -/
theorem numeral?_plain (d : Scaled) : numeral? d.plain = some d.toFloat := by
  unfold Scaled.plain
  by_cases hscale : 0 ≤ d.scale
  · have hne : wholeDigits d.digits ≠ [] := Nat.toDigits_ne_nil
    have hdigits : ∀ c ∈ wholeDigits d.digits ++ List.replicate d.scale.toNat '0', c.isDigit = true := by
      intro c hc
      exact isDigit_zeros c (List.mem_append.mpr (List.mem_append.mp hc).symm)
    obtain ⟨k, hk⟩ := Int.eq_ofNat_of_zero_le hscale
    rw [if_pos hscale, numeral?_digits (by simp [hne]) hdigits, digitsValue_append, digitsValue_zeros,
      digitsValue_wholeDigits]
    refine congrArg some (nearest_congr ?_)
    rw [hk, Int.toNat_natCast, zpow_natCast]
    push_cast
    ring
  · obtain ⟨places, hplaces⟩ := Int.eq_ofNat_of_zero_le (by omega : 0 ≤ -d.scale)
    rw [if_neg hscale, hplaces, Int.toNat_natCast]
    simp only
    generalize hpadded : List.replicate (places + 1 - (wholeDigits d.digits).length) '0' ++ wholeDigits d.digits =
      padded
    have hlength : places < padded.length := by
      rw [← hpadded, List.length_append, List.length_replicate]
      omega
    have hvalue : digitsValue 0 padded = d.digits := by
      rw [← hpadded, digitsValue_append, digitsValue_zeros, mul_zero, digitsValue_wholeDigits]
    rw [numeral?_insert_point (hpadded ▸ isDigit_zeros) hlength, hvalue, ← hplaces, neg_neg]
    rfl

/-! ### The shortest decimal -/

theorem value_exact (m : ℕ) (q : ℤ) : (exact m q).value = m * 2 ^ q := by
  unfold exact Scaled.value
  by_cases hq : 0 ≤ q
  · obtain ⟨k, rfl⟩ := Int.eq_ofNat_of_zero_le hq
    rw [if_pos hq]
    simp only [Int.toNat_natCast, Nat.shiftLeft_eq, zpow_zero, mul_one, zpow_natCast]
    push_cast
    rfl
  · obtain ⟨k, hk⟩ := Int.eq_ofNat_of_zero_le (by omega : 0 ≤ -q)
    obtain rfl : q = -k := by omega
    have hten : (10 : ℚ) ^ k = 5 ^ k * 2 ^ k := by
      rw [← mul_pow]
      norm_num
    rw [if_neg hq]
    simp only [neg_neg, Int.toNat_natCast, Nat.pow_eq, zpow_neg, zpow_natCast, hten]
    push_cast
    field_simp

/-- The shortest decimal reads back, also when no candidate with few digits did. -/
theorem toFloat_shortest {v : Float} {m : ℕ} {q : ℤ} (hm : 0 < m) (h : value? v = some (m * 2 ^ q : ℚ)) :
    (shortest v m q).toFloat = v := by
  simp only [shortest]
  rw [toFloat_congr (value_stripZeros _)]
  have hpos : (0 : ℚ) < m * 2 ^ q := by positivity
  cases hfind : List.find? (fun d => Scaled.toFloat d == v) _ with
  | some d =>
    have hback := List.find?_some hfind
    exact eq_of_value? hpos (value?_of_beq h hback) h
  | none =>
    have hexact := value_exact m q
    have hdigits : 0 < (exact m q).digits := by
      rw [Nat.pos_iff_ne_zero]
      intro hzero
      rw [Scaled.value, hzero, Nat.cast_zero, zero_mul] at hexact
      exact hpos.ne hexact
    rw [Option.getD_none]
    exact nearest_of_value? hdigits (h.trans (congrArg some hexact.symm))

/-! ### The text of a signal -/

theorem abs_of_not_negative {v : Float} (h : isNegative v = false) : v.abs = v := by
  have hsign : signOf v.toModel.unpack ≠ .negative := by
    rw [ne_eq, ← isNegative_iff, h]
    exact Bool.false_ne_true
  refine unpack_injective ?_
  rw [unpack_abs]
  cases hunpack : v.toModel.unpack with
  | notANumber => rfl
  | infinity sign | zero sign | finite sign =>
    rw [hunpack] at hsign
    cases sign with
    | positive => rfl
    | negative => exact absurd rfl hsign

/-- The text of a finite signal without sign is a decimal without exponent that stands for the signal. -/
theorem text_eq_plain {v : Float} (hfinite : v.isFinite = true) (h : isNegative v = false) :
    ∃ d : Scaled, (text v).toList = d.plain ∧ d.toFloat = v := by
  have habs := abs_of_not_negative h
  have hunsigned := unpack_abs v
  rw [habs] at hunsigned
  unfold text
  rw [habs]
  cases hunpack : v.toModel.unpack with
  | notANumber | infinity =>
    rw [← isSome_value?, value?, hunpack] at hfinite
    cases hfinite
  | zero sign =>
    rw [hunpack] at hunsigned
    refine ⟨⟨0, 0⟩, ?_, unpack_injective ?_⟩
    · rw [h]
      exact String.toList_ofList
    · rw [hunpack, hunsigned]
      rfl
  | finite sign m q hm =>
    rw [hunpack] at hunsigned
    obtain rfl : sign = .positive := congrArg signOf hunsigned
    refine ⟨shortest v m q, ?_, toFloat_shortest hm ?_⟩
    · simp only [h, signed, String.toList_ofList]
      rfl
    · rw [value?_of_finite hunpack]
      rfl

/-- A finite signal without sign is read from its text. -/
theorem numeral?_text {v : Float} (hfinite : v.isFinite = true) (h : isNegative v = false) :
    numeral? (text v).toList = some v := by
  obtain ⟨d, htext, hvalue⟩ := text_eq_plain hfinite h
  rw [htext, numeral?_plain, hvalue]

end Gauge.Decimal
