import Mathlib.Data.Prod.Lex
import Gauge.Proofs.Signal.Missing

/-! # The order of signals

Present signals are compared like their heights in a linear order, where the two zeros stand at one height.
So the comparison of doubles is a total order of the present signals up to equality; with a missing signal
nothing compares.
-/
namespace Gauge.Signal

open Float.Model

/-! ### Heights -/

/-- The height of a number among all: first by its kind and sign, then by exponent and mantissa. -/
def heightOf : UnpackedFloat → ℤ ×ₗ ℤ ×ₗ ℤ
  | .infinity .negative => toLex (-2, toLex (0, 0))
  | .finite .negative m e _ => toLex (-1, toLex (-e, -m))
  | .zero _ | .notANumber => toLex (0, toLex (0, 0))
  | .finite .positive m e _ => toLex (1, toLex (e, m))
  | .infinity .positive => toLex (2, toLex (0, 0))

theorem compare_congr {α β : Type} [LinearOrder α] [LinearOrder β] {a b : α} {c d : β}
    (hlt : a < b ↔ c < d) (hgt : b < a ↔ d < c) : compare a b = compare c d := by
  rcases lt_trichotomy a b with h | h | h
  · rw [compare_lt_iff_lt.mpr h, compare_lt_iff_lt.mpr (hlt.mp h)]
  · have heq : c = d := by
      apply le_antisymm
      · exact not_lt.mp fun hdc => (hgt.mpr hdc).ne' h
      · exact not_lt.mp fun hcd => (hlt.mpr hcd).ne h
    rw [compare_eq_iff_eq.mpr h, compare_eq_iff_eq.mpr heq]
  · rw [compare_gt_iff_gt.mpr h, compare_gt_iff_gt.mpr (hgt.mp h)]

theorem compare_natCast (m n : ℕ) : compare (m : ℤ) (n : ℤ) = compare m n :=
  compare_congr Int.ofNat_lt Int.ofNat_lt

theorem compare_neg (x y : ℤ) : compare (-x) (-y) = (compare x y).swap := by
  rw [Int.compare_swap]
  exact compare_congr Int.neg_lt_neg_iff Int.neg_lt_neg_iff

theorem compare_finite (s t : UnpackedFloat.Sign) {m n : ℕ} (e f : ℤ) (hm : 0 < m) (hn : 0 < n) :
    UnpackedFloat.compare (.finite s m e hm) (.finite t n f hn) =
      some (compare (heightOf (.finite s m e hm)) (heightOf (.finite t n f hn))) := by
  cases s with
  | negative =>
    cases t with
    | negative =>
      show some ((compare e f).then (compare m n)).swap =
        some (Ordering.eq.then ((compare (-e) (-f)).then (compare (-m : ℤ) (-n : ℤ))))
      rw [compare_neg, compare_neg, compare_natCast, Ordering.swap_then]
      rfl
    | positive => rfl
  | positive =>
    cases t with
    | negative => rfl
    | positive =>
      show some ((compare e f).then (compare m n)) =
        some (Ordering.eq.then ((compare e f).then (compare (m : ℤ) (n : ℤ))))
      rw [compare_natCast]
      rfl

theorem compare_eq_heights {u w : UnpackedFloat} (hu : u ≠ .notANumber) (hw : w ≠ .notANumber) :
    u.compare w = some (compare (heightOf u) (heightOf w)) := by
  cases u with
  | notANumber => exact absurd rfl hu
  | infinity s =>
    cases w with
    | notANumber => exact absurd rfl hw
    | infinity t => cases s <;> cases t <;> rfl
    | zero t => cases s <;> rfl
    | finite t n f hn => cases s <;> cases t <;> rfl
  | zero s =>
    cases w with
    | notANumber => exact absurd rfl hw
    | infinity t => cases t <;> rfl
    | zero t => rfl
    | finite t n f hn => cases t <;> rfl
  | finite s m e hm =>
    cases w with
    | notANumber => exact absurd rfl hw
    | infinity t => cases s <;> cases t <;> rfl
    | zero t => cases s <;> rfl
    | finite t n f hn => exact compare_finite s t e f hm hn

/-! ### Comparisons -/

def height (v : Float) : ℤ ×ₗ ℤ ×ₗ ℤ := heightOf v.toModel.unpack

section

variable {v w : Float}

theorem compare_unpack (hv : v.isNaN = false) (hw : w.isNaN = false) :
    v.toModel.unpack.compare w.toModel.unpack = some (compare (height v) (height w)) := by
  apply compare_eq_heights
  · intro hunpack
    rw [isNaN_iff.mpr hunpack] at hv
    cases hv
  · intro hunpack
    rw [isNaN_iff.mpr hunpack] at hw
    cases hw

theorem lt_iff_height (hv : v.isNaN = false) (hw : w.isNaN = false) : v < w ↔ height v < height w := by
  have hlt : v < w ↔ (v.toModel.unpack.compare w.toModel.unpack == some .lt) = true :=
    (decide_eq_true_iff : decide (v.toModel < w.toModel) = true ↔ _)
  rw [hlt, compare_unpack hv hw, beq_iff_eq, Option.some_inj, compare_lt_iff_lt]

theorem le_iff_height (hv : v.isNaN = false) (hw : w.isNaN = false) : v ≤ w ↔ height v ≤ height w := by
  have hle : v ≤ w ↔ (v.toModel.unpack.compare w.toModel.unpack).any (·.isLE) = true :=
    (decide_eq_true_iff : decide (v.toModel ≤ w.toModel) = true ↔ _)
  rw [hle, compare_unpack hv hw, Option.any_some, Ordering.isLE_iff_ne_gt]
  exact compare_le_iff_le

theorem beq_iff_height (hv : v.isNaN = false) (hw : w.isNaN = false) :
    (v == w) = true ↔ height v = height w := by
  have hbeq : (v == w) = (v.toModel.unpack.compare w.toModel.unpack == some .eq) := rfl
  rw [hbeq, compare_unpack hv hw, beq_iff_eq, Option.some_inj, compare_eq_iff_eq]

end

end Gauge.Signal
