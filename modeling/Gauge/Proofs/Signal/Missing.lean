import Gauge.Signal.Library

/-! # Missing operands

Whatever the standard operators and functions compute from a missing signal is missing. The arithmetic
of doubles does so by its model, where an operand that is no number is met before any other case; the
others test for it, and bitwise operators have no word for it.
-/
namespace Gauge.Signal

open Float.Model

theorem isNaN_iff {v : Float} : v.isNaN = true ↔ v.toModel.unpack = .notANumber := by
  have hv : v.isNaN = v.toModel.unpack.isNaN := rfl
  rw [hv]
  cases v.toModel.unpack with
  | notANumber => exact iff_of_true rfl rfl
  | infinity | zero | finite => exact iff_of_false Bool.false_ne_true nofun

@[simp] theorem isNaN_missing : missing.isNaN = true := by decide +kernel

theorem isNaN_pack {u : UnpackedFloat} (h : u = .notANumber) :
    (Float.ofModel (pack u)).isNaN = true := by
  rw [h]
  decide +kernel

/-! ### Arithmetic -/

section

variable {a b : Float}

/-- An operation of the model that is no number as soon as an operand is none. -/
theorem isNaN_pack₂ {op : UnpackedFloat → UnpackedFloat → UnpackedFloat}
    (hleft : ∀ y, op .notANumber y = .notANumber) (hright : ∀ x, op x .notANumber = .notANumber)
    (h : a.isNaN = true ∨ b.isNaN = true) :
    (Float.ofModel (pack (op a.toModel.unpack b.toModel.unpack))).isNaN = true := by
  apply isNaN_pack
  rcases h with ha | hb
  · rw [isNaN_iff.mp ha, hleft]
  · rw [isNaN_iff.mp hb, hright]

theorem isNaN_add (h : a.isNaN = true ∨ b.isNaN = true) : (a + b).isNaN = true := by
  have hright (x : UnpackedFloat) : x.add Format.binary64 .notANumber = .notANumber := by
    cases x <;> rfl
  exact isNaN_pack₂ (fun _ => rfl) hright h

theorem isNaN_sub (h : a.isNaN = true ∨ b.isNaN = true) : (a - b).isNaN = true := by
  have hright (x : UnpackedFloat) : x.sub Format.binary64 .notANumber = .notANumber := by
    cases x <;> rfl
  exact isNaN_pack₂ (fun _ => rfl) hright h

theorem isNaN_mul (h : a.isNaN = true ∨ b.isNaN = true) : (a * b).isNaN = true := by
  have hright (x : UnpackedFloat) : x.mul Format.binary64 .notANumber = .notANumber := by
    cases x <;> rfl
  exact isNaN_pack₂ (fun _ => rfl) hright h

theorem isNaN_div (h : a.isNaN = true ∨ b.isNaN = true) : (a / b).isNaN = true := by
  have hright (x : UnpackedFloat) : x.div Format.binary64 .notANumber = .notANumber := by
    cases x <;> rfl
  exact isNaN_pack₂ (fun _ => rfl) hright h

theorem isNaN_remainder (h : a.isNaN = true ∨ b.isNaN = true) : (remainder a b).isNaN = true := by
  unfold remainder
  rcases h with ha | hb
  · rw [isNaN_iff.mp ha]
    exact isNaN_missing
  · rw [isNaN_iff.mp hb]
    cases a.toModel.unpack <;> exact isNaN_missing

theorem isNaN_neg (h : a.isNaN = true) : (-a).isNaN = true := by
  apply isNaN_pack
  rw [isNaN_iff.mp h]
  rfl

theorem isNaN_abs (h : a.isNaN = true) : a.abs.isNaN = true := by
  apply isNaN_pack
  rw [isNaN_iff.mp h]
  rfl

theorem isFinite_eq_false_of_isNaN (h : a.isNaN = true) : a.isFinite = false := by
  rw [Float.isFinite, Float.Model.isFinite, isNaN_iff.mp h]
  rfl

theorem settle_of_isNaN (h : a.isNaN = true) : settle a = missing := by
  rw [settle, isFinite_eq_false_of_isNaN h]
  rfl

theorem isNaN_settle (h : a.isNaN = true) : (settle a).isNaN = true := by
  rw [settle_of_isNaN h]
  exact isNaN_missing

/-- What has been settled is finite or missing. -/
theorem isFinite_settle (v : Float) : (settle v).isFinite = !(settle v).isNaN := by
  cases hnan : (settle v).isNaN with
  | true => exact isFinite_eq_false_of_isNaN hnan
  | false =>
    cases hfinite : v.isFinite with
    | true => rwa [settle, if_pos hfinite]
    | false =>
      rw [settle, hfinite] at hnan
      exact Bool.noConfusion (isNaN_missing.symm.trans hnan)

theorem isNaN_settle_iff (v : Float) : (settle v).isNaN = true ↔ v.isFinite = false := by
  have hsettled := isFinite_settle v
  cases hfinite : v.isFinite with
  | true =>
    have hself : settle v = v := if_pos hfinite
    rw [hself, hfinite] at hsettled
    rw [hself, (Bool.not_eq_true' _).mp hsettled.symm]
    exact iff_of_false Bool.false_ne_true Bool.false_ne_true.symm
  | false =>
    have hmissing : settle v = missing := if_neg (Bool.not_eq_true _ ▸ hfinite)
    rw [hmissing]
    exact iff_of_true isNaN_missing rfl

theorem isFinite_eq_not_isInf {v : Float} (h : v.isNaN = false) : v.isFinite = !v.isInf := by
  have hpresent : v.toModel.unpack ≠ .notANumber := by
    intro hunpack
    rw [isNaN_iff.mpr hunpack] at h
    cases h
  show v.toModel.unpack.isFinite = !v.toModel.unpack.isInf
  cases hunpack : v.toModel.unpack with
  | notANumber => exact absurd hunpack hpresent
  | infinity | zero | finite => rfl

/-- Settling makes the quotient of zeros of whatever is infinite or no number. -/
theorem settle_eq (v : Float) : settle v = if v.isNaN || v.isInf then 0 / 0 else v := by
  cases hnan : v.isNaN with
  | true => exact settle_of_isNaN hnan
  | false =>
    rw [settle, isFinite_eq_not_isInf hnan]
    cases v.isInf with
    | true => rfl
    | false => rfl

theorem holds_eq (v : Float) : holds v = !(v == 0 || v.isNaN) := (Bool.not_or _ _).symm

/-! ### Tests and words -/

theorem isNaN_onPresent {f : Float → Float → Bool} (h : a.isNaN = true ∨ b.isNaN = true) :
    (onPresent f a b).isNaN = true := by
  rw [onPresent, if_pos (Bool.or_eq_true_iff.mpr h)]
  exact isNaN_missing

theorem beq_eq_false_of_isNaN (h : b.isNaN = true) : (a == b) = false := by
  have hbeq : (a == b) = (a.toModel.unpack.compare b.toModel.unpack == some .eq) := rfl
  rw [hbeq, isNaN_iff.mp h]
  cases a.toModel.unpack <;> rfl

theorem toWord?_eq_none (h : a.isNaN = true) : toWord? a = none := by
  simp only [toWord?, beq_eq_false_of_isNaN (isNaN_abs h), Bool.false_eq_true, if_false]

theorem isNaN_onWords {f : Int32 → Int32 → Int32} (h : a.isNaN = true ∨ b.isNaN = true) :
    (onWords f a b).isNaN = true := by
  unfold onWords
  rcases h with ha | hb
  · rw [toWord?_eq_none ha]
    exact isNaN_missing
  · rw [toWord?_eq_none hb]
    cases toWord? a <;> exact isNaN_missing

end

/-! ### Rounding -/

theorem isNaN_roundBy (carry : Float → Float → Bool) {v : Float} (h : v.isNaN = true) :
    (roundBy carry v).isNaN = true := by
  have hlt : v.abs.toModel.unpack.lt wholeBound.toModel.unpack = false := by
    rw [isNaN_iff.mp (isNaN_abs h)]
    rfl
  have hunordered : ¬ v.abs < wholeBound :=
    fun hless => Bool.false_ne_true (hlt.symm.trans (of_decide_eq_true hless))
  rw [roundBy, if_neg hunordered]
  exact h

theorem isNaN_roundToSignal {v w : Float} (h : v.isNaN = true ∨ w.isNaN = true) :
    (roundToSignal v w).isNaN = true := by
  unfold roundToSignal
  rcases h with hv | hw
  · cases toWord? w with
    | none => exact isNaN_missing
    | some d => exact isNaN_div (.inl (isNaN_roundBy _ (isNaN_mul (.inl hv))))
  · rw [toWord?_eq_none hw]
    exact isNaN_missing

/-! ### Operators and functions -/

theorem isNaN_applyUnary (op : UnaryOp) {v : Float} (h : v.isNaN = true) :
    (applyUnary op v).isNaN = true := by
  cases op with
  | plus => exact h
  | minus => exact isNaN_neg h
  | not =>
    rw [applyUnary, if_pos h]
    exact isNaN_missing
  | complement =>
    rw [applyUnary, toWord?_eq_none h]
    exact isNaN_missing

theorem isNaN_applyBinary (op : BinaryOp) {a b : Float} (h : a.isNaN = true ∨ b.isNaN = true) :
    (applyBinary op a b).isNaN = true := by
  cases op with
  | add => exact isNaN_add h
  | subtract => exact isNaN_sub h
  | multiply => exact isNaN_mul h
  | divide => exact isNaN_div h
  | modulo => exact isNaN_remainder h
  | and | or | greater | greaterEqual | less | lessEqual | equal | notEqual => exact isNaN_onPresent h
  | bitAnd | bitOr | bitXor | shiftLeft | shiftRight => exact isNaN_onWords h

theorem anyMissing_append (us ws : List Float) :
    anyMissing (us ++ ws) = (anyMissing us || anyMissing ws) := List.any_append

theorem anyMissing_cons (v : Float) (vs : List Float) :
    anyMissing (v :: vs) = (v.isNaN || anyMissing vs) := rfl

theorem isNaN_guarded {f : List Float → Float} {vs : List Float} (h : anyMissing vs = true) :
    (guarded f vs).isNaN = true := by
  rw [guarded, if_pos h]
  exact isNaN_missing

theorem isNaN_reduce {f : Float → Float → Float} {vs : List Float} (h : anyMissing vs = true) :
    (reduce f vs).isNaN = true := by
  cases vs with
  | nil => exact isNaN_missing
  | cons v vs =>
    rw [reduce, if_pos h]
    exact isNaN_missing

theorem isNaN_foldl_add {v : Float} {vs : List Float} (h : v.isNaN = true ∨ anyMissing vs = true) :
    (vs.foldl (· + ·) v).isNaN = true := by
  induction vs generalizing v with
  | nil => simpa [anyMissing] using h
  | cons w vs ih =>
    apply ih
    rw [anyMissing_cons, Bool.or_eq_true] at h
    rcases h with hv | hw | hvs
    · exact .inl (isNaN_add (.inl hv))
    · exact .inl (isNaN_add (.inr hw))
    · exact .inr hvs

theorem isNaN_average {vs : List Float} (h : anyMissing vs = true) : (average vs).isNaN = true := by
  unfold average
  split
  · exact isNaN_missing
  · exact isNaN_div (.inl (isNaN_foldl_add (.inr h)))

end Gauge.Signal
