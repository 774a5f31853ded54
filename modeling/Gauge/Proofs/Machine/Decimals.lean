import Gauge.Formula.Assembler
import Gauge.Proofs.Dialect.Strictness
import Gauge.Proofs.Machine.Evaluation
import Gauge.Proofs.Signal.Decimals

/-! # Rounding in formulas

A call of `round` with a number of decimals scales its first argument by a power of ten, rounds and scales back.
As long as the power is a double other than zero and infinity, a finite argument is lost only where a result
leaves the range of doubles.
-/
namespace Gauge

namespace Signal

theorem roundToSignal_of_value? (v : Float) {w : Float} {k : ℤ} (hw : value? w = some (k : ℚ))
    (hlow : -308 ≤ k) (hhigh : k ≤ 308) : roundToSignal v w = roundTo v k := by
  have hword : (Int32.ofInt k).toInt = k := Int32.toInt_ofInt_of_le (by omega) (by omega)
  have hdecimals : toWord? w = some (Int32.ofInt k) := toWord?_of_value? (by rw [hword, hw])
  rw [roundToSignal, hdecimals]
  exact congrArg (roundTo v) hword

end Signal

namespace Expr

open Signal

variable {m : Type → Type} [Monad m] (fraction : m Float)

theorem function?_round (v w : Float) : ((Dialect.standard fraction).function? "round").map (· [v, w]) =
    some (pure (guarded (fun _ => roundToSignal v w) [v, w])) := by
  unfold Dialect.standard Dialect.withFunctions Dialect.standardFunctions
  simp only [List.foldl_cons, List.foldl_nil, Dialect.function?_withFunction]
  rw [if_neg (by decide), if_neg (by decide), if_neg (by decide), if_neg (by decide), if_pos (by decide)]
  rfl

theorem respond_round [LawfulMonad m] (v w : Float) :
    respond (((Dialect.standard fraction).function? "round").map (· [v, w])) =
      pure (settle (roundToSignal v w)) := by
  rw [function?_round, respond_some, map_pure, guarded]
  split
  case isFalse => rfl
  case isTrue hmissing =>
    have hnan : v.isNaN = true ∨ w.isNaN = true := by simpa [anyMissing] using hmissing
    rw [settle_missing, settle_of_isNaN (isNaN_roundToSignal hnan)]

/-- Both arguments are computed in order. -/
theorem eval_round [LawfulMonad m] (source : Source m) (a b : Expr) :
    (Expr.call "round" [a, b]).eval (.standard fraction) source = (do
      let v ← a.eval (.standard fraction) source
      let w ← b.eval (.standard fraction) source
      pure (settle (roundToSignal v w))) := by
  simp only [eval, evalAll, bind_assoc, pure_bind, respond_round]

end Expr

namespace Machine

open Signal

variable {m : Type → Type} [Monad m] [LawfulMonad m]

/-- A finite signal that is rounded up to 308 places behind or before the point is scaled, rounded and scaled
back. It is missing only if one of these steps leaves the range of doubles: behind the point only the scaled signal
can do so, before the point only the result. Neither does as long as the signal, scaled up, is at most 10³⁰⁷. -/
theorem evaluate_round (fraction : m Float) (source : Source m) (a b : Expr) {f : Formula}
    (hf : f.instructions = (Expr.call "round" [a, b]).instructions) (s : Machine) :
    Prod.fst <$> s.evaluate (.standard fraction) source f = (do
      let v ← a.eval (.standard fraction) source
      let w ← b.eval (.standard fraction) source
      pure (.ok (settle (roundToSignal v w)))) ∧
    ∀ (v w : Float) (x : ℚ) (k : ℤ), value? v = some x → value? w = some (k : ℚ) → -308 ≤ k → k ≤ 308 →
      roundToSignal v w = round (v * powerInt 10 k) / powerInt 10 k ∧
      (0 ≤ k → (v * powerInt 10 k).isInf = false → (settle (roundToSignal v w)).isNaN = false) ∧
      (k ≤ 0 → ((settle (roundToSignal v w)).isNaN = true ↔ (roundToSignal v w).isInf = true)) ∧
      (|x| * 10 ^ k.toNat ≤ 10 ^ 307 → (settle (roundToSignal v w)).isNaN = false) := by
  refine ⟨?_, ?_⟩
  · rw [fst_evaluate_listing _ source hf, Expr.eval_round]
    simp only [map_bind, map_pure]
  · intro v w x k hv hw hlow hhigh
    have hpresent {u : Float} (hfinite : u.isFinite = true) : (settle u).isNaN = false := by
      rw [← Bool.not_eq_true, isNaN_settle_iff, hfinite]
      exact Bool.noConfusion
    rw [roundToSignal_of_value? v hw hlow hhigh]
    refine ⟨rfl, ?_, ?_, ?_⟩
    · intro hk hscaled
      obtain ⟨n, rfl⟩ := Int.eq_ofNat_of_zero_le hk
      exact hpresent (isFinite_roundTo_natCast hv (by omega) hscaled)
    · intro hk
      obtain ⟨n, hn⟩ := Int.eq_ofNat_of_zero_le (Int.neg_nonneg_of_nonpos hk)
      obtain rfl : k = -n := by omega
      rw [isNaN_settle_iff, isFinite_eq_not_isInf (isNaN_roundTo_neg hv (by omega)), Bool.not_eq_false']
    · exact fun hle => hpresent (isFinite_roundTo_of_le hv hlow hhigh hle)

/-- Two and a half keeps 306 decimals. -/
theorem evaluate_round_many : ∃ f, Formula.parse "round(a, 306)" = .ok f ∧
    (settle (roundToSignal 2.5 306)).isNaN = false ∧
    ∀ s : Machine, Prod.fst <$> s.evaluate (.standard (pure 0 : Id Float)) (fun _ => pure 2.5) f =
      pure (.ok (settle (roundToSignal 2.5 306))) := by
  obtain ⟨f, hparse, hf⟩ : ∃ f, Formula.parse "round(a, 306)" = .ok f ∧
      f.instructions = (Expr.call "round" [.identifier "a", .number 306]).instructions := ⟨_, rfl, rfl⟩
  have hround := evaluate_round (pure 0 : Id Float) (fun _ => pure 2.5) (.identifier "a") (.number 306) hf
  have hvalue : value? 2.5 = some (5 / 2) := by decide +kernel
  have hdecimals : value? 306 = some ((306 : ℤ) : ℚ) := by decide +kernel
  have hrange : |(5 / 2 : ℚ)| * 10 ^ (306 : ℤ).toNat ≤ 10 ^ 307 := by
    have hsucc : (10 : ℚ) ^ 307 = 10 * 10 ^ (306 : ℤ).toNat := pow_succ' 10 306
    rw [hsucc]
    exact mul_le_mul_of_nonneg_right (by norm_num) (by positivity)
  refine ⟨f, hparse, ((hround fresh).2 2.5 306 (5 / 2) 306 hvalue hdecimals (by decide) (by decide)).2.2.2 hrange,
    fun s => ?_⟩
  have hsignal : settle 2.5 = 2.5 := if_pos (by decide +kernel)
  have hcount : settle 306 = 306 := if_pos (by decide +kernel)
  have hanswer := (hround s).1
  simp only [Expr.eval, Expr.entered_eq_settle, map_pure, pure_bind, hsignal, hcount] at hanswer
  exact hanswer

/-- With more decimals the power of ten is infinite, and zero is lost to it; the largest double is lost to places
before the point, where its multiple of 10³⁰⁸ is out of range. -/
theorem evaluate_round_lost : (∃ f, Formula.parse "round(0, 400)" = .ok f ∧
    ∀ s : Machine, Prod.fst <$> s.evaluate (.standard (pure 0 : Id Float)) (fun _ => pure 0) f =
      pure (.ok missing)) ∧
    ∃ f, Formula.parse "round(a, -308)" = .ok f ∧ (Float.ofBits 0x7FEFFFFFFFFFFFFF).isFinite = true ∧
    ∀ s : Machine, Prod.fst <$> s.evaluate (.standard (pure 0 : Id Float))
      (fun _ => pure (Float.ofBits 0x7FEFFFFFFFFFFFFF)) f = pure (.ok missing) := by
  constructor
  · obtain ⟨f, hparse, hf⟩ : ∃ f, Formula.parse "round(0, 400)" = .ok f ∧
        f.instructions = (Expr.call "round" [.number 0, .number 400]).instructions := ⟨_, rfl, rfl⟩
    have hlost : settle (roundToSignal (settle 0) (settle 400)) = missing := by decide +kernel
    refine ⟨f, hparse, fun s => ?_⟩
    rw [fst_evaluate_listing _ _ hf, Expr.eval_round]
    simp only [Expr.eval, Expr.entered_eq_settle, pure_bind, map_pure, hlost]
  · obtain ⟨f, hparse, hf⟩ : ∃ f, Formula.parse "round(a, -308)" = .ok f ∧
        f.instructions = (Expr.call "round" [.identifier "a", .unary .minus (.number 308)]).instructions :=
      ⟨_, rfl, rfl⟩
    have hlost : settle (roundToSignal (settle (Float.ofBits 0x7FEFFFFFFFFFFFFF))
        (settle (applyUnary .minus (settle 308)))) = missing := by decide +kernel
    have hminus : (Dialect.standard (pure 0 : Id Float)).unary .minus = some fun v => pure (applyUnary .minus v) :=
      rfl
    refine ⟨f, hparse, by decide +kernel, fun s => ?_⟩
    rw [fst_evaluate_listing _ _ hf, Expr.eval_round]
    simp only [Expr.eval, Expr.entered_eq_settle, hminus, Option.map_some, Expr.respond_some, pure_bind, map_pure,
      hlost]

end Machine
end Gauge
