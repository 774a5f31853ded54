import Mathlib
import Gauge.Dialect.Standard
import Gauge.Proofs.Signal.Missing

/-! # Strict dialects

In a strict dialect every meaning answers a missing signal to a missing operand or argument, whatever its
effects are. The standard dialect is strict, and stays so under more functions that are.
-/
namespace Gauge

abbrev Signal.AlwaysMissing {m : Type → Type} [Functor m] (x : m Float) : Prop :=
  SatisfiesM (fun v => v.isNaN = true) x

namespace Dialect

open Signal

variable {m : Type → Type}

/-- A function defined under a name answers to its lowercase form, and every other name stays as it is. -/
theorem function?_withFunction (d : Dialect m) (name key : String) (f : List Float → m Float) :
    (d.withFunction name f).function? key =
      if Text.lowercase name = key then some f else d.function? key := by
  simp only [function?, withFunction, Std.TreeMap.getElem?_insert, Std.compare_eq_iff_eq]

variable [Monad m]

structure Strict (d : Dialect m) : Prop where
  unary : ∀ op f v, d.unary op = some f → v.isNaN = true → AlwaysMissing (f v)
  binary : ∀ op f a b, d.binary op = some f → a.isNaN = true ∨ b.isNaN = true →
    AlwaysMissing (f a b)
  function : ∀ name f vs, d.function? name = some f → anyMissing vs = true → AlwaysMissing (f vs)

theorem Strict.withFunction {d : Dialect m} (hd : d.Strict) (name : String) {f : List Float → m Float}
    (hf : ∀ vs, anyMissing vs = true → AlwaysMissing (f vs)) : (d.withFunction name f).Strict where
  unary := hd.unary
  binary := hd.binary
  function := by
    intro key g vs hg hvs
    rw [function?_withFunction] at hg
    split_ifs at hg with hkey
    · cases hg
      exact hf vs hvs
    · exact hd.function key g vs hg hvs

variable [LawfulMonad m]

theorem strict_operators : (operators : Dialect m).Strict where
  unary := by
    intro op f v hf hv
    cases hf
    exact .pure (isNaN_applyUnary op hv)
  binary := by
    intro op f a b hf h
    cases hf
    exact .pure (isNaN_applyBinary op h)
  function := by
    intro name f vs hf
    have hnone : (operators : Dialect m).function? name = none := Std.TreeMap.getElem?_emptyc
    rw [hnone] at hf
    cases hf

/-- The pure functions of the standard dialect: most are guarded, three combine their arguments. -/
theorem isNaN_standardFunctions {f : String × (List Float → Float)} (hf : f ∈ standardFunctions)
    {vs : List Float} (hvs : anyMissing vs = true) : (f.2 vs).isNaN = true := by
  simp only [standardFunctions, List.mem_cons, List.not_mem_nil, or_false] at hf
  rcases hf with rfl | rfl | rfl | rfl | rfl | rfl | rfl | rfl | rfl | rfl | rfl | rfl | rfl
  iterate 10 exact isNaN_guarded hvs
  · exact isNaN_reduce hvs
  · exact isNaN_reduce hvs
  · exact isNaN_average hvs

theorem alwaysMissing_random (fraction : m Float) {vs : List Float} (hvs : anyMissing vs = true) :
    AlwaysMissing (random fraction vs) := by
  unfold random
  rw [if_pos hvs]
  exact .pure isNaN_missing

theorem Strict.foldl_withFunction {d : Dialect m} (hd : d.Strict)
    {fs : List (String × (List Float → Float))}
    (hfs : ∀ f ∈ fs, ∀ vs, anyMissing vs = true → (f.2 vs).isNaN = true) :
    (fs.foldl (fun d f => d.withFunction f.1 fun vs => pure (f.2 vs)) d).Strict := by
  induction fs generalizing d with
  | nil => exact hd
  | cons f fs ih =>
    have hhead := hd.withFunction f.1 (f := fun vs => pure (f.2 vs)) fun vs hvs =>
      .pure (hfs f List.mem_cons_self vs hvs)
    exact ih hhead fun g hg => hfs g (List.mem_cons_of_mem f hg)

theorem strict_standard (fraction : m Float) : (standard fraction).Strict := by
  have hpure := (strict_operators (m := m)).foldl_withFunction
    fun f hf vs hvs => isNaN_standardFunctions hf hvs
  exact hpure.withFunction "rand" fun vs hvs => alwaysMissing_random fraction hvs

end Dialect
end Gauge
