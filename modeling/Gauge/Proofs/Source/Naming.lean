import Mathlib
import Gauge.Engine
import Gauge.Proofs.Formula.Composition
import Gauge.Proofs.Machine.Evaluation
import Gauge.Proofs.Text.Lowercase

/-! # Names of variables

A formula asks for a variable by the lowercase form of its name. A table stores a name in this form only if
some character of it is uppercase, and a titlecase letter is not.
-/
namespace Gauge

namespace Formula

/-- A name by itself is a variable. -/
theorem compiles_name {name : String} (h : IsName name.toList) :
    Compiles name (Expr.identifier (Text.lowercase name)).instructions := by
  have hspells : Spells false (name.toList ++ []) [.identifier (Text.lowercase name)] :=
    .lexeme (.name_alone false h) .nil
  rw [List.append_nil] at hspells
  exact compiles_iff.mpr ⟨_, .identifier (Text.lowercase name), hspells,
    .mono (.identifier _) (by decide) (by decide), rfl⟩

end Formula

namespace Engine

variable {m : Type → Type} [Monad m] [LawfulMonad m]

/-- An engine answers on the text of an expression with its signal. -/
theorem fst_evaluateText (e : Engine m) (source : Source m) {text : String} {expr : Expr}
    (h : Formula.Compiles text expr.instructions) :
    Prod.fst <$> e.evaluateText source text = Except.ok <$> expr.eval e.dialect source := by
  obtain ⟨f, hf, hinstructions⟩ := h
  have hmachine := Machine.fst_evaluate_listing e.dialect source hinstructions e.machine
  have herror := congrArg (Except.mapError FormulaError.faulty <$> ·) hmachine
  simp only [Functor.map_map] at herror
  simp only [evaluateText, hf, evaluate, bind_assoc, pure_bind, map_bind, map_pure]
  rw [bind_pure_comp]
  exact herror

theorem fst_evaluateText_name (e : Engine m) (source : Source m) {name : String}
    (h : IsName name.toList) :
    Prod.fst <$> e.evaluateText source name =
      (fun v => .ok (Signal.settle v)) <$> source (Text.lowercase name) := by
  rw [fst_evaluateText e source (Formula.compiles_name h), Expr.eval, Expr.entered_eq_settle, Functor.map_map]

end Engine

namespace Table

theorem fold_lowercase (name : String) : fold (Text.lowercase name) = Text.lowercase name := by
  rw [fold, Text.lowercase_lowercase, ite_self]

theorem fold_eq_lowercase_iff {name : String} :
    fold name = Text.lowercase name ↔
      name.toList.any Text.isUppercase = true ∨ Text.lowercase name = name := by
  rw [fold]
  split_ifs with hupper
  · exact iff_of_true rfl (.inl hupper)
  · exact ⟨fun h => .inr h.symm, fun h => (h.resolve_left hupper).symm⟩

theorem lookup_set (t : Table) (name key : String) (v : Float) :
    (t.set name v).lookup key = if fold name = fold key then v else t.lookup key := by
  simp only [lookup, get?, set, Std.TreeMap.getElem?_insert, Std.compare_eq_iff_eq]
  split_ifs with hfold
  · rfl
  · rfl

/-- What a table answers to the lowercase form of a name that it was given. -/
theorem lookup_set_lowercase (t : Table) (name : String) (v : Float) :
    (t.set name v).lookup (Text.lowercase name) =
      if name.toList.any Text.isUppercase = true ∨ Text.lowercase name = name then v
      else t.lookup (Text.lowercase name) := by
  rw [lookup_set, fold_lowercase]
  exact if_congr fold_eq_lowercase_iff rfl rfl

end Table

namespace Engine

variable {m : Type → Type} [Monad m] [LawfulMonad m]

/-- A variable is found under every name with the same lowercase form as the one it was given, if this has
an uppercase character or is lowercase itself. Else a formula does not see what was given. -/
theorem fst_evaluateText_set (e : Engine m) (t : Table) {name other : String} {v : Float}
    (hother : IsName other.toList) (hcase : Text.lowercase other = Text.lowercase name)
    (hv : v.isFinite = true) :
    Prod.fst <$> e.evaluateText (t.set name v).source other =
      pure (.ok (if name.toList.any Text.isUppercase = true ∨ Text.lowercase name = name then v
        else Signal.settle (t.lookup (Text.lowercase name)))) := by
  rw [fst_evaluateText_name e _ hother, hcase, Table.source, Table.lookup_set_lowercase, map_pure]
  have hsettle : Signal.settle v = v := if_pos hv
  rw [apply_ite Signal.settle, hsettle]

theorem fst_evaluateText_set_capital :
    Prod.fst <$> (ofDialect Dialect.empty).evaluateText (Table.empty.set "Flow.É" 1.5).source
      "FLOW.é" = (pure (.ok 1.5) : Id (Except FormulaError Float)) := by
  have hother : IsName "FLOW.é".toList := by decide
  have hcase : Text.lowercase "FLOW.é" = Text.lowercase "Flow.É" := by decide
  rw [fst_evaluateText_set _ _ hother hcase (by decide), if_pos (.inl (by decide))]

/-- A titlecase letter is not uppercase and yet has a lowercase form. -/
theorem fst_evaluateText_set_titlecase : IsName "ǅ".toList ∧ (1 : Float).isFinite = true ∧
    Prod.fst <$> (ofDialect Dialect.empty).evaluateText (Table.empty.set "ǅ" 1).source "ǅ" ≠
      (pure (.ok 1) : Id (Except FormulaError Float)) := by
  have hname : IsName "ǅ".toList := by decide
  have hfold : ¬ ("ǅ".toList.any Text.isUppercase = true ∨ Text.lowercase "ǅ" = "ǅ") := by decide
  refine ⟨hname, by decide, ?_⟩
  rw [fst_evaluateText_name _ _ hname, Table.source, Table.lookup_set_lowercase, if_neg hfold, map_pure]
  intro h
  have hsignal : Signal.settle (Table.empty.lookup (Text.lowercase "ǅ")) ≠ 1 := by decide
  exact hsignal (Except.ok.inj h)

end Engine
end Gauge
