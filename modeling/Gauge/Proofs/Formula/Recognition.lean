import Gauge.Proofs.Formula.Completeness
import Gauge.Proofs.Formula.Soundness

/-! # Recognition

The assembler takes exactly the tokens that spell an expression, and lists that expression. Offsets have
no part in it.
-/
namespace Gauge

namespace Assembler

/-- What a new assembler makes of tokens up to their end spells an expression. -/
theorem derives_of_pushAll {ts : List Located} {a : Assembler} {f : Formula}
    (ha : pushAll {} ts = .ok a) (hf : a.finish = .ok f) :
    ∃ e, Derives 12 (ts.map Located.token) e ∧ f.instructions = e.instructions :=
  derives_of_finish (reads_pushAll reads_start ha) hf

theorem pushAll_finish_of_derives {ts : List Located} {e : Expr}
    (h : Derives 12 (ts.map Located.token) e) :
    ∃ a f, pushAll {} ts = .ok a ∧ a.finish = .ok f ∧ f.instructions = e.instructions := by
  have hready : Ready [] [] {} := ⟨rfl, rfl, rfl, rfl⟩
  obtain ⟨a, ha, hh⟩ := pushAll_derives h ts {} [] [] rfl hready trivial
  obtain ⟨f, hf, hi⟩ := hh.finish
  exact ⟨a, f, ha, hf, hi⟩

/-- Tokens are taken one by one and end in a formula exactly when the grammar derives them, and then the
instructions are the listing of the tree. -/
theorem assembles_iff_derives (ts : List Located) (p : List Token) :
    (∃ a f, pushAll {} ts = .ok a ∧ a.finish = .ok f ∧ f.instructions = p) ↔
      ∃ e, Derives 12 (ts.map Located.token) e ∧ p = e.instructions := by
  constructor
  · rintro ⟨a, f, ha, hf, rfl⟩
    exact derives_of_pushAll ha hf
  · rintro ⟨e, he, rfl⟩
    exact pushAll_finish_of_derives he

end Assembler

namespace Formula

/-- What a text that has a formula goes through. -/
theorem exists_finish_of_parse {text : String} {f : Formula} (h : parse text = .ok f) :
    ∃ a g, Assembler.pushAll {} (Scan.ofString text).tokens = .ok a ∧
      (Scan.ofString text).failure = none ∧ a.finish = .ok g ∧ f.instructions = g.instructions := by
  unfold parse at h
  cases ha : Assembler.pushAll {} (Scan.ofString text).tokens with
  | error refusal => simp only [ha] at h; cases h
  | ok a =>
    simp only [ha] at h
    cases hs : (Scan.ofString text).failure with
    | some e => rw [hs] at h; cases h
    | none =>
      rw [hs] at h
      cases hf : a.finish with
      | error e => rw [hf] at h; cases h
      | ok g =>
        rw [hf] at h
        cases h
        exact ⟨a, g, rfl, rfl, hf, rfl⟩

/-- The formula of a text lists an expression that its tokens spell. -/
theorem derives_of_parse {text : String} {f : Formula} (h : parse text = .ok f) :
    ∃ e, Derives 12 ((Scan.ofString text).tokens.map Located.token) e ∧
      f.instructions = e.instructions := by
  obtain ⟨a, g, ha, -, hg, hinstructions⟩ := exists_finish_of_parse h
  rw [hinstructions]
  exact Assembler.derives_of_pushAll ha hg

end Formula
end Gauge
