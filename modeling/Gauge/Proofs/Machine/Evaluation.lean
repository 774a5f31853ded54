import Gauge.Proofs.Formula.Recognition
import Gauge.Proofs.Machine.Meaning

/-! # Evaluation

What a machine answers, whatever it did before: on the listing of an expression its signal, and on the
formula of a text always a signal, with nothing left on its stacks.
-/
namespace Gauge.Machine

def tracing : Dialect (StateM (List String)) :=
  let negation : Dialect (StateM (List String)) := Dialect.empty.withUnary .minus fun v => do
    modify (· ++ ["-"])
    pure (-v)
  negation.withFunction "count" fun vs => do
    modify (· ++ ["count"])
    pure vs.length.toFloat

def tracingSource : Source (StateM (List String)) := fun name => do
  modify (· ++ [name])
  pure 1

variable {m : Type → Type} [Monad m] [LawfulMonad m] (d : Dialect m) (source : Source m)

theorem settle_result (s : Machine) : s.result.1.map Signal.settle = s.result.1 := by
  unfold result
  split
  · cases s.signals.popBack? with
    | none => rfl
    | some r => exact congrArg Except.ok (Signal.settle_settle r.1)
  · rfl

/-- An answer is settled on any instructions: its signal is finite or missing. -/
theorem settle_fst_evaluate (f : Formula) (s : Machine) :
    Except.map Signal.settle <$> (Prod.fst <$> s.evaluate d source f) =
      Prod.fst <$> s.evaluate d source f := by
  simp only [evaluate, map_bind]
  refine bind_congr fun r => ?_
  obtain ⟨outcome, next⟩ := r
  cases outcome with
  | error fault => simp only [map_pure, Except.map]
  | ok _ => simp only [map_pure, settle_result]

/-- A machine that runs a listing has the effects of its expression and ends in its signal, on empty
stacks. -/
theorem seen_evaluate_listing {f : Formula} {e : Expr} (h : f.instructions = e.instructions)
    (s : Machine) :
    seen <$> s.evaluate d source f = (fun v => (.ok v, .empty)) <$> e.eval d source := by
  rw [seen_evaluate, h, Stacks.evaluate_listing]

/-- What a machine answers on a formula is the signal of the expression that the formula lists. -/
theorem fst_evaluate_listing {f : Formula} {e : Expr} (h : f.instructions = e.instructions)
    (s : Machine) : Prod.fst <$> s.evaluate d source f = Except.ok <$> e.eval d source := by
  rw [fst_evaluate, h, Stacks.evaluate_listing, Functor.map_map]

/-- A machine answers on a listing as the expression does, in every monad and so with the same effects in
the same order. -/
theorem evaluate_eq_eval (e : Expr) (text : String) (s : Machine) :
    Prod.fst <$> s.evaluate d source ⟨e.instructions, text⟩ = Except.ok <$> e.eval d source := by
  have hseen := seen_evaluate_listing d source (f := ⟨e.instructions, text⟩) rfl s
  have hfst : Prod.fst <$> s.evaluate d source ⟨e.instructions, text⟩ =
      Prod.fst <$> (seen <$> s.evaluate d source ⟨e.instructions, text⟩) := by
    rw [Functor.map_map]
    rfl
  rw [hfst, hseen, Functor.map_map]

/-- In `a ? count(2, b) : -c` both ends of the conditional are computed, and the middle counts. The last part counts
where the condition is a zero of either sign, a call without meaning or an infinity. A call without meaning asks for
its arguments all the same. -/
theorem evaluate_eq_eval_tracing :
    let answer (e : Expr) : Id (Except Fault Float × List String) :=
      (Prod.fst <$> fresh.evaluate tracing tracingSource ⟨e.instructions, ""⟩).run []
    answer (.choice (.identifier "a") (.call "count" [.number 2, .identifier "b"])
        (.unary .minus (.identifier "c"))) = (.ok 2, ["a", "b", "count", "c", "-"]) ∧
      answer (.choice (.number 0) (.identifier "a")
        (.choice (.unary .minus (.number 0)) (.identifier "b")
          (.choice (.call "gap" [.identifier "c"]) (.number 2)
            (.choice (.number (1 / 0)) (.identifier "d") (.number 3))))) =
        (.ok 3, ["a", "-", "b", "c", "d"]) ∧
      answer (.call "gap" [.identifier "c"]) = (.ok (0 / 0), ["c"]) := by
  intro answer
  have hanswer (e : Expr) : answer e = (Except.ok <$> e.eval tracing tracingSource).run [] := by
    rw [← evaluate_eq_eval tracing tracingSource e "" fresh]
  rw [hanswer, hanswer, hanswer]
  exact ⟨rfl, rfl, rfl⟩

/-- A formula that was parsed meets no fault and leaves no stack with anything on it. -/
theorem evaluate_parsed {text : String} {f : Formula} (h : Formula.parse text = .ok f) :
    ∃ value : m Float, ∀ s : Machine,
      (fun r => (r.1, r.2.signals.toList, r.2.markers.toList, r.2.conditions.toList)) <$>
          s.evaluate d source f =
        (fun v => (.ok v, [], [], [])) <$> value := by
  obtain ⟨e, -, he⟩ := Formula.derives_of_parse h
  refine ⟨e.eval d source, fun s => ?_⟩
  have hs := congrArg (fun x => (fun r : Except Fault Float × Stacks =>
    (r.1, r.2.signals.reverse, r.2.markers.reverse, r.2.conditions.reverse)) <$> x)
    (seen_evaluate_listing d source he s)
  simpa only [Functor.map_map, seen, view, Stacks.empty, List.reverse_reverse, List.reverse_nil] using hs

theorem evaluate_parsed_tracing : ∃ f, Formula.parse "count(a ? b : -c, d)" = .ok f ∧
    ∃ value : StateM (List String) Float, ∀ s : Machine,
      (fun r => (r.1, r.2.signals.toList, r.2.markers.toList, r.2.conditions.toList)) <$>
          s.evaluate tracing tracingSource f =
        (fun v => (.ok v, [], [], [])) <$> value := by
  obtain ⟨f, hf⟩ : ∃ f, Formula.parse "count(a ? b : -c, d)" = .ok f := ⟨_, rfl⟩
  exact ⟨f, hf, evaluate_parsed tracing tracingSource hf⟩

end Gauge.Machine
