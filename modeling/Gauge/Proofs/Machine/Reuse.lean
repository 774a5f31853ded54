import Gauge.Proofs.Machine.Evaluation

/-! # Machines in use again

A machine keeps its stacks and its latest arguments from one formula to the next, and a fault leaves on
them what the instructions before it have put there. None of it shows in a later answer.
-/
namespace Gauge

structure Task (m : Type → Type) where
  dialect : Dialect m
  source : Source m
  formula : Formula

namespace Machine

variable {m : Type → Type} [Monad m]

def evaluateAll : List (Task m) → Machine → m (List (Except Fault Float) × Machine)
  | [], s => pure ([], s)
  | t :: rest, s => do
    let (answer, s) ← s.evaluate t.dialect t.source t.formula
    let (answers, s) ← evaluateAll rest s
    pure (answer :: answers, s)

variable [LawfulMonad m]

/-- Two machines answer alike whatever their stacks hold. -/
theorem fst_evaluate_congr (d : Dialect m) (source : Source m) (f : Formula) (s t : Machine) :
    Prod.fst <$> s.evaluate d source f = Prod.fst <$> t.evaluate d source f := by
  rw [fst_evaluate, fst_evaluate]

/-- What goes on in the same way from every machine goes on as after an evaluation by a new one. -/
theorem evaluate_bind {β : Type} (d : Dialect m) (source : Source m) (f : Formula) (s : Machine)
    {next : Except Fault Float × Machine → m β} {next' : Except Fault Float → m β}
    (h : ∀ answer t, next (answer, t) = next' answer) :
    s.evaluate d source f >>= next = (Prod.fst <$> fresh.evaluate d source f) >>= next' := by
  rw [fst_evaluate_congr d source f fresh s, bind_map_left]
  exact bind_congr fun r => h r.1 r.2

/-- In any sequence of tasks, with faulty instructions among them, each is answered as by a new machine and
has the same effects. -/
theorem fst_evaluateAll_eq_fresh (tasks : List (Task m)) (s : Machine) :
    Prod.fst <$> evaluateAll tasks s =
      tasks.mapM fun t => Prod.fst <$> fresh.evaluate t.dialect t.source t.formula := by
  induction tasks generalizing s with
  | nil => simp [evaluateAll]
  | cons t rest ih =>
    rw [evaluateAll, List.mapM_cons, map_bind]
    refine evaluate_bind _ _ _ s fun answer next => ?_
    -- The rest is answered alike whatever machine this task leaves behind.
    rw [← ih next, map_bind, bind_map_left]
    exact bind_congr fun r => map_pure _ _

/-- A marker and a condition without their other halves are left behind, and the instructions that would
take them fail like the first time. -/
theorem fst_evaluateAll_eq_fresh_leftovers :
    (Prod.fst <$> evaluateAll
      [⟨tracing, tracingSource, .ofInstructions [.openParen]⟩,
        ⟨tracing, tracingSource, .ofInstructions [.call "count"]⟩,
        ⟨tracing, tracingSource, .ofInstructions [.identifier "a", .number 2, .operator .choose]⟩,
        ⟨tracing, tracingSource, .ofInstructions [.number 3, .operator .otherwise]⟩,
        ⟨tracing, tracingSource, .ofInstructions [.openParen, .identifier "b", .number 4, .call "count"]⟩]
      fresh).run [] =
      ([.error (.unbalanced 0), .error (.noMarker 0), .ok 2, .error (.noCondition 1), .ok 2],
        ["a", "b", "count"]) := by
  rw [fst_evaluateAll_eq_fresh]
  rfl

end Machine
end Gauge
