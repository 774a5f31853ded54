import Gauge.Proofs.Formula.Grammar
import Gauge.Proofs.Machine.Stacks
import Gauge.Proofs.Signal.Missing

/-! # The meaning of an expression

An expression is computed from its parts, each of them once and from left to right; of a conditional all
three are computed. A machine that runs the listing of an expression does the same in the same order,
whatever effects sources and meanings have.
-/
namespace Gauge

namespace Expr

variable {m : Type → Type} [Monad m]

/-- A signal as it enters a computation. What is infinite or no number becomes the quotient of zeros, which is
no number. -/
def entered (v : Float) : Float := if v.isNaN || v.isInf then 0 / 0 else v

/-- The answer of a meaning as a signal; where there is no meaning it is no number. -/
def respond (meaning : Option (m Float)) : m Float :=
  match meaning with
  | some x => entered <$> x
  | none => pure (0 / 0)

mutual

/-- The signal of an expression. A conditional has that of its last part where the condition is zero or no
number. -/
def eval (d : Dialect m) (source : Source m) : Expr → m Float
  | .number v => pure (entered v)
  | .identifier name => entered <$> source name
  | .unary op e => do
    let v ← e.eval d source
    respond ((d.unary op).map (· v))
  | .binary op l r => do
    let v ← l.eval d source
    let w ← r.eval d source
    respond ((d.binary op).map (· v w))
  | .call name es => do
    let vs ← evalAll d source es
    respond ((d.function? name).map (· vs))
  | .choice c t e => do
    let v ← c.eval d source
    let w ← t.eval d source
    let x ← e.eval d source
    pure (if v == 0 || v.isNaN then x else w)

def evalAll (d : Dialect m) (source : Source m) : List Expr → m (List Float)
  | [] => pure []
  | e :: es => do
    let v ← e.eval d source
    let vs ← evalAll d source es
    pure (v :: vs)

end

theorem entered_eq_settle : entered = Signal.settle := funext fun v => (Signal.settle_eq v).symm

theorem respond_some (x : m Float) : respond (some x) = Signal.settle <$> x := by
  rw [respond, entered_eq_settle]

theorem ite_holds (v w x : Float) :
    (if Signal.holds v then w else x) = if v == 0 || v.isNaN then x else w := by
  rw [Signal.holds_eq]
  cases v == 0 || v.isNaN with
  | true => rfl
  | false => rfl

variable [LawfulMonad m] (d : Dialect m) (source : Source m)

theorem settle_answer (meaning : Option (m Float)) :
    Signal.settle <$> Machine.answer meaning = respond meaning := by
  cases meaning with
  | none => exact map_pure _ _
  | some x =>
    rw [respond_some]
    rfl

theorem entered_respond (meaning : Option (m Float)) : entered <$> respond meaning = respond meaning := by
  rw [← settle_answer, entered_eq_settle]
  simp

/-- The signal of an expression is never infinite. -/
theorem entered_eval (e : Expr) : entered <$> e.eval d source = e.eval d source := by
  match e with
  | .number v => simp [eval, entered_eq_settle]
  | .identifier name => simp [eval, entered_eq_settle]
  | .unary op e => simp [eval, entered_respond]
  | .binary op l r => simp [eval, entered_respond]
  | .call name es => simp [eval, entered_respond]
  | .choice c t e =>
    have h : entered <$> (choice c t e).eval d source = (do
        let v ← c.eval d source
        let w ← entered <$> t.eval d source
        let x ← entered <$> e.eval d source
        pure (if v == 0 || v.isNaN then x else w)) := by
      simp only [eval, map_bind, map_pure, bind_map_left, apply_ite entered]
    rw [h, entered_eval t, entered_eval e, eval]

end Expr

namespace Stacks

variable {m : Type → Type} [Monad m] (d : Dialect m) (source : Source m)

def load (s : Stacks) (vs : List Float) : Stacks := { s with signals := vs.reverse ++ s.signals }

/-- Between the two halves of a conditional its middle part stays only if the condition holds. -/
def choose (s : Stacks) (holds : Bool) (w : Float) : Stacks :=
  { s with
    signals := if holds then w :: s.signals else s.signals
    conditions := holds :: s.conditions }

theorem step_choose {index : Nat} (v w : Float) (s : Stacks) :
    ((s.load [v]).load [w]).step d source index (.operator .choose) =
      pure (.ok (), s.choose (Signal.holds v) w) := rfl

theorem step_otherwise {index : Nat} (holds : Bool) (w x : Float) (s : Stacks) :
    ((s.choose holds w).load [x]).step d source index (.operator .otherwise) =
      pure (.ok (), s.load [if holds then w else x]) := by
  cases holds with
  | true => rfl
  | false => rfl

variable [LawfulMonad m] {d source}

/-- An instruction that computes a signal from what it finds. -/
theorem run_cons {index : Nat} {i : Token} {s : Stacks} {x : m Float} {next : Float → Stacks}
    (h : s.step d source index i = x >>= fun v => pure (.ok (), next v)) (rest : List Token) :
    s.run d source index (i :: rest) = x >>= fun v => (next v).run d source (index + 1) rest := by
  rw [run, h, bind_assoc]
  simp only [pure_bind]

theorem run_cons_pure {index : Nat} {i : Token} {s next : Stacks}
    (h : s.step d source index i = pure (.ok (), next)) (rest : List Token) :
    s.run d source index (i :: rest) = next.run d source (index + 1) rest := by
  rw [run, h, pure_bind]

variable (d source)

theorem step_unary {index : Nat} (op : UnaryOp) (v : Float) (s : Stacks) :
    (s.load [v]).step d source index (.operator (.unary op)) =
      Expr.respond ((d.unary op).map (· v)) >>= fun w => pure (.ok (), s.load [w]) := by
  rw [← Expr.settle_answer, bind_map_left]
  rfl

theorem step_binary {index : Nat} (op : BinaryOp) (v w : Float) (s : Stacks) :
    ((s.load [v]).load [w]).step d source index (.operator (.binary op)) =
      Expr.respond ((d.binary op).map (· v w)) >>= fun x => pure (.ok (), s.load [x]) := by
  rw [← Expr.settle_answer, bind_map_left]
  rfl

/-- A call takes the arguments that were put above its marker, in their order. -/
theorem step_call {index : Nat} (name : String) (vs : List Float) (s : Stacks) :
    ({ s with markers := s.signals.length :: s.markers }.load vs).step d source index (.call name) =
      Expr.respond ((d.function? name).map (· vs)) >>= fun w => pure (.ok (), s.load [w]) := by
  have hlen : (vs.reverse ++ s.signals).length - s.signals.length = vs.length := by simp
  have hmeets : ¬ (vs.reverse ++ s.signals).length < s.signals.length := by simp
  rw [← Expr.settle_answer, bind_map_left]
  simp only [step, call, load, hlen, if_neg hmeets]
  rw [List.take_left' (by simp), List.drop_left' (by simp), List.reverse_reverse]
  rfl

mutual

/-- A listing computes the signal of its expression and puts it on top of what was there. -/
theorem run_instructions (e : Expr) (index : Nat) (rest : List Token) (s : Stacks) :
    s.run d source index (e.instructions ++ rest) = e.eval d source >>= fun v =>
      (s.load [v]).run d source (index + e.instructions.length) rest := by
  match e with
  | .number v => simp [Expr.instructions, Expr.eval, Expr.entered_eq_settle, run, step, push, load]
  | .identifier name => simp [Expr.instructions, Expr.eval, Expr.entered_eq_settle, run, step, push, load]
  | .unary op e =>
    rw [Expr.instructions, List.append_assoc, run_instructions e, Expr.eval, bind_assoc]
    refine bind_congr fun v => ?_
    rw [List.singleton_append, run_cons (step_unary d source op v s), List.length_append, Nat.add_assoc]
    rfl
  | .binary op l r =>
    rw [Expr.instructions, List.append_assoc, run_instructions l, Expr.eval, bind_assoc]
    refine bind_congr fun v => ?_
    rw [List.append_assoc, run_instructions r, bind_assoc]
    refine bind_congr fun w => ?_
    rw [List.singleton_append, run_cons (step_binary d source op v w s)]
    simp only [List.length_append, Nat.add_assoc]
    rfl
  | .call name es =>
    have hlen : index + (Expr.call name es).instructions.length =
        index + 1 + (Expr.instructionsOf es).length + 1 := by
      simp only [Expr.instructions, List.length_cons, List.length_append, List.length_nil]
      omega
    rw [hlen, Expr.instructions, List.cons_append, List.append_assoc, run_cons_pure rfl,
      run_instructionsOf es, Expr.eval, bind_assoc]
    refine bind_congr fun vs => ?_
    rw [List.singleton_append, run_cons (step_call d source name vs s)]
  | .choice c t e =>
    have hlen : index + (Expr.choice c t e).instructions.length =
        index + c.instructions.length + t.instructions.length + 1 + e.instructions.length + 1 := by
      simp only [Expr.instructions, List.length_cons, List.length_append, List.length_nil]
      omega
    rw [hlen, Expr.instructions]
    simp only [List.append_assoc, List.cons_append, List.nil_append]
    rw [run_instructions c, Expr.eval, bind_assoc]
    refine bind_congr fun v => ?_
    rw [run_instructions t, bind_assoc]
    refine bind_congr fun w => ?_
    rw [run_cons_pure (step_choose d source v w s), run_instructions e, bind_assoc]
    refine bind_congr fun x => ?_
    rw [run_cons_pure (step_otherwise d source (Signal.holds v) w x s), pure_bind, Expr.ite_holds]

theorem run_instructionsOf (es : List Expr) (index : Nat) (rest : List Token) (s : Stacks) :
    s.run d source index (Expr.instructionsOf es ++ rest) = Expr.evalAll d source es >>= fun vs =>
      (s.load vs).run d source (index + (Expr.instructionsOf es).length) rest := by
  match es with
  | [] => simp [Expr.instructionsOf, Expr.evalAll, load]
  | e :: es =>
    rw [Expr.instructionsOf, List.append_assoc, run_instructions e, Expr.evalAll, bind_assoc]
    refine bind_congr fun v => ?_
    rw [run_instructionsOf es, bind_assoc]
    refine bind_congr fun vs => ?_
    rw [pure_bind, List.length_append, Nat.add_assoc]
    simp [load]

end

/-- On empty stacks a listing leaves nothing but the signal of its expression. -/
theorem evaluate_listing (e : Expr) :
    evaluate d source e.instructions = (fun v => (.ok v, empty)) <$> e.eval d source := by
  have hrun := run_instructions d source e 0 [] empty
  rw [List.append_nil] at hrun
  rw [evaluate, hrun, bind_assoc, ← Expr.entered_eval, bind_map_left, Functor.map_map, ← bind_pure_comp]
  refine bind_congr fun v => ?_
  simp [Expr.entered_eq_settle, run, load, result, empty]

end Stacks
end Gauge
