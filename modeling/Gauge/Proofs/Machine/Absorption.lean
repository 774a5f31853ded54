import Gauge.Command.Report
import Gauge.Proofs.Dialect.Strictness
import Gauge.Proofs.Formula.Parts
import Gauge.Proofs.Machine.Evaluation

/-! # Missing parts

A part of an expression that a path leads to is computed exactly once. In a strict dialect what is computed
from a missing signal of such a part is missing as well, whatever effects sources and meanings have. Only a
conditional can drop a missing signal.
-/
namespace Gauge

namespace Expr

variable {m : Type → Type} [Monad m]

theorem evalAll_append [LawfulMonad m] (d : Dialect m) (source : Source m) (es fs : List Expr) :
    evalAll d source (es ++ fs) = (do
      let us ← evalAll d source es
      let ws ← evalAll d source fs
      pure (us ++ ws)) := by
  induction es with
  | nil => simp [evalAll]
  | cons e es ih => simp [evalAll, ih]

/-- How a run passes through a part of an expression: what it computes before, and what it makes
afterwards of the signal of the part. -/
structure Passage (d : Dialect m) (source : Source m) (around : Expr → Expr) where
  Before : Type
  before : m Before
  after : Before → Float → m Float
  eval_around : ∀ e : Expr, (around e).eval d source = do
    let b ← before
    let v ← e.eval d source
    after b v

def Passage.Strict {d : Dialect m} {source : Source m} {around : Expr → Expr}
    (p : Passage d source around) : Prop :=
  ∀ b v, v.isNaN = true → Signal.AlwaysMissing (p.after b v)

variable [LawfulMonad m] (d : Dialect m) (source : Source m)

def Frame.passage : (frame : Frame) → Passage d source frame.plug
  | .unary op =>
    { Before := Unit
      before := pure ()
      after := fun _ v => respond ((d.unary op).map (· v))
      eval_around := fun e => by simp [plug, eval] }
  | .left op r =>
    { Before := Unit
      before := pure ()
      after := fun _ v => do
        let w ← r.eval d source
        respond ((d.binary op).map (· v w))
      eval_around := fun e => by simp [plug, eval] }
  | .right op l =>
    { Before := Float
      before := l.eval d source
      after := fun v w => respond ((d.binary op).map (· v w))
      eval_around := fun e => by simp [plug, eval] }
  | .argument name es fs =>
    { Before := List Float
      before := evalAll d source es
      after := fun us v => do
        let ws ← evalAll d source fs
        respond ((d.function? name).map (· (us ++ v :: ws)))
      eval_around := fun e => by simp [plug, eval, evalAll_append, evalAll] }

/-- The passage along a path goes in through its frames and comes out in reverse order. -/
def passage : (path : List Frame) → Passage d source (plugAll path)
  | [] =>
    { Before := Unit
      before := pure ()
      after := fun _ v => pure v
      eval_around := fun e => by simp [plugAll] }
  | frame :: path =>
    let outer := frame.passage d source
    let inner := passage path
    { Before := outer.Before × inner.Before
      before := do
        let b ← outer.before
        let c ← inner.before
        pure (b, c)
      after := fun b v => do
        let w ← inner.after b.2 v
        outer.after b.1 w
      eval_around := fun e => by
        simp only [plugAll, outer.eval_around, inner.eval_around, bind_assoc, pure_bind] }

variable {d source}

/-- An answer is missing when its meaning answers so, and when there is no meaning. -/
theorem alwaysMissing_respond {α : Type} {meaning : Option α} {apply : α → m Float}
    (h : ∀ f, meaning = some f → Signal.AlwaysMissing (apply f)) :
    Signal.AlwaysMissing (respond (meaning.map apply)) := by
  cases meaning with
  | none => exact .pure Signal.isNaN_missing
  | some f =>
    rw [Option.map_some, respond_some]
    exact (h f rfl).map Signal.isNaN_settle

/-- In a strict dialect an operator or call is missing when the part below it is. -/
theorem Frame.strict_passage (hd : d.Strict) (frame : Frame) : (frame.passage d source).Strict := by
  cases frame with
  | unary op =>
    intro _ v hv
    exact alwaysMissing_respond fun f hf => hd.unary op f v hf hv
  | left op r =>
    intro _ v hv
    refine SatisfiesM.trivial.bind fun w _ => ?_
    exact alwaysMissing_respond fun f hf => hd.binary op f v w hf (.inl hv)
  | right op l =>
    intro (v : Float) w hw
    exact alwaysMissing_respond fun f hf => hd.binary op f v w hf (.inr hw)
  | argument name es fs =>
    intro (us : List Float) v hv
    refine SatisfiesM.trivial.bind fun ws _ => ?_
    have hmissing : Signal.anyMissing (us ++ v :: ws) = true := by
      rw [Signal.anyMissing_append, Signal.anyMissing_cons, hv, Bool.true_or, Bool.or_true]
    exact alwaysMissing_respond fun f hf => hd.function name f _ hf hmissing

theorem strict_passage (hd : d.Strict) (path : List Frame) : (passage d source path).Strict := by
  induction path with
  | nil => exact fun _ _ hv => .pure hv
  | cons frame path ih =>
    intro b v hv
    exact (ih b.2 v hv).bind fun w hw => frame.strict_passage hd b.1 w hw

theorem alwaysMissing_eval_call {name : String} (hname : d.function? name = none) (es : List Expr) :
    Signal.AlwaysMissing ((call name es).eval d source) := by
  rw [eval, hname]
  exact SatisfiesM.trivial.bind fun vs _ => .pure Signal.isNaN_missing

end Expr

theorem CheckReport.exists_unknown_call {m : Type → Type} {d : Dialect m} {text : String} {f : Formula}
    {r : CheckReport} (hf : Formula.parse text = .ok f) (hr : CheckReport.build d text = .ok r)
    (hunknown : r.unknownFunctions ≠ []) :
    ∃ name, .call name ∈ f.instructions ∧ d.function? name = none := by
  rw [build, hf] at hr
  cases hr
  obtain ⟨name, hname⟩ := List.exists_mem_of_ne_nil _ hunknown
  obtain ⟨hmem, hnone⟩ := List.mem_filter.mp hname
  exact ⟨name, Formula.mem_functionNames.mp hmem, Option.isNone_iff_eq_none.mp hnone⟩

namespace Machine

open Gauge.Expr

variable {m : Type → Type} [Monad m] [LawfulMonad m]

/-- What a machine answers on an expression passes through each part that a path leads to. -/
theorem fst_evaluate_plugAll {d : Dialect m} {source : Source m} (path : List Frame)
    (p : Passage d source (plugAll path)) {f : Formula} {e : Expr}
    (hf : f.instructions = (plugAll path e).instructions) (s : Machine) :
    Prod.fst <$> s.evaluate d source f = (do
      let b ← p.before
      let v ← e.eval d source
      Except.ok <$> p.after b v) := by
  rw [fst_evaluate_listing d source hf, p.eval_around]
  simp only [map_bind]

/-- The standard dialect absorbs no missing signal. In an expression, a part under operators and arguments
of calls only is computed once, and where its signal is missing so is the answer. A formula without a
conditional has a missing answer if its report names an unknown function. -/
theorem isNaN_evaluate_standard (fraction : m Float) (source : Source m) :
    (∀ path : List Frame, ∃ p : Passage (.standard fraction) source (plugAll path),
      (∀ e text s,
        Prod.fst <$> evaluate (.standard fraction) source ⟨(plugAll path e).instructions, text⟩ s = (do
          let b ← p.before
          let v ← e.eval (.standard fraction) source
          Except.ok <$> p.after b v)) ∧
      ∀ b v, v.isNaN = true → Signal.AlwaysMissing (p.after b v)) ∧
    ∀ text f r, Formula.parse text = .ok f → .operator .choose ∉ f.instructions →
      CheckReport.build (Dialect.standard fraction) text = .ok r → r.unknownFunctions ≠ [] →
      ∀ s : Machine, SatisfiesM (fun answer => ∃ w, answer = .ok w ∧ w.isNaN = true)
        (Prod.fst <$> s.evaluate (.standard fraction) source f) := by
  have hd := Dialect.strict_standard fraction
  constructor
  · intro path
    refine ⟨passage _ source path, fun e text s => ?_, strict_passage hd path⟩
    exact fst_evaluate_plugAll path (passage _ source path) rfl s
  · intro text f r hf hchoose hr hunknown s
    -- A path leads to the unknown call, whose signal is missing whatever its arguments are.
    obtain ⟨name, hcall, hname⟩ := CheckReport.exists_unknown_call hf hr hunknown
    obtain ⟨e, -, he⟩ := Formula.derives_of_parse hf
    rw [he] at hchoose hcall
    obtain ⟨path, es, rfl⟩ := exists_path_of_call e hchoose hcall
    rw [fst_evaluate_plugAll path (passage _ source path) he s]
    refine SatisfiesM.trivial.bind fun b _ => (alwaysMissing_eval_call hname es).bind fun v hv => ?_
    exact (strict_passage hd path b v hv).map fun hw => ⟨_, rfl, hw⟩

def tracingFraction : StateM (List String) Float := do
  modify (· ++ ["rand"])
  pure 0.5

/-- A missing operand of the sum in `max(a, _ + b)`, and a call of an unknown function in its place. -/
theorem isNaN_evaluate_standard_max :
    (∃ p : Passage (.standard tracingFraction) tracingSource
        (plugAll [.argument "max" [.identifier "a"] [], .left .add (.identifier "b")]),
      ∀ b, Signal.AlwaysMissing (p.after b Signal.missing)) ∧
    ∃ f, Formula.parse "max(a, nosuch(x) + b)" = .ok f ∧
      ∀ s : Machine, SatisfiesM (fun answer => ∃ w, answer = .ok w ∧ w.isNaN = true)
        (Prod.fst <$> s.evaluate (.standard tracingFraction) tracingSource f) := by
  have hstandard := isNaN_evaluate_standard tracingFraction tracingSource
  constructor
  · obtain ⟨p, -, hp⟩ :=
      hstandard.1 [.argument "max" [.identifier "a"] [], .left .add (.identifier "b")]
    exact ⟨p, fun b => hp b _ Signal.isNaN_missing⟩
  · obtain ⟨f, hf, hchoose, hcall⟩ : ∃ f, Formula.parse "max(a, nosuch(x) + b)" = .ok f ∧
        .operator .choose ∉ f.instructions ∧ f.functionNames = ["nosuch", "max"] :=
      ⟨⟨[.openParen, .identifier "a", .openParen, .identifier "x", .call "nosuch", .identifier "b",
        .operator (.binary .add), .call "max"], _⟩, rfl, by decide, by decide⟩
    have hr : CheckReport.build (.standard tracingFraction) "max(a, nosuch(x) + b)" =
        .ok (.ofFormula (.standard tracingFraction) f) := by
      rw [CheckReport.build, hf]
      rfl
    have hunknown :
        (CheckReport.ofFormula (.standard tracingFraction) f).unknownFunctions ≠ [] := by
      have hnosuch : (["nosuch", "max"].filter fun name =>
          ((Dialect.standard tracingFraction).function? name).isNone) ≠ [] := by decide +kernel
      simpa only [CheckReport.ofFormula, hcall] using hnosuch
    exact ⟨f, hf, hstandard.2 _ f _ hf hchoose hr hunknown⟩

end Machine
end Gauge
