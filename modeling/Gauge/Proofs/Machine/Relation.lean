import Gauge.Proofs.Dialect.Strictness
import Gauge.Proofs.Formula.Parts
import Gauge.Proofs.Machine.Reuse

/-! # Evaluations side by side

The same instructions can be run twice, against two sources and two dialects and even in two monads. If what
is answered to each instruction is related, then so are the two runs. With equality for the relation this
says that an evaluation depends on nothing but what its formula mentions.
-/
namespace Gauge

/-- A relation between the programs of two monads that is kept when they go on. -/
structure ProgramRelation (m n : Type → Type) [Monad m] [Monad n] where
  Rel {α : Type} : m α → n α → Prop
  pure {α : Type} (a : α) : Rel (pure a) (pure a)
  bind {α β : Type} {x : m α} {y : n α} {f : α → m β} {g : α → n β} :
    Rel x y → (∀ a, Rel (f a) (g a)) → Rel (x >>= f) (y >>= g)

namespace ProgramRelation

variable {m n : Type → Type} [Monad m] [Monad n]

def equality (m : Type → Type) [Monad m] : ProgramRelation m m where
  Rel x y := x = y
  pure _ := rfl
  bind hx hf := by
    obtain rfl := hx
    obtain rfl := funext hf
    rfl

/-- What two dialects and two sources answer to an instruction, whatever it is applied to. -/
def Agree (r : ProgramRelation m n) (d : Dialect m) (d' : Dialect n) (source : Source m)
    (source' : Source n) : Token → Prop
  | .identifier name => r.Rel (source name) (source' name)
  | .call name => ∀ vs, r.Rel (Machine.answer ((d.function? name).map (· vs)))
      (Machine.answer ((d'.function? name).map (· vs)))
  | .operator (.unary op) => ∀ v, r.Rel (Machine.answer ((d.unary op).map (· v)))
      (Machine.answer ((d'.unary op).map (· v)))
  | .operator (.binary op) => ∀ v w, r.Rel (Machine.answer ((d.binary op).map (· v w)))
      (Machine.answer ((d'.binary op).map (· v w)))
  | _ => True

variable (r : ProgramRelation m n) {d : Dialect m} {d' : Dialect n} {source : Source m}
  {source' : Source n}

theorem call (index : Nat) {name : String} (h : r.Agree d d' source source' (.call name)) (s : Machine) :
    r.Rel (s.call d index name) (s.call d' index name) := by
  unfold Machine.call
  cases s.markers.popBack? with
  | none => exact r.pure _
  | some top =>
    obtain ⟨height, markers⟩ := top
    by_cases hsize : s.signals.size < height
    · simp only [hsize, if_true]
      exact r.pure _
    · simp only [hsize, if_false]
      exact r.bind (h _) fun v => r.pure _

theorem operate (index : Nat) {op : Operator} (h : r.Agree d d' source source' (.operator op))
    (s : Machine) : r.Rel (s.operate d index op) (s.operate d' index op) := by
  cases op with
  | unary op =>
    simp only [Machine.operate]
    cases s.signals.popBack? with
    | none => exact r.pure _
    | some top => exact r.bind (h _) fun w => r.pure _
  | binary op =>
    simp only [Machine.operate]
    cases s.signals.popBack? with
    | none => exact r.pure _
    | some top =>
      obtain ⟨right, signals⟩ := top
      simp only
      cases signals.popBack? with
      | none => exact r.pure _
      | some next => exact r.bind (h _ _) fun w => r.pure _
  | choose =>
    simp only [Machine.operate]
    cases s.signals.popBack? with
    | none => exact r.pure _
    | some top =>
      obtain ⟨middle, signals⟩ := top
      simp only
      cases signals.popBack? with
      | none => exact r.pure _
      | some next => exact r.pure _
  | otherwise =>
    simp only [Machine.operate]
    cases s.conditions.popBack? with
    | none => exact r.pure _
    | some top =>
      obtain ⟨held, conditions⟩ := top
      cases held with
      | false => exact r.pure _
      | true =>
        simp only
        cases s.signals.popBack? with
        | none => exact r.pure _
        | some last => exact r.pure _

theorem step (index : Nat) {i : Token} (h : r.Agree d d' source source' i) (s : Machine) :
    r.Rel (s.step d source index i) (s.step d' source' index i) := by
  cases i with
  | number v => exact r.pure _
  | identifier name => exact r.bind h fun v => r.pure _
  | call name => exact r.call index h s
  | operator op => exact r.operate index h s
  | openParen => exact r.pure _
  | closeParen | comma => exact r.pure _

theorem run (index : Nat) {p : List Token} (h : ∀ i ∈ p, r.Agree d d' source source' i) (s : Machine) :
    r.Rel (s.run d source index p) (s.run d' source' index p) := by
  induction p generalizing index s with
  | nil => exact r.pure _
  | cons i p ih =>
    obtain ⟨hi, hp⟩ := List.forall_mem_cons.mp h
    rw [Machine.run, Machine.run]
    refine r.bind (r.step index hi s) fun next => ?_
    obtain ⟨outcome, next⟩ := next
    cases outcome with
    | error fault => exact r.pure _
    | ok _ => exact ih (index + 1) hp next

/-- A machine that runs a formula twice does so in related ways, if it gets related answers. -/
theorem evaluate {f : Formula} (h : ∀ i ∈ f.instructions, r.Agree d d' source source' i) (s : Machine) :
    r.Rel (s.evaluate d source f) (s.evaluate d' source' f) := by
  rw [Machine.evaluate, Machine.evaluate]
  refine r.bind (r.run 0 h s.clear) fun next => ?_
  obtain ⟨outcome, next⟩ := next
  cases outcome with
  | error fault => exact r.pure _
  | ok _ => exact r.pure _

/-! ### Dialects -/

/-- Two dialects that answer alike, a missing meaning being one that answers a missing signal. -/
structure Matches (d : Dialect m) (d' : Dialect n) : Prop where
  unary : ∀ op v, r.Rel (Machine.answer ((d.unary op).map (· v))) (Machine.answer ((d'.unary op).map (· v)))
  binary : ∀ op v w, r.Rel (Machine.answer ((d.binary op).map (· v w)))
    (Machine.answer ((d'.binary op).map (· v w)))
  function : ∀ name vs, r.Rel (Machine.answer ((d.function? name).map (· vs)))
    (Machine.answer ((d'.function? name).map (· vs)))

variable {r}

theorem Matches.agree (h : r.Matches d d') (hsource : ∀ name, r.Rel (source name) (source' name))
    (i : Token) : r.Agree d d' source source' i := by
  cases i with
  | identifier name => exact hsource name
  | call name => exact h.function name
  | operator op =>
    cases op with
    | unary op => exact h.unary op
    | binary op => exact h.binary op
    | choose | otherwise => trivial
  | number | openParen | closeParen | comma => trivial

theorem Matches.withFunction (h : r.Matches d d') (name : String) {f : List Float → m Float}
    {f' : List Float → n Float} (hf : ∀ vs, r.Rel (f vs) (f' vs)) :
    r.Matches (d.withFunction name f) (d'.withFunction name f') where
  unary := h.unary
  binary := h.binary
  function := by
    intro key vs
    rw [Dialect.function?_withFunction, Dialect.function?_withFunction]
    by_cases hkey : Text.lowercase name = key
    · rw [if_pos hkey, if_pos hkey]
      exact hf vs
    · rw [if_neg hkey, if_neg hkey]
      exact h.function key vs

theorem matches_operators : r.Matches Dialect.operators Dialect.operators where
  unary op v := r.pure _
  binary op v w := r.pure _
  function name vs := by
    have hnone (m : Type → Type) [Monad m] : (Dialect.operators : Dialect m).function? name = none :=
      Std.TreeMap.getElem?_emptyc
    rw [hnone m, hnone n]
    exact r.pure _

theorem Matches.foldl_withFunction (h : r.Matches d d') (fs : List (String × (List Float → Float))) :
    r.Matches (fs.foldl (fun d f => d.withFunction f.1 fun vs => Pure.pure (f.2 vs)) d)
      (fs.foldl (fun d f => d.withFunction f.1 fun vs => Pure.pure (f.2 vs)) d') := by
  induction fs generalizing d d' with
  | nil => exact h
  | cons f fs ih => exact ih (h.withFunction f.1 fun vs => r.pure _)

theorem rel_random {fraction : m Float} {fraction' : n Float} (h : r.Rel fraction fraction')
    (vs : List Float) : r.Rel (Dialect.random fraction vs) (Dialect.random fraction' vs) := by
  unfold Dialect.random
  split
  · exact r.pure _
  · split
    · exact h
    · split
      · exact r.pure _
      · exact r.bind h fun v => r.pure _
    · exact r.pure _

/-- The standard dialect answers alike wherever its fractions come from. -/
theorem matches_standard {fraction : m Float} {fraction' : n Float} (h : r.Rel fraction fraction') :
    r.Matches (.standard fraction) (.standard fraction') :=
  (matches_operators.foldl_withFunction _).withFunction "rand" (rel_random h)

end ProgramRelation

/-! ### What a formula mentions -/

namespace Formula

theorem mem_variableNames {f : Formula} {name : String} :
    name ∈ f.variableNames ↔ .identifier name ∈ f.instructions := by
  rw [variableNames, mem_firstUses, List.mem_filterMap]
  constructor
  · rintro ⟨i, hi, hname⟩
    cases i with
    | identifier x =>
      cases hname
      exact hi
    | _ => cases hname
  · intro h
    exact ⟨.identifier name, h, rfl⟩

end Formula

namespace Machine

variable {m : Type → Type} [Monad m] [LawfulMonad m]

/-- What the variables, functions and operators of a formula answer settles its evaluation, also one that
ends in a fault. -/
theorem only_mentioned_counts {d d' : Dialect m} {source source' : Source m} {f : Formula}
    (hvariables : ∀ name ∈ f.variableNames, source name = source' name)
    (hfunctions : ∀ name ∈ f.functionNames, d.function? name = d'.function? name)
    (hunary : ∀ op, .operator (.unary op) ∈ f.instructions → d.unary op = d'.unary op)
    (hbinary : ∀ op, .operator (.binary op) ∈ f.instructions → d.binary op = d'.binary op)
    (s t : Machine) :
    Prod.fst <$> s.evaluate d source f = Prod.fst <$> t.evaluate d' source' f := by
  have hagree : ∀ i ∈ f.instructions, (ProgramRelation.equality m).Agree d d' source source' i := by
    intro i hi
    cases i with
    | identifier name => exact hvariables name (Formula.mem_variableNames.mpr hi)
    | call name =>
      intro vs
      rw [hfunctions name (Formula.mem_functionNames.mpr hi)]
      rfl
    | operator op =>
      cases op with
      | unary op =>
        intro v
        rw [hunary op hi]
        rfl
      | binary op =>
        intro v w
        rw [hbinary op hi]
        rfl
      | choose | otherwise => trivial
    | number | openParen | closeParen | comma => trivial
  have hequal : s.evaluate d source f = s.evaluate d' source' f :=
    (ProgramRelation.equality m).evaluate hagree s
  rw [hequal, fst_evaluate_congr]

/-- The second dialect has another function and an operator more, and the second source knows another variable.
The second call has no marker any more, whoever is asked. -/
theorem only_mentioned_counts_fault :
    let f := Formula.ofInstructions [.openParen, .identifier "a", .operator (.unary .minus), .call "count",
      .call "count"]
    let other := (tracing.withFunction "mean" fun vs => pure (Signal.average vs)).withBinary .add fun a b =>
      pure (a + b)
    (Prod.fst <$> fresh.evaluate other (fun name => if name = "b" then pure 7 else tracingSource name) f).run [] =
      (.error (.noMarker 4), ["a", "-", "count"]) := by
  intro f other
  have hvariables : f.variableNames = ["a"] := by decide
  have hfunctions : f.functionNames = ["count"] := by decide
  have hcount : tracing.function? "count" = other.function? "count" :=
    ((tracing.function?_withFunction "mean" "count" _).trans (if_neg (by decide))).symm
  have hsame : Prod.fst <$> fresh.evaluate tracing tracingSource f = Prod.fst <$>
      fresh.evaluate other (fun name => if name = "b" then pure 7 else tracingSource name) f := by
    refine only_mentioned_counts ?_ ?_ ?_ ?_ fresh fresh
    · rw [hvariables, List.forall_mem_singleton]
      rfl
    · rw [hfunctions, List.forall_mem_singleton]
      exact hcount
    · intro op _
      rfl
    · intro op hop
      simp [f, Formula.ofInstructions] at hop
  rw [← hsame]
  rfl

end Machine
end Gauge
