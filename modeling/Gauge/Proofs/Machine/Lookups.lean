import Gauge.Proofs.Formula.Mentions
import Gauge.Proofs.Formula.Parts
import Gauge.Proofs.Machine.Evaluation
import Gauge.Proofs.Token.Stream

/-! # What the source is asked for

A source can log the names that it is asked for. Under such a source an expression is computed as before, and
what is logged are the variables of its listing: no signal that the source or a meaning answers has a part in
it. For the formula of a text these are the variables that the text reads.
-/
namespace Gauge

variable {m : Type → Type} [Monad m]

def Source.logging (source : Source m) : Source (StateT (List String) m) := fun name => do
  modify (· ++ [name])
  source name

def Dialect.quiet (d : Dialect m) : Dialect (StateT (List String) m) where
  unary op := (d.unary op).map fun f v => StateT.lift (f v)
  binary op := (d.binary op).map fun f left right => StateT.lift (f left right)
  functions := d.functions.map fun _ f vs => StateT.lift (f vs)

/-- `y` does what `x` does and logs `names`. -/
def Logs {α : Type} (names : List String) (y : StateT (List String) m α) (x : m α) : Prop :=
  ∀ log, y.run log = (fun a => (a, log ++ names)) <$> x

variable [LawfulMonad m]

namespace Logs

variable {α β : Type} {us vs : List String} {y : StateT (List String) m α} {x : m α}

theorem pure (a : α) : Logs [] (Pure.pure a) (Pure.pure a : m α) := fun log => by simp

theorem lift (x : m α) : Logs [] (StateT.lift x) x := fun log => by simp

theorem bind {g : α → StateT (List String) m β} {f : α → m β} (hy : Logs us y x)
    (hg : ∀ a, Logs vs (g a) (f a)) : Logs (us ++ vs) (y >>= g) (x >>= f) := by
  intro log
  rw [StateT.run_bind, hy log, bind_map_left, map_bind]
  refine bind_congr fun a => ?_
  rw [hg a, List.append_assoc]

theorem map (f : α → β) (hy : Logs us y x) : Logs us (f <$> y) (f <$> x) := by
  have h := hy.bind fun a => Logs.pure (f a)
  rw [List.append_nil] at h
  simpa only [bind_pure_comp] using h

end Logs

namespace Expr

variable (d : Dialect m) (source : Source m)

theorem logs_respond {α : Type} (meaning : Option α) (apply : α → m Float) :
    Logs [] (respond (meaning.map fun f => StateT.lift (apply f))) (respond (meaning.map apply)) := by
  cases meaning with
  | none => exact Logs.pure (0 / 0)
  | some f => exact (Logs.lift (apply f)).map entered

theorem logs_source (name : String) : Logs [name] (source.logging name) (source name) := by
  intro log
  simp [Source.logging]

theorem logs_unary (op : UnaryOp) (v : Float) :
    Logs [] (respond ((d.quiet.unary op).map (· v))) (respond ((d.unary op).map (· v))) := by
  have h := logs_respond (d.unary op) (· v)
  simp only [Dialect.quiet, Option.map_map]
  exact h

theorem logs_binary (op : BinaryOp) (v w : Float) :
    Logs [] (respond ((d.quiet.binary op).map (· v w))) (respond ((d.binary op).map (· v w))) := by
  have h := logs_respond (d.binary op) (· v w)
  simp only [Dialect.quiet, Option.map_map]
  exact h

theorem logs_function (name : String) (vs : List Float) :
    Logs [] (respond ((d.quiet.function? name).map (· vs)))
      (respond ((d.function? name).map (· vs))) := by
  have h := logs_respond (d.function? name) (· vs)
  have hname : d.quiet.function? name = (d.function? name).map fun f vs => StateT.lift (f vs) :=
    Std.TreeMap.getElem?_map
  rw [hname, Option.map_map]
  exact h

def namesRead (e : Expr) : List String := e.instructions.filterMap Formula.variableRead?

def namesReadOf (es : List Expr) : List String := (instructionsOf es).filterMap Formula.variableRead?

theorem namesRead_unary (op : UnaryOp) (e : Expr) : (unary op e).namesRead = e.namesRead := by
  simp [namesRead, instructions, readsOff_variables.pick_operator]

theorem namesRead_binary (op : BinaryOp) (l r : Expr) :
    (binary op l r).namesRead = l.namesRead ++ r.namesRead := by
  simp [namesRead, instructions, readsOff_variables.pick_operator]

theorem namesRead_call (name : String) (es : List Expr) : (call name es).namesRead = namesReadOf es := by
  have hcall : Formula.variableRead? (.call name) = none := rfl
  simp [namesRead, namesReadOf, instructions, readsOff_variables.pick_marker, hcall]

theorem namesRead_choice (c t e : Expr) :
    (choice c t e).namesRead = c.namesRead ++ (t.namesRead ++ e.namesRead) := by
  simp [namesRead, instructions, readsOff_variables.pick_operator]

theorem namesReadOf_cons (e : Expr) (es : List Expr) :
    namesReadOf (e :: es) = e.namesRead ++ namesReadOf es := by
  simp [namesRead, namesReadOf, instructionsOf]

mutual

theorem logs_eval (e : Expr) :
    Logs e.namesRead (e.eval d.quiet source.logging) (e.eval d source) := by
  match e with
  | .number v => exact Logs.pure (entered v)
  | .identifier name => exact (logs_source source name).map entered
  | .unary op e =>
    have h := (logs_eval e).bind fun v => logs_unary d op v
    rw [List.append_nil] at h
    rwa [namesRead_unary, eval, eval]
  | .binary op l r =>
    have h := (logs_eval l).bind fun v => (logs_eval r).bind fun w => logs_binary d op v w
    rw [List.append_nil] at h
    rwa [namesRead_binary, eval, eval]
  | .call name es =>
    have h := (logs_evalAll es).bind fun vs => logs_function d name vs
    rw [List.append_nil] at h
    rwa [namesRead_call, eval, eval]
  | .choice c t e =>
    -- All three parts are computed before the condition has a say.
    have h := (logs_eval c).bind fun v => (logs_eval t).bind fun w => (logs_eval e).bind fun x =>
      Logs.pure (if v == 0 || v.isNaN then x else w)
    rw [List.append_nil] at h
    rwa [namesRead_choice, eval, eval]

theorem logs_evalAll (es : List Expr) :
    Logs (namesReadOf es) (evalAll d.quiet source.logging es) (evalAll d source es) := by
  match es with
  | [] => exact Logs.pure []
  | e :: es =>
    have h := (logs_eval e).bind fun v => (logs_evalAll es).bind fun vs => Logs.pure (v :: vs)
    rw [List.append_nil] at h
    rwa [namesReadOf_cons, evalAll, evalAll]

end

end Expr

namespace Machine

variable (d : Dialect m) (source : Source m)

theorem logs_evaluate_listing {f : Formula} {e : Expr} (h : f.instructions = e.instructions)
    (s : Machine) :
    Logs e.namesRead (Prod.fst <$> s.evaluate d.quiet source.logging f)
      (Prod.fst <$> s.evaluate d source f) := by
  rw [fst_evaluate_listing d source h, fst_evaluate_listing d.quiet source.logging h]
  exact (Expr.logs_eval d source e).map Except.ok

/-- Every evaluation of the formula of a text asks the source for the variables that the text reads, each time
that it reads one, from left to right, whatever the source and the meanings answer. The variables of the
formula are these without repetitions, and its functions are called where their parentheses close. -/
theorem lookups_follow_text {text : String} {f : Formula} (h : Formula.parse text = .ok f) :
    ∃ ts, (TokenStream.ofString text).HandsOut ts ∧
      (∀ {m : Type → Type} [Monad m] [LawfulMonad m] (d : Dialect m) (source : Source m) (s : Machine),
        Logs (variablesRead (ts.map Located.token))
          (Prod.fst <$> s.evaluate d.quiet source.logging f) (Prod.fst <$> s.evaluate d source f)) ∧
      f.variableNames = (variablesRead (ts.map Located.token)).eraseDups ∧
      f.functionNames = (callsClosed [] (ts.map Located.token)).eraseDups := by
  obtain ⟨e, hderives, he⟩ := Formula.derives_of_parse h
  obtain ⟨-, -, -, hfailure, -, -⟩ := Formula.exists_finish_of_parse h
  obtain ⟨hvariables, hcalls⟩ := mentions_of_derives hderives
  have hscan : Scan.ofString text = ⟨(Scan.ofString text).tokens, none⟩ := by rw [← hfailure]
  refine ⟨(Scan.ofString text).tokens, TokenStream.handsOut_ofString_iff.mpr hscan, ?_, ?_, ?_⟩
  · intro m _ _ d source s
    rw [hvariables]
    exact logs_evaluate_listing d source he s
  · rw [Formula.variableNames, Formula.firstUses_eq_eraseDups, he, hvariables]
  · rw [Formula.functionNames, Formula.firstUses_eq_eraseDups, he, hcalls]

/-- Both ends of the conditional are asked for, whether or not a function or an operator has a meaning. -/
theorem lookups_follow_text_unknown : ∃ f, Formula.parse "max(x ? Y : x, count(z)) + y" = .ok f ∧
    (Prod.fst <$> fresh.evaluate tracing.quiet tracingSource.logging f).run [] =
      (fun answer => (answer, ["x", "y", "x", "z", "y"])) <$>
        (Prod.fst <$> fresh.evaluate tracing tracingSource f) ∧
    f.variableNames = ["x", "y", "z"] ∧ f.functionNames = ["count", "max"] := by
  obtain ⟨f, hf⟩ : ∃ f, Formula.parse "max(x ? Y : x, count(z)) + y" = .ok f := ⟨_, rfl⟩
  obtain ⟨ts, hts, hlogs, hvariables, hfunctions⟩ := lookups_follow_text hf
  have hscan := TokenStream.handsOut_ofString_iff.mp hts
  obtain rfl : (Scan.ofString "max(x ? Y : x, count(z)) + y").tokens = ts := by rw [hscan]
  exact ⟨f, hf, hlogs tracing tracingSource fresh [], hvariables, hfunctions⟩

end Machine

end Gauge
