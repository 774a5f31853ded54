import Mathlib
import Gauge.Proofs.Dialect.Strictness
import Gauge.Proofs.Formula.Parts
import Gauge.Proofs.Latest
import Gauge.Proofs.Source.Naming

/-! # Definitions

A dialect is made by definitions one after the other. Of all that define the same operator, or a function
under names with the same lowercase form, the latest counts, whether it came alone or with the whole of the
standard dialect.
-/
namespace Gauge

variable {m : Type → Type}

/-- A step in the making of a dialect; the last two define all operators and the standard functions. -/
inductive Definition (m : Type → Type) where
  | function (name : String) (meaning : List Float → m Float)
  | unary (op : UnaryOp) (meaning : Float → m Float)
  | binary (op : BinaryOp) (meaning : Float → Float → m Float)
  | operators
  | standardFunctions (fraction : m Float)

namespace Definition

variable [Monad m]

def functions : Definition m → List (String × (List Float → m Float))
  | function name meaning => [(Text.lowercase name, meaning)]
  | standardFunctions fraction =>
    Dialect.standardFunctions.map (fun f => (Text.lowercase f.1, fun vs => pure (f.2 vs))) ++
      [(Text.lowercase "rand", Dialect.random fraction)]
  | unary .. | binary .. | operators => []

def unaries : Definition m → List (UnaryOp × (Float → m Float))
  | unary op meaning => [(op, meaning)]
  | operators => UnaryOp.all.map fun op => (op, fun v => pure (Signal.applyUnary op v))
  | function .. | binary .. | standardFunctions _ => []

def binaries : Definition m → List (BinaryOp × (Float → Float → m Float))
  | binary op meaning => [(op, meaning)]
  | operators => BinaryOp.all.map fun op => (op, fun v w => pure (Signal.applyBinary op v w))
  | function .. | unary .. | standardFunctions _ => []

end Definition

namespace Dialect

theorem pairwise_functionNames (d : Dialect m) : d.functionNames.Pairwise (· < ·) := by
  refine Std.TreeMap.ordered_keys.imp fun h => ?_
  exact compareOfLessAndEq_eq_lt.mp h

theorem mem_functionNames_iff {d : Dialect m} {key : String} :
    key ∈ d.functionNames ↔ (d.function? key).isSome = true := by
  rw [functionNames, Std.TreeMap.mem_keys, function?]
  exact Std.TreeMap.mem_iff_isSome_getElem?

theorem function?_foldl_withFunction (d : Dialect m) (fs : List (String × (List Float → m Float)))
    (key : String) : (fs.foldl (fun d f => d.withFunction f.1 f.2) d).function? key =
      (latest? key (fs.map fun f => (Text.lowercase f.1, f.2))).or (d.function? key) := by
  induction fs generalizing d with
  | nil => rfl
  | cons f fs ih =>
    rw [List.foldl_cons, ih, function?_withFunction, ← latest?_singleton_or, ← Option.or_assoc,
      ← latest?_append, List.singleton_append, List.map_cons]

variable [Monad m]

def define (d : Dialect m) : Definition m → Dialect m
  | .function name meaning => d.withFunction name meaning
  | .unary op meaning => d.withUnary op meaning
  | .binary op meaning => d.withBinary op meaning
  | .operators => d.withOperators
  | .standardFunctions fraction => d.withFunctions fraction

def ofDefinitions (ds : List (Definition m)) : Dialect m := ds.foldl define empty

example (fraction : m Float) : ofDefinitions [.operators, .standardFunctions fraction] = standard fraction :=
  rfl

theorem function?_define (d : Dialect m) (e : Definition m) (key : String) :
    (d.define e).function? key = (latest? key e.functions).or (d.function? key) := by
  cases e with
  | function name meaning => exact function?_foldl_withFunction d [(name, meaning)] key
  | standardFunctions fraction =>
    let pures := standardFunctions.map fun f => (f.1, fun vs => (pure (f.2 vs) : m Float))
    have hfold := function?_foldl_withFunction d (pures ++ [("rand", random fraction)]) key
    rw [List.foldl_append, List.foldl_map, List.map_append, List.map_map] at hfold
    exact hfold
  | unary | binary | operators => rfl

theorem unary_define (d : Dialect m) (e : Definition m) (op : UnaryOp) :
    (d.define e).unary op = (latest? op e.unaries).or (d.unary op) := by
  cases e with
  | unary o meaning =>
    rw [Definition.unaries, latest?_singleton_or]
    simp only [define, withUnary, eq_comm]
  | operators =>
    rw [Definition.unaries, latest?_map_eq_some op.mem_all]
    rfl
  | function | binary | standardFunctions => rfl

theorem binary_define (d : Dialect m) (e : Definition m) (op : BinaryOp) :
    (d.define e).binary op = (latest? op e.binaries).or (d.binary op) := by
  cases e with
  | binary o meaning =>
    rw [Definition.binaries, latest?_singleton_or]
    simp only [define, withBinary, eq_comm]
  | operators =>
    rw [Definition.binaries, latest?_map_eq_some op.mem_all]
    rfl
  | function | unary | standardFunctions => rfl

/-- What each definition does to one entry of a dialect, all do in their order. -/
theorem entry_ofDefinitions {κ α : Type} [DecidableEq κ] {key : κ} (entry : Dialect m → Option α)
    {entries : Definition m → List (κ × α)} (hempty : entry empty = none)
    (h : ∀ d e, entry (define d e) = (latest? key (entries e)).or (entry d)) (ds : List (Definition m)) :
    entry (ofDefinitions ds) = latest? key (ds.flatMap entries) := by
  have hfold (d : Dialect m) :
      entry (ds.foldl define d) = (latest? key (ds.flatMap entries)).or (entry d) := by
    induction ds generalizing d with
    | nil => rfl
    | cons e ds ih => rw [List.foldl_cons, ih, h, List.flatMap_cons, latest?_append, Option.or_assoc]
  rw [ofDefinitions, hfold, hempty, Option.or_none]

theorem function?_ofDefinitions (ds : List (Definition m)) (key : String) :
    (ofDefinitions ds).function? key = latest? key (ds.flatMap Definition.functions) :=
  entry_ofDefinitions (fun d => d.function? key) Std.TreeMap.getElem?_emptyc
    (fun d e => function?_define d e key) ds

theorem unary_ofDefinitions (ds : List (Definition m)) (op : UnaryOp) :
    (ofDefinitions ds).unary op = latest? op (ds.flatMap Definition.unaries) :=
  entry_ofDefinitions (fun d => d.unary op) rfl (fun d e => unary_define d e op) ds

theorem binary_ofDefinitions (ds : List (Definition m)) (op : BinaryOp) :
    (ofDefinitions ds).binary op = latest? op (ds.flatMap Definition.binaries) :=
  entry_ofDefinitions (fun d => d.binary op) rfl (fun d e => binary_define d e op) ds

theorem mem_functionNames_ofDefinitions {ds : List (Definition m)} {key : String} :
    key ∈ (ofDefinitions ds).functionNames ↔ key ∈ (ds.flatMap Definition.functions).map Prod.fst := by
  rw [mem_functionNames_iff, function?_ofDefinitions, Option.isSome_iff_ne_none, Ne, latest?_eq_none_iff,
    not_not]

/-- A definition leaves alone what it does not define. -/
theorem define_of_notMem (d : Dialect m) (e : Definition m) :
    (∀ key, key ∉ e.functions.map Prod.fst → (d.define e).function? key = d.function? key) ∧
    (∀ op, op ∉ e.unaries.map Prod.fst → (d.define e).unary op = d.unary op) ∧
    ∀ op, op ∉ e.binaries.map Prod.fst → (d.define e).binary op = d.binary op := by
  refine ⟨fun key hkey => ?_, fun op hop => ?_, fun op hop => ?_⟩
  · rw [function?_define, latest?_eq_none_iff.mpr hkey, Option.none_or]
  · rw [unary_define, latest?_eq_none_iff.mpr hop, Option.none_or]
  · rw [binary_define, latest?_eq_none_iff.mpr hop, Option.none_or]

end Dialect

/-! ### Answers -/

theorem Formula.exists_compiles {text : String} (h : ∃ f, parse text = .ok f) :
    ∃ e : Expr, Compiles text e.instructions := by
  obtain ⟨f, hf⟩ := h
  obtain ⟨e, -, he⟩ := derives_of_parse hf
  exact ⟨e, f, hf, he⟩

variable [Monad m]

def Answers (d : Dialect m) (source : Source m) (text : String) (x : m Float) : Prop :=
  ∀ s : Machine, Prod.fst <$> (Engine.mk d s).evaluateText source text = Except.ok <$> x

variable [LawfulMonad m]

theorem Expr.evalAll_eq_mapM (d : Dialect m) (source : Source m) (es : List Expr) :
    evalAll d source es = es.mapM (eval d source) := by
  induction es with
  | nil => rfl
  | cons e es ih => rw [evalAll, ih, List.mapM_cons]

theorem Answers.of_compiles (d : Dialect m) (source : Source m) {text : String} {e : Expr}
    (h : Formula.Compiles text e.instructions) : Answers d source text (e.eval d source) := by
  intro s
  exact Engine.fst_evaluateText ⟨d, s⟩ source h

/-- A call computes its arguments one after the other and gives their signals to the function. -/
theorem Answers.call (d : Dialect m) (source : Source m) {name : String} (hname : IsName name.toList)
    {arguments : List String} (h : ∀ a ∈ arguments, ∃ f, Formula.parse a = .ok f) :
    ∃ signal : String → m Float, (∀ a ∈ arguments, Answers d source a (signal a)) ∧
      Answers d source (name ++ "(" ++ ",".intercalate arguments ++ ")") (do
        let vs ← arguments.mapM signal
        Expr.respond ((d.function? (Text.lowercase name)).map (· vs))) := by
  have : Nonempty Expr := ⟨.number 0⟩
  choose! expr hexpr using fun a ha => Formula.exists_compiles (h a ha)
  refine ⟨fun a => (expr a).eval d source, fun a ha => .of_compiles d source (hexpr a ha), ?_⟩
  have hparts : ∀ x ∈ arguments.map fun a => (a, (expr a).instructions), Formula.Compiles x.1 x.2 := by
    intro x hx
    obtain ⟨a, ha, rfl⟩ := List.mem_map.mp hx
    exact hexpr a ha
  have hcall := Formula.Compiles.call hname hparts
  have hlisting : Formula.Compiles (name ++ "(" ++ ",".intercalate arguments ++ ")")
      (Expr.call (Text.lowercase name) (arguments.map expr)).instructions := by
    simpa [Expr.instructions, Expr.instructionsOf_eq_flatMap, List.flatMap_def, List.map_map,
      Function.comp_def] using hcall
  have hanswers := Answers.of_compiles d source hlisting
  rw [Expr.eval, Expr.evalAll_eq_mapM, List.mapM_map] at hanswers
  exact hanswers

namespace Dialect

/-- In a dialect made by definitions a call gives the signals of its arguments to the latest function under
a name with the same lowercase form, and an operator its operands to its latest meaning; both are missing
signals where there is none. No definition touches another entry, and the names are listed in order. -/
theorem latest_definition_counts (ds : List (Definition m)) (source : Source m) :
    (∀ (name : String) (arguments : List String), IsName name.toList →
      (∀ a ∈ arguments, ∃ f, Formula.parse a = .ok f) →
      ∃ signal : String → m Float, (∀ a ∈ arguments, Answers (ofDefinitions ds) source a (signal a)) ∧
        Answers (ofDefinitions ds) source (name ++ "(" ++ ",".intercalate arguments ++ ")") (do
          let vs ← arguments.mapM signal
          Expr.respond ((latest? (Text.lowercase name) (ds.flatMap Definition.functions)).map (· vs)))) ∧
    (∀ (index : Nat) (op : UnaryOp) (s : Machine) (v : Float) (signals : Ring Float),
      s.signals.popBack? = some (v, signals) →
      s.step (ofDefinitions ds) source index (.operator (.unary op)) = (do
        let w ← Expr.respond ((latest? op (ds.flatMap Definition.unaries)).map (· v))
        pure (.ok (), { s with signals := signals.pushBack w }))) ∧
    (∀ (index : Nat) (op : BinaryOp) (s : Machine) (v w : Float) (upper signals : Ring Float),
      s.signals.popBack? = some (w, upper) → upper.popBack? = some (v, signals) →
      s.step (ofDefinitions ds) source index (.operator (.binary op)) = (do
        let x ← Expr.respond ((latest? op (ds.flatMap Definition.binaries)).map (· v w))
        pure (.ok (), { s with signals := signals.pushBack x }))) ∧
    (∀ e : Definition m,
      (∀ key, key ∉ e.functions.map Prod.fst →
        (ofDefinitions (ds ++ [e])).function? key = (ofDefinitions ds).function? key) ∧
      (∀ op, op ∉ e.unaries.map Prod.fst →
        (ofDefinitions (ds ++ [e])).unary op = (ofDefinitions ds).unary op) ∧
      ∀ op, op ∉ e.binaries.map Prod.fst →
        (ofDefinitions (ds ++ [e])).binary op = (ofDefinitions ds).binary op) ∧
    (ofDefinitions ds).functionNames.Pairwise (· < ·) ∧
    ∀ key, key ∈ (ofDefinitions ds).functionNames ↔
      key ∈ (ds.flatMap Definition.functions).map Prod.fst := by
  refine ⟨?_, ?_, ?_, ?_, pairwise_functionNames _, fun key => mem_functionNames_ofDefinitions⟩
  · intro name arguments hname harguments
    rw [← function?_ofDefinitions]
    exact Answers.call _ source hname harguments
  · intro index op s v signals hpop
    rw [← unary_ofDefinitions, ← Expr.settle_answer, bind_map_left]
    simp only [Machine.step, Machine.operate, hpop]
    rfl
  · intro index op s v w upper signals hpop hpop'
    rw [← binary_ofDefinitions, ← Expr.settle_answer, bind_map_left]
    simp only [Machine.step, Machine.operate, hpop, hpop']
    rfl
  · intro e
    have hconcat : ofDefinitions (ds ++ [e]) = (ofDefinitions ds).define e := List.foldl_concat ..
    rw [hconcat]
    exact define_of_notMem _ e

def noting (name : String) (vs : List Float) : StateM (List (String × List Float)) Float := do
  modify (· ++ [(name, vs)])
  pure vs.length.toFloat

/-- A function that is defined twice under names that differ in case, an operator redefined and one not. -/
theorem latest_definition_counts_renamed :
    let ds : List (Definition (StateM (List (String × List Float)))) :=
      [.function "DÉBIT" (noting "first"), .operators, .unary .minus (fun v => noting "minus" [v]),
        .standardFunctions (pure 0.5), .function "Débit" (noting "second")]
    let source : Source (StateM (List (String × List Float))) := (Table.ofList [("b", 4)]).source
    let s : Machine := (Machine.fresh.push 3).push 4
    (∃ signal : String → StateM (List (String × List Float)) Float,
      (∀ a ∈ ["2", "-b"], Answers (ofDefinitions ds) source a (signal a)) ∧
      Answers (ofDefinitions ds) source "débit(2,-b)" (do
        let vs ← ["2", "-b"].mapM signal
        Expr.respond (some (noting "second" vs)))) ∧
    (∃ upper, s.signals.popBack? = some (4, upper) ∧
      s.step (ofDefinitions ds) source 2 (.operator (.unary .minus)) = (do
        let w ← Expr.respond (some (noting "minus" [4]))
        pure (.ok (), { s with signals := upper.pushBack w }))) ∧
    ∃ lower : Ring Float, s.step (ofDefinitions ds) source 2 (.operator (.binary .divide)) = (do
      let w ← Expr.respond (some (pure (3 / 4)))
      pure (.ok (), { s with signals := lower.pushBack w })) := by
  intro ds source s
  obtain ⟨hcall, hunary, hbinary, -⟩ := latest_definition_counts ds source
  have hname : IsName "débit".toList := by decide
  have harguments : ∀ a ∈ ["2", "-b"], ∃ f, Formula.parse a = .ok f := by
    intro a ha
    simp only [List.mem_cons, List.not_mem_nil, or_false] at ha
    rcases ha with rfl | rfl
    · exact ⟨_, rfl⟩
    · exact ⟨_, rfl⟩
  exact ⟨hcall "débit" ["2", "-b"] hname harguments, ⟨_, rfl, hunary 2 .minus s 4 _ rfl⟩,
    _, hbinary 2 .divide s 3 4 _ _ rfl rfl⟩

end Dialect
end Gauge
