import Gauge.Proofs.Machine.Stacks

/-! # What the meanings receive

A dialect can record every signal that one of its operators or functions is applied to. A machine under such
a dialect runs as before, and at each instruction records only signals that are on its stack.
-/
namespace Gauge

variable {m : Type → Type} [Monad m]

def Dialect.recorded (vs : List Float) (x : m Float) : StateT (List Float) m Float := do
  modify (· ++ vs)
  x

def Dialect.recording (d : Dialect m) : Dialect (StateT (List Float) m) where
  unary op := (d.unary op).map fun f v => recorded [v] (f v)
  binary op := (d.binary op).map fun f left right => recorded [left, right] (f left right)
  functions := d.functions.map fun _ f vs => recorded vs (f vs)

def Source.silent (source : Source m) : Source (StateT (List Float) m) :=
  fun name => StateT.lift (source name)

/-- `y` does what `x` does and records some of the signals `vs`. -/
def RecordsFrom {α : Type} (vs : List Float) (y : StateT (List Float) m α) (x : m α) : Prop :=
  ∃ us, us ⊆ vs ∧ ∀ log, y.run log = (fun a => (a, log ++ us)) <$> x

theorem RecordsFrom.mono {α : Type} {vs ws : List Float} {y : StateT (List Float) m α} {x : m α}
    (h : RecordsFrom vs y x) (hvs : vs ⊆ ws) : RecordsFrom ws y x := by
  obtain ⟨us, hus, hrun⟩ := h
  exact ⟨us, List.Subset.trans hus hvs, hrun⟩

variable [LawfulMonad m]

theorem RecordsFrom.pure {α : Type} (vs : List Float) (a : α) :
    RecordsFrom vs (Pure.pure a) (Pure.pure a : m α) :=
  ⟨[], List.nil_subset vs, fun log => by simp⟩

theorem RecordsFrom.map {α β : Type} {vs : List Float} {y : StateT (List Float) m α} {x : m α}
    (h : RecordsFrom vs y x) (g : α → β) :
    RecordsFrom vs (y >>= fun a => Pure.pure (g a)) (x >>= fun a => Pure.pure (g a)) := by
  obtain ⟨us, hus, hrun⟩ := h
  refine ⟨us, hus, fun log => ?_⟩
  rw [StateT.run_bind, hrun log]
  simp

namespace Machine

variable (d : Dialect m) (source : Source m) (index : Nat)

/-! ### One meaning -/

theorem records_silent (name : String) (vs : List Float) :
    RecordsFrom vs (source.silent name) (source name) :=
  ⟨[], List.nil_subset vs, fun log => by simp [Source.silent]⟩

/-- A meaning that is there records the signals `vs`, and one that is not records nothing. -/
theorem records_answer {α : Type} (meaning : Option α) (apply : α → m Float) (vs : List Float) :
    RecordsFrom vs (answer (meaning.map fun f => Dialect.recorded vs (apply f)))
      (answer (meaning.map apply)) := by
  cases meaning with
  | none => exact RecordsFrom.pure vs Signal.missing
  | some f => exact ⟨vs, List.Subset.refl vs, fun log => by simp [answer, Dialect.recorded]⟩

theorem records_unary (op : UnaryOp) (v : Float) :
    RecordsFrom [v] (answer ((d.recording.unary op).map (· v))) (answer ((d.unary op).map (· v))) := by
  have h := records_answer (d.unary op) (· v) [v]
  simp only [Dialect.recording, Option.map_map]
  exact h

theorem records_binary (op : BinaryOp) (left right : Float) :
    RecordsFrom [left, right] (answer ((d.recording.binary op).map (· left right)))
      (answer ((d.binary op).map (· left right))) := by
  have h := records_answer (d.binary op) (· left right) [left, right]
  simp only [Dialect.recording, Option.map_map]
  exact h

theorem records_function (name : String) (vs : List Float) :
    RecordsFrom vs (answer ((d.recording.function? name).map (· vs)))
      (answer ((d.function? name).map (· vs))) := by
  have h := records_answer (d.function? name) (· vs) vs
  have hname : d.recording.function? name = (d.function? name).map fun f vs => Dialect.recorded vs (f vs) :=
    Std.TreeMap.getElem?_map
  rw [hname, Option.map_map]
  exact h

/-! ### One instruction -/

/-- What becomes of a machine at an instruction, with and without recording: either it takes signals from its
stack, or it takes some and then pushes a signal that it gets from somewhere. -/
inductive Acts (s : Machine) :
    StateT (List Float) m (Except Fault Unit × Machine) → m (Except Fault Unit × Machine) → Prop
  | takes (outcome : Except Fault Unit) (t : Machine) : t.signals.toList ⊆ s.signals.toList →
      Acts s (pure (outcome, t)) (pure (outcome, t))
  | pushes {y : StateT (List Float) m Float} {x : m Float} (t : Machine) :
      RecordsFrom s.signals.toList y x → t.signals.toList ⊆ s.signals.toList →
      Acts s (y >>= fun v => pure (.ok (), t.push v)) (x >>= fun v => pure (.ok (), t.push v))

omit [LawfulMonad m] in
theorem Acts.stays (s : Machine) (outcome : Except Fault Unit) :
    Acts (m := m) s (pure (outcome, s)) (pure (outcome, s)) :=
  .takes outcome s (List.Subset.refl _)

theorem Acts.recordsFrom {s : Machine} {y : StateT (List Float) m (Except Fault Unit × Machine)}
    {x : m (Except Fault Unit × Machine)} (h : Acts s y x) : RecordsFrom s.signals.toList y x := by
  cases h with
  | takes outcome t _ => exact RecordsFrom.pure _ _
  | pushes t hrecords _ => exact hrecords.map _

theorem acts_call (name : String) (s : Machine) :
    Acts s (s.call d.recording index name) (s.call d index name) := by
  unfold call
  cases s.markers.popBack? with
  | none => exact .stays s _
  | some top =>
    obtain ⟨height, markers⟩ := top
    by_cases hsize : s.signals.size < height
    · simp only [hsize, if_true]
      exact .takes _ _ (List.Subset.refl _)
    · simp only [hsize, if_false]
      obtain ⟨harguments, hrest⟩ := s.signals.takeBack_spec (s.signals.size - height)
      have hrecords := records_function d name (s.signals.takeBack (s.signals.size - height)).1
      refine .pushes _ (hrecords.mono ?_) ?_
      · rw [harguments]
        exact List.drop_subset _ _
      · rw [hrest]
        exact List.take_subset _ _

theorem acts_unary (op : UnaryOp) (s : Machine) :
    Acts s (s.operate d.recording index (.unary op)) (s.operate d index (.unary op)) := by
  simp only [operate]
  cases hpop : s.signals.popBack? with
  | none => exact .stays s _
  | some top =>
    obtain ⟨v, rest⟩ := top
    have hsignals := s.signals.toList_of_popBack? hpop
    exact .pushes _ ((records_unary d op v).mono (by simp [hsignals])) (by simp [hsignals])

theorem acts_binary (op : BinaryOp) (s : Machine) :
    Acts s (s.operate d.recording index (.binary op)) (s.operate d index (.binary op)) := by
  simp only [operate]
  cases hpop : s.signals.popBack? with
  | none => exact .stays s _
  | some top =>
    obtain ⟨right, rest⟩ := top
    have hsignals := s.signals.toList_of_popBack? hpop
    simp only
    cases hnext : rest.popBack? with
    | none => exact .takes _ _ (by simp [hsignals])
    | some next =>
      obtain ⟨left, bottom⟩ := next
      rw [rest.toList_of_popBack? hnext] at hsignals
      exact .pushes _ ((records_binary d op left right).mono (by simp [hsignals])) (by simp [hsignals])

omit [LawfulMonad m] in
theorem acts_choose (s : Machine) :
    Acts s (s.operate d.recording index .choose) (s.operate d index .choose) := by
  simp only [operate]
  cases hpop : s.signals.popBack? with
  | none => exact .stays s _
  | some top =>
    obtain ⟨middle, rest⟩ := top
    have hsignals := s.signals.toList_of_popBack? hpop
    simp only
    cases hnext : rest.popBack? with
    | none => exact .takes _ _ (by simp [hsignals])
    | some next =>
      obtain ⟨condition, bottom⟩ := next
      rw [rest.toList_of_popBack? hnext] at hsignals
      refine .takes _ _ ?_
      cases Signal.holds condition with
      | true => simp [hsignals]
      | false => simp [hsignals]

omit [LawfulMonad m] in
theorem acts_otherwise (s : Machine) :
    Acts s (s.operate d.recording index .otherwise) (s.operate d index .otherwise) := by
  simp only [operate]
  cases s.conditions.popBack? with
  | none => exact .stays s _
  | some top =>
    obtain ⟨held, conditions⟩ := top
    cases held with
    | false => exact .takes _ _ (List.Subset.refl _)
    | true =>
      simp only
      cases hpop : s.signals.popBack? with
      | none => exact .takes _ _ (List.Subset.refl _)
      | some last =>
        obtain ⟨v, rest⟩ := last
        exact .takes _ _ (by simp [s.signals.toList_of_popBack? hpop])

/-- All that an instruction can do. -/
theorem acts_step (i : Token) (s : Machine) :
    Acts s (s.step d.recording source.silent index i) (s.step d source index i) := by
  cases i with
  | number v =>
    -- A number is pushed as if something had answered it.
    have h := Acts.pushes s (RecordsFrom.pure (m := m) s.signals.toList v) (List.Subset.refl _)
    rw [pure_bind, pure_bind] at h
    exact h
  | identifier name => exact .pushes s (records_silent source name _) (List.Subset.refl _)
  | call name => exact acts_call d index name s
  | operator op =>
    cases op with
    | unary op => exact acts_unary d index op s
    | binary op => exact acts_binary d index op s
    | choose => exact acts_choose d index s
    | otherwise => exact acts_otherwise d index s
  | openParen => exact .takes _ _ (List.Subset.refl _)
  | closeParen | comma => exact .stays s _

/-! ### Whole runs -/

theorem run_recording_cons (i : Token) (p : List Token) (s : Machine) : ∃ us, us ⊆ s.signals.toList ∧
    ∀ log, (s.run d.recording source.silent index (i :: p)).run log =
      s.step d source index i >>= fun r =>
        match r with
        | (.ok _, next) => (next.run d.recording source.silent (index + 1) p).run (log ++ us)
        | (.error fault, next) => pure ((.error fault, next), log ++ us) := by
  obtain ⟨us, hus, hstep⟩ := (acts_step d source index i s).recordsFrom
  refine ⟨us, hus, fun log => ?_⟩
  rw [run, StateT.run_bind, hstep, bind_map_left]
  refine bind_congr fun r => ?_
  obtain ⟨outcome, next⟩ := r
  cases outcome with
  | error fault => simp
  | ok _ => rfl

/-- Recording changes nothing else. -/
theorem fst_run_recording (p : List Token) (s : Machine) (log : List Float) :
    Prod.fst <$> (s.run d.recording source.silent index p).run log = s.run d source index p := by
  induction p generalizing index s log with
  | nil => simp [run]
  | cons i p ih =>
    obtain ⟨us, -, hrun⟩ := run_recording_cons d source index i p s
    rw [hrun, map_bind, run]
    refine bind_congr fun r => ?_
    obtain ⟨outcome, next⟩ := r
    cases outcome with
    | error fault => simp
    | ok _ => exact ih (index + 1) next (log ++ us)

theorem fst_evaluate_recording (f : Formula) (s : Machine) (log : List Float) :
    Prod.fst <$> (s.evaluate d.recording source.silent f).run log = s.evaluate d source f := by
  rw [evaluate, evaluate, StateT.run_bind, map_bind, ← fst_run_recording d source 0 _ _ log, bind_map_left]
  refine bind_congr fun r => ?_
  obtain ⟨⟨outcome, next⟩, recorded⟩ := r
  cases outcome with
  | error fault => simp
  | ok _ => simp

end Machine
end Gauge
