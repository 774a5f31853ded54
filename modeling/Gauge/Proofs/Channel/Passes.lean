import Gauge.Dialect.Standard
import Gauge.Proofs.Channel.Lookup
import Gauge.Proofs.Machine.Reuse
import Gauge.Proofs.Signal.Missing

/-! # Passes and reloads

A program takes snapshots of a board, reloads it and makes passes over its snapshots with one engine. Each
pass shows the readings that new engines give for the specifications of its snapshot, whatever was evaluated
and reloaded in the meantime.
-/
namespace Gauge

variable {m : Type → Type} [Monad m]

namespace ChannelSpec

def reading? (d : Dialect m) (source : Source m) (spec : ChannelSpec) : m (Option Float) := do
  let (answer, _) ← (Engine.ofDialect d).evaluateText source spec.expression
  pure (answer.toOption.filter Float.isFinite)

/-- Pass the readings of specifications to a sink one after the other, and count them. A specification that
is switched off or whose text is no formula has none. -/
def passReadings (d : Dialect m) (source : Source m) (sink : Channel → Float → m Unit) :
    List ChannelSpec → m Nat
  | [] => pure 0
  | spec :: rest =>
    match Panel.channel? spec with
    | none => passReadings d source sink rest
    | some c => do
      match ← spec.reading? d source with
      | none => passReadings d source sink rest
      | some v =>
        sink c v
        let count ← passReadings d source sink rest
        pure (count + 1)

end ChannelSpec

namespace Panel

def Outcome.passTo (sink : Channel → Float → m Unit) (c : Channel) (outcome : Outcome) : m Unit :=
  match outcome.reading? with
  | some v => sink c v
  | none => pure ()

theorem Outcome.reading?_settle (answer : Except Fault Float) :
    (ofResult (answer.map Signal.settle)).reading? =
      (answer.map Signal.settle).toOption.filter Float.isFinite := by
  cases answer with
  | error fault => rfl
  | ok v =>
    have hfinite := Signal.isFinite_settle v
    cases hnan : (Signal.settle v).isNaN with
    | true =>
      rw [hnan, Bool.not_true] at hfinite
      simp only [Except.map, ofResult, Except.toOption, Option.filter_some, hfinite, hnan]
      rfl
    | false =>
      rw [hnan, Bool.not_false] at hfinite
      simp only [Except.map, ofResult, Except.toOption, Option.filter_some, hfinite, hnan]
      rfl

theorem readings_cons_none {c : Channel} {outcome : Outcome} (h : outcome.reading? = none)
    (rest : List (Channel × Outcome)) : readings ((c, outcome) :: rest) = readings rest := by
  simp [readings, h]

theorem readings_cons_some {c : Channel} {outcome : Outcome} {v : Float} (h : outcome.reading? = some v)
    (rest : List (Channel × Outcome)) : readings ((c, outcome) :: rest) = (c, v) :: readings rest := by
  simp [readings, h]

variable [LawfulMonad m] (d : Dialect m) (source : Source m)

/-- The channel of a specification is read by a new machine as its text is by a new engine. -/
theorem evaluate_bind_reading? {spec : ChannelSpec} {c : Channel} (h : channel? spec = some c) {β : Type}
    (next : Option Float → m β) :
    (Prod.fst <$> Machine.fresh.evaluate d source c.formula >>= fun answer =>
      next (Outcome.ofResult answer).reading?) = spec.reading? d source >>= next := by
  have hparse := (channel?_eq_some h).2.2
  have hreading : spec.reading? d source =
      (fun answer => answer.toOption.filter Float.isFinite) <$>
        (Prod.fst <$> Machine.fresh.evaluate d source c.formula) := by
    simp only [ChannelSpec.reading?, Engine.evaluateText, hparse, Engine.evaluate, Engine.ofDialect,
      bind_assoc, pure_bind, Functor.map_map]
    rw [← bind_pure_comp]
    refine bind_congr fun r => ?_
    cases r.1 with
    | error fault => rfl
    | ok v => rfl
  rw [hreading, ← Machine.settle_fst_evaluate]
  simp only [bind_map_left]
  exact bind_congr fun r => congrArg next (Outcome.reading?_settle r.1)

theorem poll_cons_bind {β : Type} (visit : Channel → Outcome → m Unit) (c : Channel) (rest : List Channel)
    (s : Machine) (next : List (Channel × Outcome) × Engine m → m β) :
    poll source visit (c :: rest) ⟨d, s⟩ >>= next = s.evaluate d source c.formula >>= fun r =>
      visit c (.ofResult r.1) >>= fun _ => poll source visit rest ⟨d, r.2⟩ >>= fun q =>
        next ((c, .ofResult r.1) :: q.1, q.2) := by
  simp only [poll, Engine.evaluate, bind_assoc, pure_bind]

theorem evaluateEach_bind {β : Type} (sink : Channel → Float → m Unit) (specs : List ChannelSpec)
    (s : Machine) (next : Nat × Engine m → m β) (next' : Nat → m β)
    (h : ∀ n t, next (n, ⟨d, t⟩) = next' n) :
    (compile specs).1.evaluateEach source (Outcome.passTo sink) ⟨d, s⟩ >>= next =
      ChannelSpec.passReadings d source sink specs >>= next' := by
  simp only [evaluateEach, channels_compile, bind_assoc, pure_bind]
  induction specs generalizing s next next' with
  | nil => simp [poll, ChannelSpec.passReadings, readings, h]
  | cons spec rest ih =>
    rw [ChannelSpec.passReadings]
    cases hchannel : channel? spec with
    | none =>
      rw [List.filterMap_cons_none hchannel]
      exact ih s next next' h
    | some c =>
      rw [List.filterMap_cons_some hchannel, poll_cons_bind, bind_assoc,
        ← evaluate_bind_reading? d source hchannel]
      refine Machine.evaluate_bind d source c.formula s fun answer t => ?_
      cases hreading : (Outcome.ofResult answer).reading? with
      | none =>
        simp only [Outcome.passTo, hreading, pure_bind, readings_cons_none hreading]
        exact ih t next next' h
      | some v =>
        simp only [Outcome.passTo, hreading, readings_cons_some hreading, List.length_cons, bind_assoc,
          pure_bind]
        refine bind_congr fun _ => ?_
        exact ih t (fun p => next (p.1 + 1, p.2)) (fun n => next' (n + 1)) fun n u => h (n + 1) u

end Panel

/-- What a program does with its board. A pass goes over the snapshot of the number given. -/
inductive Action (m : Type → Type) where
  | reload (specs : List ChannelSpec)
  | snapshot
  | pass (number : Nat) (source : Source m) (sink : Channel → Float → m Unit)

structure Station (m : Type → Type) where
  board : Board
  snapshots : List Panel
  engine : Engine m

structure Records where
  loaded : List ChannelSpec
  snapshots : List (List ChannelSpec)

namespace Station

def act (s : Station m) : Action m → m (Option Nat × Station m)
  | .reload specs => pure (none, { s with board := (s.board.reload specs).1 })
  | .snapshot => pure (none, { s with snapshots := s.snapshots ++ [s.board.snapshot] })
  | .pass number source sink =>
    match s.snapshots[number]? with
    | none => pure (none, s)
    | some p => do
      let (count, engine) ← p.evaluateEach source (Panel.Outcome.passTo sink) s.engine
      pure (some count, { s with engine })

def run : List (Action m) → Station m → m (List (Option Nat) × Station m)
  | [], s => pure ([], s)
  | a :: rest, s => do
    let (answer, s) ← s.act a
    let (answers, s) ← run rest s
    pure (answer :: answers, s)

end Station

namespace Records

def after (r : Records) : Action m → Records
  | .reload specs => { r with loaded := specs }
  | .snapshot => { r with snapshots := r.snapshots ++ [r.loaded] }
  | .pass .. => r

def answer (d : Dialect m) (r : Records) : Action m → m (Option Nat)
  | .pass number source sink =>
    match r.snapshots[number]? with
    | none => pure none
    | some specs => some <$> ChannelSpec.passReadings d source sink specs
  | .reload _ | .snapshot => pure none

def replay (d : Dialect m) : List (Action m) → Records → m (List (Option Nat))
  | [], _ => pure []
  | a :: rest, r => do
    let answer ← r.answer d a
    let answers ← replay d rest (r.after a)
    pure (answer :: answers)

/-- The station holds what was compiled from the specifications on record, and its engine may have been
used for anything. -/
structure Keeps (d : Dialect m) (r : Records) (s : Station m) : Prop where
  current : s.board.current = (Panel.compile r.loaded).1
  snapshots : s.snapshots = r.snapshots.map fun specs => (Panel.compile specs).1
  dialect : s.engine.dialect = d

end Records

namespace Station

open Records

variable [LawfulMonad m] {d : Dialect m} {r : Records}

theorem act_bind {s : Station m} (h : Keeps d r s) {β : Type} (a : Action m)
    (next : Option Nat × Station m → m β) (next' : Option Nat → m β)
    (hnext : ∀ n t, Keeps d (r.after a) t → next (n, t) = next' n) :
    s.act a >>= next = r.answer d a >>= next' := by
  cases a with
  | reload specs =>
    rw [act, answer, pure_bind, pure_bind]
    exact hnext none _ ⟨rfl, h.snapshots, h.dialect⟩
  | snapshot =>
    have hsnapshots : s.snapshots ++ [s.board.snapshot] =
        (r.snapshots ++ [r.loaded]).map fun specs => (Panel.compile specs).1 := by
      rw [List.map_append, ← h.snapshots, Board.snapshot, h.current]
      rfl
    rw [act, answer, pure_bind, pure_bind]
    exact hnext none _ ⟨h.current, hsnapshots, h.dialect⟩
  | pass number source sink =>
    obtain ⟨board, snapshots, ⟨dialect, machine⟩⟩ := s
    obtain ⟨hcurrent, hsnapshots, hdialect⟩ := h
    simp only at hcurrent hsnapshots hdialect
    subst hsnapshots hdialect
    simp only [act, answer, List.getElem?_map]
    cases r.snapshots[number]? with
    | none =>
      rw [Option.map_none, pure_bind, pure_bind]
      exact hnext none _ ⟨hcurrent, rfl, rfl⟩
    | some specs =>
      simp only [Option.map_some, bind_assoc, pure_bind, bind_map_left]
      refine Panel.evaluateEach_bind dialect source sink specs machine _ _ fun n t => ?_
      exact hnext (some n) _ ⟨hcurrent, rfl, rfl⟩

theorem fst_run {s : Station m} (h : Keeps d r s) (actions : List (Action m)) :
    Prod.fst <$> run actions s = replay d actions r := by
  induction actions generalizing r s with
  | nil => simp [run, replay]
  | cons a rest ih =>
    rw [run, replay, map_bind]
    refine act_bind h a _ _ fun n t ht => ?_
    rw [← ih ht, map_bind, bind_map_left]
    exact bind_congr fun q => map_pure _ _

/-- Every pass over a snapshot passes to its sink, in order, the readings that new engines give for the
specifications loaded when the snapshot was taken, and counts them. -/
theorem fst_run_eq_replay (d : Dialect m) (s : Machine) (specs : List ChannelSpec)
    (actions : List (Action m)) :
    Prod.fst <$> run actions ⟨⟨(Panel.compile specs).1⟩, [], ⟨d, s⟩⟩ =
      replay d actions ⟨specs, []⟩ :=
  fst_run ⟨rfl, rfl, rfl⟩ actions

def recordingSink (c : Channel) (v : Float) : StateM (List (String × Float)) Unit :=
  modify (· ++ [(c.name, v)])

/-- Channels without a reading between others, and a snapshot that a reload does not change. -/
theorem fst_run_eq_replay_recording :
    let source : Source (StateM (List (String × Float))) := (Table.ofList [("a", 3), ("b", 4)]).source
    let specs : List ChannelSpec := [⟨"sum", "a + b", true, none⟩, ⟨"broken", "(a +", true, none⟩,
      ⟨"missing", "ghost * 2", true, none⟩, ⟨"off", "1", false, none⟩,
      ⟨"infinite", "a / 0", true, none⟩, ⟨"Ratio", "a / b", true, none⟩]
    Id.run ((Prod.fst <$> run
      [.snapshot, .pass 0 source recordingSink, .reload [⟨"two", "1 + 1", true, none⟩], .snapshot,
        .pass 1 source recordingSink, .pass 0 source recordingSink]
      ⟨⟨(Panel.compile specs).1⟩, [], ⟨.operators, .fresh⟩⟩).run []) =
      ([none, some 2, none, none, some 1, some 2],
        [("sum", 7), ("Ratio", 0.75), ("two", 2), ("sum", 7), ("Ratio", 0.75)]) := by
  intro source specs
  rw [fst_run_eq_replay]
  decide +kernel

end Station
end Gauge
