import Mathlib
import Gauge.Proofs.Machine.Evaluation
import Gauge.Proofs.Machine.Recording
import Gauge.Proofs.Signal.Missing

/-! # No infinities

An infinity may be written in the instructions, answered by the source or computed by a meaning, but none
comes onto the stack. So no meaning is ever applied to one, and no evaluation answers one.
-/
namespace Gauge

def Signal.Settled (v : Float) : Prop := v.isFinite = true ∨ v.isNaN = true

theorem Signal.settled_settle (v : Float) : Settled (settle v) := by
  unfold Settled
  rw [isFinite_settle]
  cases (settle v).isNaN with
  | true => exact .inr rfl
  | false => exact .inl rfl

namespace Machine

def Settled (s : Machine) : Prop := ∀ v ∈ s.signals.toList, Signal.Settled v

variable {s : Machine}

theorem settled_clear (s : Machine) : s.clear.Settled := by
  intro v hv
  simp [clear] at hv

theorem Settled.push (h : s.Settled) (v : Float) : (s.push v).Settled := by
  intro w hw
  rw [Machine.push, Ring.toList_pushBack, List.mem_append] at hw
  rcases hw with hw | hw
  · exact h w hw
  · rw [List.mem_singleton.mp hw]
    exact Signal.settled_settle v

theorem Settled.of_subset (h : s.Settled) {t : Machine}
    (hsub : t.signals.toList ⊆ s.signals.toList) : t.Settled :=
  fun v hv => h v (hsub hv)

variable {m : Type → Type} [Monad m] [LawfulMonad m]
variable (d : Dialect m) (source : Source m) (index : Nat)

theorem Acts.settled {y : StateT (List Float) m (Except Fault Unit × Machine)}
    {x : m (Except Fault Unit × Machine)} (h : Acts s y x) (hs : s.Settled) :
    SatisfiesM (fun r => r.2.Settled) x := by
  cases h with
  | takes outcome t hsub => exact .pure (hs.of_subset hsub)
  | pushes t _ hsub => exact SatisfiesM.trivial.bind fun v _ => .pure ((hs.of_subset hsub).push v)

theorem settled_step (i : Token) (hs : s.Settled) :
    SatisfiesM (fun r => r.2.Settled) (s.step d source index i) :=
  (acts_step d source index i s).settled hs

theorem settled_run (p : List Token) (hs : s.Settled) :
    SatisfiesM (fun r => r.2.Settled) (s.run d source index p) := by
  induction p generalizing index s with
  | nil => exact .pure hs
  | cons i p ih =>
    refine (settled_step d source index i hs).bind ?_
    rintro ⟨outcome, next⟩ hnext
    cases outcome with
    | error fault => exact .pure hnext
    | ok _ => exact ih (index + 1) hnext

/-- What a run records is settled, since it was on the stack. -/
theorem settled_recording (p : List Token) (hs : s.Settled) {log : List Float}
    (hlog : ∀ v ∈ log, Signal.Settled v) :
    SatisfiesM (fun r => ∀ v ∈ r.2, Signal.Settled v)
      ((s.run d.recording source.silent index p).run log) := by
  -- A step adds to the log what was on the stack before it, and leaves a settled stack to the next.
  induction p generalizing index s log with
  | nil => exact .pure hlog
  | cons i p ih =>
    obtain ⟨us, hus, hrun⟩ := run_recording_cons d source index i p s
    have hmore : ∀ v ∈ log ++ us, Signal.Settled v :=
      List.forall_mem_append.mpr ⟨hlog, fun v hv => hs v (hus hv)⟩
    rw [hrun]
    refine (settled_step d source index i hs).bind ?_
    rintro ⟨outcome, next⟩ hnext
    cases outcome with
    | error fault => exact .pure hmore
    | ok _ => exact ih (index + 1) hnext hmore

/-! ### Evaluations -/

/-- Go on with an evaluation after the first `index` instructions, of which `rest` are left. -/
def proceed (d : Dialect m) (source : Source m) (index : Nat) (rest : List Token) :
    Except Fault Unit × Machine → m (Except Fault Float × Machine)
  | (.ok _, s) => do
    match ← s.run d source index rest with
    | (.ok _, s) => pure s.result
    | (.error fault, s) => pure (.error fault, s)
  | (.error fault, s) => pure (.error fault, s)

theorem run_append (p q : List Token) (s : Machine) :
    s.run d source index (p ++ q) = s.run d source index p >>= fun r =>
      match r with
      | (.ok _, next) => next.run d source (index + p.length) q
      | (.error fault, next) => pure (.error fault, next) := by
  induction p generalizing index s with
  | nil => simp [run]
  | cons i p ih =>
    rw [List.cons_append, run, run, bind_assoc]
    refine bind_congr fun r => ?_
    obtain ⟨outcome, next⟩ := r
    cases outcome with
    | error fault => simp
    | ok _ =>
      simp only [ih, List.length_cons]
      rw [Nat.add_assoc, Nat.add_comm 1]

theorem evaluate_eq_proceed {f : Formula} {p q : List Token} (hf : f.instructions = p ++ q)
    (s : Machine) :
    s.evaluate d source f = s.clear.run d source 0 p >>= proceed d source p.length q := by
  rw [evaluate, hf, run_append, bind_assoc]
  refine bind_congr fun r => ?_
  obtain ⟨outcome, next⟩ := r
  cases outcome with
  | error fault => simp [proceed]
  | ok _ =>
    simp only [Nat.zero_add]
    rfl

theorem settled_result {s : Machine} {v : Float} (h : s.result.1 = .ok v) : Signal.Settled v := by
  have hsettle := settle_result s
  rw [h] at hsettle
  rw [← Except.ok.inj hsettle]
  exact Signal.settled_settle v

theorem settled_fst_evaluate (f : Formula) (s : Machine) :
    SatisfiesM (fun r => ∀ v, r.1 = .ok v → Signal.Settled v) (s.evaluate d source f) := by
  refine SatisfiesM.trivial.bind ?_
  rintro ⟨outcome, next⟩ -
  cases outcome with
  | error fault => exact .pure nofun
  | ok _ => exact .pure fun v hv => settled_result hv

theorem settled_recording_evaluate (f : Formula) (s : Machine) :
    SatisfiesM (fun r => ∀ v ∈ r.2, Signal.Settled v)
      ((s.evaluate d.recording source.silent f).run []) := by
  have hempty : ∀ v ∈ ([] : List Float), Signal.Settled v := List.forall_mem_nil _
  have hrun := settled_recording d source 0 f.instructions (settled_clear s) hempty
  rw [evaluate, StateT.run_bind]
  refine hrun.bind ?_
  rintro ⟨⟨outcome, next⟩, recorded⟩ hrecorded
  cases outcome with
  | error fault => exact .pure hrecorded
  | ok _ => exact .pure hrecorded

/-- Whatever the instructions, the source and the meanings: after the first instructions of an evaluation no
infinity is on the stack; none is among the signals that the meanings are applied to, which recording shows
without changing anything else; and none is the answer. -/
theorem no_infinity_circulates (f : Formula) (s : Machine) :
    (∀ p q, f.instructions = p ++ q →
      s.evaluate d source f = s.clear.run d source 0 p >>= proceed d source p.length q ∧
      SatisfiesM (fun r => ∀ v ∈ r.2.signals.toList, Signal.Settled v) (s.clear.run d source 0 p)) ∧
    (Prod.fst <$> (s.evaluate d.recording source.silent f).run [] = s.evaluate d source f ∧
      SatisfiesM (fun r => ∀ v ∈ r.2, Signal.Settled v)
        ((s.evaluate d.recording source.silent f).run [])) ∧
    SatisfiesM (fun r => ∀ v, r.1 = .ok v → Signal.Settled v) (s.evaluate d source f) := by
  refine ⟨?_, ⟨?_, settled_recording_evaluate d source f s⟩, settled_fst_evaluate d source f s⟩
  · intro p q hf
    exact ⟨evaluate_eq_proceed d source hf s, settled_run d source 0 p (settled_clear s)⟩
  · exact fst_evaluate_recording d source f s []

def unboundedSource : Source Id := fun _ => (1 / 0 : Float)

def unbounded : Dialect Id :=
  (Dialect.empty.withUnary .minus fun _ => (1 / 0 : Float)).withFunction "f" fun _ => (1 / 0 : Float)

/-- In `f(-x)` both the operator and the function receive a missing signal in place of the infinity. -/
theorem no_infinity_circulates_unbounded :
    (∀ v ∈ (fresh.clear.run unbounded unboundedSource 0
        [.openParen, .identifier "x", .operator (.unary .minus)]).2.signals.toList,
      Signal.Settled v) ∧
    ((fresh.evaluate unbounded.recording unboundedSource.silent
        ⟨[.openParen, .identifier "x", .operator (.unary .minus), .call "f"], ""⟩).run []).2.map
      Float.isNaN = [true, true] := by
  obtain ⟨hparts, -, -⟩ := no_infinity_circulates unbounded unboundedSource
    ⟨[.openParen, .identifier "x", .operator (.unary .minus), .call "f"], ""⟩ fresh
  obtain ⟨-, hstack⟩ := hparts [.openParen, .identifier "x", .operator (.unary .minus)] [.call "f"] rfl
  exact ⟨SatisfiesM_Id_eq.mp hstack, rfl⟩

end Machine
end Gauge
