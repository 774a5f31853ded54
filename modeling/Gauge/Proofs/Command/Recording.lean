import Gauge.Command.World
import Gauge.Proofs.Machine.Relation

/-! # What a command is seen doing

A world can keep a list of what is written and of the pauses made, in their order, in place of doing it.
What a command is seen doing there leaves out the records of the log and what is complained of, so that a
command is compared with a program that has no log.
-/
namespace Gauge

inductive Deed where
  | wrote (line : Line)
  | complained (text : String)
  | paused (milliseconds : Nat)
  deriving DecidableEq, Repr

namespace Deed

def isVisible : Deed → Bool
  | .wrote (.record _) | .complained _ => false
  | _ => true

def visible (deeds : List Deed) : List Deed := deeds.filter isVisible

theorem visible_append (deeds later : List Deed) :
    visible (deeds ++ later) = visible deeds ++ visible later :=
  List.filter_append deeds later

end Deed

variable {m : Type → Type} [Monad m]

def World.recording (w : World m) : World (StateT (List Deed) m) where
  environment := w.environment
  logFilter := w.logFilter
  read path := StateT.lift (w.read path)
  makeFolder path := StateT.lift (w.makeFolder path)
  now := StateT.lift w.now
  fraction := StateT.lift w.fraction
  print line := modify (· ++ [.wrote line])
  complain text := modify (· ++ [.complained text])
  pause milliseconds := modify (· ++ [.paused milliseconds])

variable {α β : Type}

namespace Deed

def seen (r : α × List Deed) : α × List Deed := (r.1, visible r.2)

def after (deeds : List Deed) (x : m (α × List Deed)) : m (α × List Deed) :=
  (fun r => (r.1, deeds ++ r.2)) <$> x

end Deed

open Deed

/-- `y` does what `x` does and is seen to add the deeds that `x` names. -/
def Does (y : StateT (List Deed) m α) (x : m (α × List Deed)) : Prop :=
  ∀ log, seen <$> y.run log = after (visible log) x

section

variable [LawfulMonad m] {x : m (α × List Deed)}

theorem after_nil : after [] x = x := id_map' x

theorem after_after (deeds later : List Deed) : after deeds (after later x) = after (deeds ++ later) x := by
  simp only [after, Functor.map_map, List.append_assoc]

theorem after_bind (deeds : List Deed) {x : m α} {f : α → m (β × List Deed)} :
    after deeds (x >>= f) = x >>= fun a => after deeds (f a) :=
  map_bind _ _ _

theorem after_pure (deeds later : List Deed) (a : α) :
    after deeds (pure (a, later) : m (α × List Deed)) = pure (a, deeds ++ later) :=
  map_pure _ _

namespace Does

variable {y : StateT (List Deed) m α}

theorem seen_run (h : Does y x) : seen <$> y.run [] = x := (h []).trans after_nil

theorem bind {f : α → StateT (List Deed) m β} {g : α → m (β × List Deed)} (hy : Does y x)
    (hf : ∀ a, Does (f a) (g a)) : Does (y >>= f) (x >>= fun r => after r.2 (g r.1)) := by
  intro log
  have htail : ∀ r : α × List Deed, seen <$> (f r.1).run r.2 = after (seen r).2 (g (seen r).1) :=
    fun r => hf r.1 r.2
  calc seen <$> (y >>= f).run log
      = y.run log >>= fun r => after (seen r).2 (g (seen r).1) := by
        rw [StateT.run_bind, map_bind]
        exact bind_congr htail
    _ = (seen <$> y.run log) >>= fun r => after r.2 (g r.1) := by rw [bind_map_left]
    _ = after (visible log) x >>= fun r => after r.2 (g r.1) := by rw [hy log]
    _ = after (visible log) (x >>= fun r => after r.2 (g r.1)) := by
        simp only [after_bind, after_after]
        exact bind_map_left _ _ _

/-- What is not seen: `y` answers like `x`, and what else it does does not show. -/
def Quiet (y : StateT (List Deed) m α) (x : m α) : Prop := Does y ((·, []) <$> x)

theorem quiet_iff {x : m α} : Quiet y x ↔ ∀ log, seen <$> y.run log = (·, visible log) <$> x := by
  simp only [Quiet, Does, after, Functor.map_map, List.append_nil]

theorem quiet_pure (a : α) : Quiet (Pure.pure a : StateT (List Deed) m α) (Pure.pure a) :=
  quiet_iff.mpr fun log => by simp [seen]

theorem quiet_lift (x : m α) : Quiet (StateT.lift x) x :=
  quiet_iff.mpr fun log => by simp [seen]

theorem Quiet.bind {x : m α} {f : α → StateT (List Deed) m β} {g : α → m (β × List Deed)} (hy : Quiet y x)
    (hf : ∀ a, Does (f a) (g a)) : Does (y >>= f) (x >>= g) := by
  have h := Does.bind hy hf
  simp only [bind_map_left, after_nil] at h
  exact h

theorem Quiet.bind_quiet {x : m α} {f : α → StateT (List Deed) m β} {g : α → m β} (hy : Quiet y x)
    (hf : ∀ a, Quiet (f a) (g a)) : Quiet (y >>= f) (x >>= g) := by
  have h := hy.bind hf
  rw [← map_bind] at h
  exact h

theorem Quiet.bind_pure {a : α} (hy : Quiet y (Pure.pure a)) (b : β) :
    Does (y >>= fun _ => Pure.pure b) (Pure.pure (b, [])) := by
  have h := hy.bind_quiet fun _ => quiet_pure b
  rw [pure_bind, Quiet, map_pure] at h
  exact h

/-- After deeds that are all seen, the rest of a program follows. -/
theorem modify_bind (deeds : List Deed) {f : StateT (List Deed) m β} {x : m (β × List Deed)} (hf : Does f x) :
    Does (modify (· ++ deeds) >>= fun _ => f) (after (visible deeds) x) := by
  intro log
  have h := hf (log ++ deeds)
  rw [visible_append, ← after_after] at h
  simpa using h

def quiet : ProgramRelation (StateT (List Deed) m) m where
  Rel := Quiet
  pure := quiet_pure
  bind := Quiet.bind_quiet

end Does
end

/-! ### The log -/

namespace World

variable [LawfulMonad m] (w : World m) (journal : Journal)

open Does

theorem quiet_modify {deeds : List Deed} (h : visible deeds = []) :
    Quiet (modify (· ++ deeds) : StateT (List Deed) m PUnit) (pure ⟨⟩) :=
  quiet_iff.mpr fun log => by simp [seen, visible_append, h]

theorem quiet_log (r : Record) : Quiet (w.recording.log journal r) (pure ()) := by
  unfold log
  cases journal.line? r with
  | none => exact quiet_pure ()
  | some line => exact quiet_modify rfl

theorem quiet_forM {f : α → StateT (List Deed) m PUnit} (h : ∀ a, Quiet (f a) (pure ⟨⟩)) (as : List α) :
    Quiet (as.forM f) (pure ⟨⟩) := by
  induction as with
  | nil => exact quiet_pure _
  | cons a as ih =>
    have hboth := (h a).bind_quiet fun _ => ih
    rwa [pure_bind] at hboth

theorem quiet_complainAll (lines : List String) : Quiet (w.recording.complainAll lines) (pure ()) :=
  quiet_forM (fun _ => quiet_modify rfl) lines

theorem quiet_watch {source : Source (StateT (List Deed) m)} {source' : Source m}
    (h : ∀ name, Quiet (source name) (source' name)) (name : String) :
    Quiet (w.recording.watch journal source name) (source' name) := by
  have hpure : ∀ v : Float, Quiet (do
      if v.isNaN then w.recording.log journal (.unresolved name)
      Pure.pure v) (Pure.pure v) := by
    intro v
    by_cases hnan : v.isNaN = true
    · simp only [hnan, if_true]
      have hboth := (quiet_log w journal (.unresolved name)).bind_quiet fun _ => quiet_pure v
      rwa [pure_bind] at hboth
    · simp only [hnan]
      exact quiet_pure v
  have h := (h name).bind_quiet hpure
  rwa [bind_pure] at h

/-- A function that only notes its call is like one that is not there. -/
theorem matches_supply {d : Dialect (StateT (List Deed) m)} {d' : Dialect m} (h : quiet.Matches d d')
    (name : String) : quiet.Matches (w.recording.supply journal d name) d' := by
  unfold supply
  by_cases hthere : (d.function? name).isSome = true
  · rw [if_pos hthere]
    exact h
  · rw [if_neg hthere]
    refine ⟨h.unary, h.binary, fun key vs => ?_⟩
    by_cases hkey : name = key
    · subst hkey
      have hmissing := h.function name vs
      rw [Option.not_isSome_iff_eq_none.mp hthere] at hmissing
      have hnoted : Quiet (do
          w.recording.log journal (.unknownFunction name)
          Pure.pure Signal.missing) (Machine.answer ((d'.function? name).map (· vs))) := by
        have hboth := (quiet_log w journal (.unknownFunction name)).bind fun _ => hmissing
        rwa [pure_bind] at hboth
      rw [Dialect.function?, Std.TreeMap.getElem?_insert_self]
      exact hnoted
    · rw [Dialect.function?, Std.TreeMap.getElem?_insert, if_neg (by simpa using hkey)]
      exact h.function key vs

theorem matches_dialect (names : List String) :
    quiet.Matches (w.recording.dialect journal names) (.standard w.fraction) := by
  have hfold : ∀ d : Dialect (StateT (List Deed) m), quiet.Matches d (.standard w.fraction) →
      quiet.Matches (names.foldl (w.recording.supply journal) d) (.standard w.fraction) := by
    induction names with
    | nil => exact fun d h => h
    | cons name names ih => exact fun d h => ih _ (matches_supply w journal h name)
  exact hfold _ (ProgramRelation.matches_standard (quiet_lift w.fraction))

end World

namespace Machine

variable [LawfulMonad m] {d : Dialect (StateT (List Deed) m)} {d' : Dialect m}
  {source : Source (StateT (List Deed) m)} {source' : Source m}

/-- An evaluation that is quietly related to one against `d'` and `source'`, with what follows it from any
machine. -/
theorem does_evaluate_bind (hd : Does.quiet.Matches d d') (hsource : ∀ name, Does.Quiet (source name) (source' name))
    (f : Formula) (s : Machine) {next : Except Fault Float × Machine → StateT (List Deed) m β}
    {next' : Except Fault Float → m (β × List Deed)}
    (h : ∀ answer t, Does (next (answer, t)) (next' answer)) :
    Does (s.evaluate d source f >>= next) ((Prod.fst <$> fresh.evaluate d' source' f) >>= next') := by
  have hrun : Does.Quiet (s.evaluate d source f) (s.evaluate d' source' f) :=
    Does.quiet.evaluate (fun i _ => hd.agree hsource i) s
  have hboth := hrun.bind fun r => h r.1 r.2
  rwa [evaluate_bind d' source' f s (fun _ _ => rfl)] at hboth

end Machine
end Gauge
