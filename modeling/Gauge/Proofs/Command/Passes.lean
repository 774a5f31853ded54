import Gauge.Command.Run
import Gauge.Proofs.Channel.Passes
import Gauge.Proofs.Command.Recording

/-! # The passes of a polling

What a limited polling is seen to write and how often it reads its clock, for any settings: the lines of
so many passes, with a pause between two of them. It makes the passes asked for, except that zero are asked
for in vain.
-/
namespace Gauge

open Deed

variable {m : Type → Type} [Monad m]

/-- The line of a specification in a pass at the instant `t`. One that is switched off has none, nor has one
whose text is no formula or has no finite signal. -/
def ChannelSpec.line? (w : World m) (source : Source m) (t : Instant) (spec : ChannelSpec) :
    m (Option Line) :=
  if spec.enabled then
    Option.map (fun v => .reading t (spec.name ++ " = " ++ Signal.text v)) <$>
      spec.reading? (.standard w.fraction) source
  else pure none

def Settings.passLines (w : World m) (s : Settings) : m (List Line) := do
  let t ← w.now
  List.reduceOption <$> s.channels.mapM (ChannelSpec.line? w ((Table.ofList s.constants).source.orElse t.source) t)

def Deed.ofPasses (interval : Nat) (passes : List (List Line)) : List Deed :=
  [.paused interval].intercalate (passes.map (·.map .wrote))

theorem Deed.ofPasses_cons_cons (interval : Nat) (first second : List Line) (rest : List (List Line)) :
    ofPasses interval (first :: second :: rest) =
      first.map .wrote ++ .paused interval :: ofPasses interval (second :: rest) := by
  simp [ofPasses, List.intercalate]

theorem Deed.ofPasses_singleton (interval : Nat) (lines : List Line) :
    ofPasses interval [lines] = lines.map .wrote := by
  simp [ofPasses, List.intercalate]

variable [LawfulMonad m]

namespace ChannelSpec

theorem isSome_channel? (spec : ChannelSpec) :
    (Panel.channel? spec).isSome = (spec.enabled && spec.compile.isOk) := by
  unfold Panel.channel?
  cases spec.enabled with
  | false => rfl
  | true => cases spec.compile <;> rfl

theorem line?_of_channel?_eq_none (w : World m) (source : Source m) (t : Instant) {spec : ChannelSpec}
    (h : Panel.channel? spec = none) : spec.line? w source t = pure none := by
  unfold line?
  by_cases henabled : spec.enabled = true
  · have hcompile : spec.compile.isOk = false := by
      have hnone := isSome_channel? spec
      rw [h, henabled] at hnone
      exact hnone.symm
    have hparse : ∃ e, Formula.parse spec.expression = .error e := by
      unfold compile at hcompile
      cases hparse : Formula.parse spec.expression with
      | error e => exact ⟨e, rfl⟩
      | ok f =>
        rw [hparse] at hcompile
        cases hcompile
    obtain ⟨e, hparse⟩ := hparse
    rw [if_pos henabled]
    simp [reading?, Engine.evaluateText, hparse, Except.toOption]
  · rw [if_neg henabled]

end ChannelSpec

namespace Polling

variable (w : World m) (journal : Journal)

open Does

/-! ### One pass -/

theorem quiet_announce (t : Instant) (c : Channel) {outcome : Panel.Outcome} (h : outcome.reading? = none) :
    Quiet (announce w.recording journal t c outcome) (pure ()) := by
  cases outcome with
  | reading v => cases h
  | missing => exact w.quiet_log journal _
  | faulty fault => exact w.quiet_log journal _

omit [LawfulMonad m] in
theorem announce_reading (t : Instant) (c : Channel) {outcome : Panel.Outcome} {v : Float}
    (h : outcome.reading? = some v) :
    announce w.recording journal t c outcome =
      modify (· ++ [.wrote (.reading t (c.name ++ " = " ++ Signal.text v))]) := by
  cases outcome with
  | reading u =>
    cases h
    rfl
  | missing | faulty fault => cases h

variable {β : Type} {x : m (β × List Deed)}

theorem does_poll {d : Dialect (StateT (List Deed) m)} (hd : quiet.Matches d (.standard w.fraction))
    {source : Source (StateT (List Deed) m)} {source' : Source m}
    (hsource : ∀ name, Quiet (source name) (source' name)) (t : Instant) (specs : List ChannelSpec)
    (s : Machine)
    {next : List (Channel × Panel.Outcome) × Engine (StateT (List Deed) m) → StateT (List Deed) m β}
    (hnext : ∀ outcomes u, Does (next (outcomes, ⟨d, u⟩)) x) :
    Does (Panel.poll source (announce w.recording journal t) (specs.filterMap Panel.channel?) ⟨d, s⟩ >>= next)
      (specs.mapM (ChannelSpec.line? w source' t) >>= fun lines => after (lines.reduceOption.map .wrote) x) := by
  induction specs generalizing s next with
  | nil =>
    have hempty := hnext [] s
    rw [← after_nil (x := x)] at hempty
    simpa [Panel.poll] using hempty
  | cons spec rest ih =>
    rw [List.mapM_cons, bind_assoc]
    cases hchannel : Panel.channel? spec with
    | none =>
      have htail := ih s hnext
      rw [List.filterMap_cons_none hchannel, ChannelSpec.line?_of_channel?_eq_none w source' t hchannel]
      simpa only [pure_bind, bind_assoc, List.reduceOption_cons_of_none] using htail
    | some c =>
      obtain ⟨henabled, hname, -⟩ := Panel.channel?_eq_some hchannel
      rw [List.filterMap_cons_some hchannel, Panel.poll_cons_bind, ChannelSpec.line?, if_pos henabled,
        bind_map_left, ← Panel.evaluate_bind_reading? _ source' hchannel]
      refine Machine.does_evaluate_bind hd hsource c.formula s fun answer u => ?_
      have htail : Does (Panel.poll source (announce w.recording journal t) (rest.filterMap Panel.channel?)
          ⟨d, u⟩ >>= fun q => next ((c, .ofResult answer) :: q.1, q.2))
          (rest.mapM (ChannelSpec.line? w source' t) >>= fun lines =>
            after (lines.reduceOption.map .wrote) x) :=
        ih u fun outcomes v => hnext _ v
      simp only [bind_assoc, pure_bind]
      cases hreading : (Panel.Outcome.ofResult answer).reading? with
      | none =>
        have hboth := (quiet_announce w journal t c hreading).bind fun _ => htail
        simpa only [pure_bind, Option.map_none, List.reduceOption_cons_of_none] using hboth
      | some v =>
        have hboth := modify_bind [.wrote (.reading t (c.name ++ " = " ++ Signal.text v))] htail
        rw [announce_reading w journal t c hreading, Option.map_some]
        simp only [List.reduceOption_cons_of_some, List.map_cons, ← hname]
        rw [after_bind] at hboth
        simp only [after_after] at hboth
        exact hboth

structure Polls (s : Settings) (p : Polling (StateT (List Deed) m)) : Prop where
  panel : p.panel = (Panel.compile s.channels).1
  constants : p.constants = .ofList s.constants
  interval : p.interval = s.interval
  dialect : quiet.Matches p.engine.dialect (.standard w.fraction)

variable {w} {s : Settings} {p : Polling (StateT (List Deed) m)}

theorem quiet_orElse (constants : Table) (t : Instant) (name : String) :
    Quiet (m := m) (constants.source.orElse t.source name) (constants.source.orElse t.source name) := by
  refine (quiet_pure _).bind_quiet fun v => ?_
  by_cases hnan : v.isNaN = true
  · simp only [hnan, if_true]
    exact quiet_pure _
  · simp only [hnan]
    exact quiet_pure _

theorem does_pass (h : Polls w s p) (done : Nat)
    {next : Polling (StateT (List Deed) m) → StateT (List Deed) m β} (hnext : ∀ q, Polls w s q → Does (next q) x) :
    Does (p.pass w.recording done >>= next) (s.passLines w >>= fun lines => after (lines.map .wrote) x) := by
  obtain ⟨panel, constants, interval, journal, ⟨d, u⟩⟩ := p
  obtain ⟨hpanel, hconstants, hinterval, hdialect⟩ := h
  simp only at hpanel hconstants hinterval hdialect
  subst hpanel hconstants hinterval
  simp only [pass, Settings.passLines, Panel.evaluateEach, Panel.channels_compile, bind_assoc, pure_bind, bind_map_left]
  refine (quiet_lift w.now).bind fun t => ?_
  have hsource := quiet_orElse (m := m) (Table.ofList s.constants) t
  refine does_poll w journal hdialect (w.quiet_watch journal hsource) t s.channels u fun outcomes v => ?_
  have hlog := (w.quiet_log journal (.passDone done (Panel.readings outcomes).length)).bind
    fun _ => hnext ⟨_, _, _, journal, ⟨d, v⟩⟩ ⟨rfl, rfl, rfl, hdialect⟩
  rwa [pure_bind] at hlog

/-! ### All passes -/

/-- From `done` passes on, those up to the limit are made, and one where none is left. -/
theorem does_passesTo (h : Polls w s p) (limit done : Nat) {next : Nat → StateT (List Deed) m β}
    (hnext : ∀ passes, Does (next passes) x) :
    Does (passesTo w.recording limit done p >>= next)
      ((List.replicate (max (limit - done) 1) (s.passLines w)).mapM id >>= fun lines =>
        after (ofPasses s.interval lines) x) := by
  induction hmore : limit - (done + 1) generalizing done p with
  | zero =>
    have hlast : limit ≤ done + 1 := Nat.le_of_sub_eq_zero hmore
    have hone : max (limit - done) 1 = 1 := by omega
    have hpass := does_pass h done fun q _ => hnext (done + 1)
    rw [passesTo, hone]
    simpa [hlast, ofPasses_singleton] using hpass
  | succ more ih =>
    have hfurther : ¬ limit ≤ done + 1 := by omega
    have hcount : max (limit - done) 1 = max (limit - (done + 1)) 1 + 1 := by omega
    have hmany : max (limit - (done + 1)) 1 = more + 1 := by omega
    -- The pause and the passes after it do not depend on the lines of the first pass.
    have hrest : ∀ q, Polls w s q →
        Does (w.recording.pause q.interval >>= fun _ => passesTo w.recording limit (done + 1) q >>= next)
          (after [.paused s.interval] ((List.replicate (more + 1) (s.passLines w)).mapM id >>= fun lines =>
            after (ofPasses s.interval lines) x)) := by
      intro q hq
      have hpasses := ih hq (done + 1) (by omega)
      rw [hmany] at hpasses
      have hpause := modify_bind [.paused q.interval] hpasses
      rw [hq.interval] at hpause ⊢
      exact hpause
    have hpass := does_pass h done hrest
    rw [passesTo, hcount, hmany]
    simp only [hfurther, if_false, List.replicate_succ, List.mapM_cons, bind_assoc, pure_bind, id_eq, after_bind,
      after_after, ofPasses_cons_cons] at hpass ⊢
    exact hpass

/-- The limit is looked at after a pass, so there is always one. -/
theorem does_limited (h : Polls w s p) (limit : Nat) (a : β) :
    Does (p.limited w.recording limit >>= fun _ => pure a)
      ((fun lines => (a, ofPasses s.interval lines)) <$>
        (List.replicate (max limit 1) (s.passLines w)).mapM id) := by
  have hstop : ∀ passes, Does (w.recording.log p.journal (.pollingStopped passes) >>= fun _ => pure a)
      (pure (a, [])) :=
    fun passes => (w.quiet_log p.journal _).bind_pure a
  have hpasses := does_passesTo h limit 0 hstop
  simp only [Nat.sub_zero, after_pure, List.append_nil] at hpasses
  rw [limited, bind_assoc, ← bind_pure_comp]
  exact hpasses

end Polling

/-! ### The command -/

namespace Command

open Does

variable (w : World m) (journal : Journal) (filterText : String) (settings : Settings) (path : String)

/-- What is told of the settings before a polling is not seen. -/
theorem does_opening {y : StateT (List Deed) m β} {x : m (β × List Deed)} (h : Does y x)
    (report : CompileReport) (complaints : List String) :
    Does (do
      settings.channels.forM fun spec => w.recording.log journal (.compiled spec)
      w.recording.log journal (.reported report)
      w.recording.complainAll complaints
      y) x := by
  have hspecs := World.quiet_forM (fun spec => w.quiet_log journal (.compiled spec)) settings.channels
  have hreport := w.quiet_log journal (.reported report)
  have hall := hspecs.bind fun _ => hreport.bind fun _ => (w.quiet_complainAll complaints).bind fun _ => h
  simp only [pure_bind] at hall
  exact hall

theorem does_poll_exit (h : settings.channels.filterMap Panel.channel? = []) (limit : Option Nat) :
    Does (poll w.recording journal filterText settings path limit) (pure (.exit 1, [])) := by
  unfold poll
  refine does_opening w journal settings ?_ _ _
  have hchannels : (Panel.compileEach settings.channels).1 = [] := by rw [Panel.compileEach_eq, h]
  rw [if_pos (List.isEmpty_iff.mpr hchannels)]
  exact (w.quiet_complainAll (Report.failure s!"No channel compiled from {path}" none)).bind_pure _

theorem does_poll_limited (h : settings.channels.filterMap Panel.channel? ≠ []) (limit : Nat) :
    Does (poll w.recording journal filterText settings path (some limit))
      ((fun passes => (.exit 0, ofPasses settings.interval passes)) <$>
        (List.replicate (max limit 1) (settings.passLines w)).mapM id) := by
  unfold poll
  refine does_opening w journal settings ?_ _ _
  have hchannels : (Panel.compileEach settings.channels).1 ≠ [] := by rwa [Panel.compileEach_eq]
  rw [if_neg (mt List.isEmpty_iff.mp hchannels)]
  have hstart := w.quiet_log journal
    (.pollingStarted (Panel.compile settings.channels).2.compiled settings.interval filterText)
  have hpolls : ∀ names, Polling.Polls w settings
      ⟨(Panel.compile settings.channels).1, .ofList settings.constants, settings.interval, journal,
        .ofDialect (w.recording.dialect journal names)⟩ :=
    fun names => ⟨rfl, rfl, rfl, w.matches_dialect journal names⟩
  have hall := hstart.bind fun _ => Polling.does_limited (hpolls
    ((Panel.compile settings.channels).1.channels.flatMap fun c => c.formula.functionNames)) limit
      (Ending.exit 0 : Ending (StateT (List Deed) m))
  rw [pure_bind] at hall
  exact hall

theorem filterMap_channel?_eq_nil_iff :
    settings.channels.filterMap Panel.channel? = [] ↔
      ∀ spec ∈ settings.channels, ¬ (spec.enabled ∧ spec.compile.isOk) := by
  rw [List.filterMap_eq_nil_iff]
  refine forall₂_congr fun spec _ => ?_
  rw [← Option.not_isSome_iff_eq_none, ChannelSpec.isSome_channel?, Bool.and_eq_true]

/-- With a channel that compiles a polling is seen to write the lines of so many passes as are asked for, or of
one pass if none is asked for. Without such a channel it fails and reads no clock. -/
theorem seen_poll :
    ((∃ spec ∈ settings.channels, spec.enabled ∧ spec.compile.isOk) → ∀ limit : Nat,
      seen <$> (poll w.recording journal filterText settings path (some limit)).run [] =
        (fun passes => (.exit 0, ofPasses settings.interval passes)) <$>
          (List.replicate (max limit 1) (settings.passLines w)).mapM id) ∧
    ((∀ spec ∈ settings.channels, ¬ (spec.enabled ∧ spec.compile.isOk)) → ∀ limit : Option Nat,
      seen <$> (poll w.recording journal filterText settings path limit).run [] = pure (.exit 1, [])) := by
  constructor
  · intro hsome limit
    have hnone : settings.channels.filterMap Panel.channel? ≠ [] := by
      intro hnil
      obtain ⟨spec, hspec, hcompiled⟩ := hsome
      exact (filterMap_channel?_eq_nil_iff settings).mp hnil spec hspec hcompiled
    exact (does_poll_limited w journal filterText settings path hnone limit).seen_run
  · intro hnone limit
    have hnil := (filterMap_channel?_eq_nil_iff settings).mpr hnone
    exact (does_poll_exit w journal filterText settings path hnil limit).seen_run

def tickingWorld : World (StateM Nat) where
  environment := []
  logFilter := none
  read _ := pure none
  makeFolder _ := pure none
  now := do
    let second ← getModify (· + 1)
    pure ⟨2024, 5, 6, 7, 8, second, 0, 0⟩
  fraction := pure 0.5
  print _ := pure ()
  complain _ := pure ()
  pause _ := pure ()

theorem run_map_ticking {α β : Type} (f : α → β) (x : StateM Nat α) (second : Nat) :
    Id.run ((f <$> x).run second) = (f (Id.run (x.run second)).1, (Id.run (x.run second)).2) :=
  rfl

/-- The clock is read twice, and of the five channels two have a reading. -/
theorem seen_poll_ticking :
    let settings : Settings :=
      { interval := 250
        constants := [("k", 10)]
        channels := [⟨"ten", "time.second * k", true, none⟩, ⟨"broken", "(k +", true, none⟩,
          ⟨"lost", "ghost(k)", true, none⟩, ⟨"off", "1", false, none⟩, ⟨"half", "k / 20", true, none⟩] }
    let journal : Journal := ⟨⟨[]⟩, false⟩
    let reading (second : Nat) (text : String) : Line := .reading ⟨2024, 5, 6, 7, 8, second, 0, 0⟩ text
    Id.run ((seen <$> (poll tickingWorld.recording journal "" settings "k.yaml" (some 2)).run []).run 0) =
      ((.exit 0, [.wrote (reading 0 "ten = 0"), .wrote (reading 0 "half = 0.5"), .paused 250,
        .wrote (reading 1 "ten = 10"), .wrote (reading 1 "half = 0.5")]), 2) := by
  intro settings journal reading
  have hpasses : Id.run (((List.replicate 2 (settings.passLines tickingWorld)).mapM id).run 0) =
      ([[reading 0 "ten = 0", reading 0 "half = 0.5"], [reading 1 "ten = 10", reading 1 "half = 0.5"]], 2) := by
    decide +kernel
  rw [(seen_poll tickingWorld journal "" settings "k.yaml").1 ⟨_, List.mem_cons_self, by decide +kernel⟩ 2]
  rw [run_map_ticking, show max 2 1 = 2 from rfl, hpasses]
  rfl

/-- A limit of zero does not keep a polling from a pass. -/
theorem seen_poll_zero :
    let settings : Settings := { channels := [⟨"one", "1", true, none⟩] }
    let journal : Journal := ⟨⟨[]⟩, false⟩
    Id.run ((seen <$> (poll tickingWorld.recording journal "" settings "k.yaml" (some 0)).run []).run 0) ≠
      Id.run (((fun passes => (.exit 0, ofPasses settings.interval passes)) <$>
        (List.replicate 0 (settings.passLines tickingWorld)).mapM id).run 0) := by
  intro settings journal hequal
  have hpass : Id.run (((List.replicate 1 (settings.passLines tickingWorld)).mapM id).run 0) =
      ([[.reading ⟨2024, 5, 6, 7, 8, 0, 0, 0⟩ "one = 1"]], 1) := by
    decide +kernel
  have hchannel : settings.channels.filterMap Panel.channel? ≠ [] :=
    fun hnil => (filterMap_channel?_eq_nil_iff settings).mp hnil _ List.mem_cons_self (by decide +kernel)
  have hzero : Id.run (((List.replicate 0 (settings.passLines tickingWorld)).mapM id).run 0) = ([], 0) := rfl
  rw [(does_poll_limited tickingWorld journal "" settings "k.yaml" hchannel 0).seen_run, run_map_ticking,
    run_map_ticking, show max 0 1 = 1 from rfl, hpass, hzero] at hequal
  have hclock : 1 = 0 := congrArg Prod.snd hequal
  omega

end Command
end Gauge
