import Mathlib.Data.List.Forall2
import Gauge.Channel

/-! # Compiling specifications

Each specification that is switched on contributes one entry to the outcome of compiling: a channel if its
text is a formula, and else its name with what is wrong. The entries stay in the order of the specifications,
and none depends on another specification.
-/
namespace Gauge

inductive ChannelSpec.Contributes (spec : ChannelSpec) : Channel ⊕ String × SyntaxError → Prop
  | channel {f : Formula} (h : Formula.parse spec.expression = .ok f) :
      Contributes spec (.inl ⟨spec.name, spec.description, f⟩)
  | skipped {e : SyntaxError} (h : Formula.parse spec.expression = .error e) :
      Contributes spec (.inr (spec.name, e))

namespace Panel

def channel? (spec : ChannelSpec) : Option Channel :=
  if spec.enabled then spec.compile.toOption else none

def skipped? (spec : ChannelSpec) : Option (String × SyntaxError) :=
  if spec.enabled then
    match spec.compile with
    | .ok _ => none
    | .error e => some (spec.name, e)
  else none

/-- The one pass over the specifications divides them into channels and names that are left out. -/
theorem compileEach_eq (specs : List ChannelSpec) :
    compileEach specs = (specs.filterMap channel?, specs.filterMap skipped?) := by
  induction specs with
  | nil => rfl
  | cons spec rest ih =>
    rw [compileEach, ih, List.filterMap_cons, List.filterMap_cons, channel?, skipped?]
    cases spec.enabled with
    | false => rfl
    | true =>
      cases spec.compile with
      | ok c => rfl
      | error e => rfl

theorem channels_compile (specs : List ChannelSpec) :
    (compile specs).1.channels = specs.filterMap channel? := by
  rw [compile, compileEach_eq]

theorem skipped_compile (specs : List ChannelSpec) :
    (compile specs).2.skipped = specs.filterMap skipped? := by
  rw [compile, compileEach_eq]

theorem channel?_of_ok {spec : ChannelSpec} {f : Formula} (henabled : spec.enabled = true)
    (h : Formula.parse spec.expression = .ok f) :
    channel? spec = some ⟨spec.name, spec.description, f⟩ ∧ skipped? spec = none := by
  simp only [channel?, skipped?, ChannelSpec.compile, henabled, h, if_true]
  exact ⟨rfl, rfl⟩

theorem skipped?_of_error {spec : ChannelSpec} {e : SyntaxError} (henabled : spec.enabled = true)
    (h : Formula.parse spec.expression = .error e) :
    channel? spec = none ∧ skipped? spec = some (spec.name, e) := by
  simp only [channel?, skipped?, ChannelSpec.compile, henabled, h, if_true]
  exact ⟨rfl, rfl⟩

theorem channel?_of_disabled {spec : ChannelSpec} (h : spec.enabled = false) :
    channel? spec = none ∧ skipped? spec = none := by
  simp only [channel?, skipped?, h, Bool.false_eq_true, if_false, and_self]

theorem exists_contributes {spec : ChannelSpec} (henabled : spec.enabled = true) :
    ∃ entry, spec.Contributes entry ∧ channel? spec = entry.getLeft? ∧ skipped? spec = entry.getRight? := by
  cases h : Formula.parse spec.expression with
  | ok f => exact ⟨_, .channel h, channel?_of_ok henabled h⟩
  | error e => exact ⟨_, .skipped h, skipped?_of_error henabled h⟩

/-- The channels and the skipped names are one list of entries, divided. -/
theorem exists_entries (specs : List ChannelSpec) :
    ∃ entries, List.Forall₂ ChannelSpec.Contributes (specs.filter (·.enabled)) entries ∧
      (compile specs).1.channels = entries.filterMap Sum.getLeft? ∧
      (compile specs).2.skipped = entries.filterMap Sum.getRight? := by
  induction specs with
  | nil => exact ⟨[], .nil, rfl, rfl⟩
  | cons spec rest ih =>
    obtain ⟨entries, hentries, hchannels, hskipped⟩ := ih
    rw [channels_compile] at hchannels ⊢
    rw [skipped_compile] at hskipped ⊢
    cases henabled : spec.enabled with
    | false =>
      obtain ⟨hchannel, hskip⟩ := channel?_of_disabled henabled
      refine ⟨entries, ?_, ?_, ?_⟩
      · rwa [List.filter_cons_of_neg (by rw [henabled]; exact Bool.false_ne_true)]
      · rw [List.filterMap_cons_none hchannel, hchannels]
      · rw [List.filterMap_cons_none hskip, hskipped]
    | true =>
      obtain ⟨entry, hentry, hchannel, hskip⟩ := exists_contributes henabled
      refine ⟨entry :: entries, ?_, ?_, ?_⟩
      · rw [List.filter_cons_of_pos henabled]
        exact .cons hentry hentries
      · rw [List.filterMap_cons, List.filterMap_cons, hchannel, hchannels]
      · rw [List.filterMap_cons, List.filterMap_cons, hskip, hskipped]

theorem length_lefts_add_rights {α β : Type} (entries : List (α ⊕ β)) :
    (entries.filterMap Sum.getLeft?).length + (entries.filterMap Sum.getRight?).length = entries.length := by
  induction entries with
  | nil => rfl
  | cons entry entries ih =>
    cases entry with
    | inl a =>
      simp only [List.filterMap_cons, Sum.getLeft?_inl, Sum.getRight?_inl, List.length_cons]
      omega
    | inr b =>
      simp only [List.filterMap_cons, Sum.getLeft?_inr, Sum.getRight?_inr, List.length_cons]
      omega

theorem skipped?_eq_none_iff (spec : ChannelSpec) :
    skipped? spec = none ↔ (spec.enabled = true → ∃ f, Formula.parse spec.expression = .ok f) := by
  cases henabled : spec.enabled with
  | false => exact iff_of_true (channel?_of_disabled henabled).2 nofun
  | true =>
    cases h : Formula.parse spec.expression with
    | ok f => exact iff_of_true (channel?_of_ok henabled h).2 fun _ => ⟨f, rfl⟩
    | error e =>
      rw [(skipped?_of_error henabled h).2]
      refine iff_of_false nofun fun hok => ?_
      obtain ⟨f, hf⟩ := hok rfl
      cases hf

theorem isClean_compile_iff (specs : List ChannelSpec) :
    (compile specs).2.isClean = true ↔
      ∀ spec ∈ specs, spec.enabled = true → ∃ f, Formula.parse spec.expression = .ok f := by
  rw [CompileReport.isClean, List.isEmpty_iff]
  simp only [skipped_compile, List.filterMap_eq_nil_iff, skipped?_eq_none_iff]

/-- Compiling gives one entry for each specification that is switched on, in their order, and counts the
channels. It is clean exactly if all of their texts are formulas. What is compiled from two lists one after the
other is what is compiled from each. -/
theorem compile_contributions (specs : List ChannelSpec) :
    (∃ entries, List.Forall₂ ChannelSpec.Contributes (specs.filter (·.enabled)) entries ∧
      (compile specs).1.channels = entries.filterMap Sum.getLeft? ∧
      (compile specs).2.skipped = entries.filterMap Sum.getRight?) ∧
    (compile specs).2.compiled = (compile specs).1.channels.length ∧
    (compile specs).2.compiled + (compile specs).2.skipped.length = (specs.filter (·.enabled)).length ∧
    ((compile specs).2.isClean = true ↔ (compile specs).2.skipped = []) ∧
    ((compile specs).2.isClean = true ↔
      ∀ spec ∈ specs, spec.enabled = true → ∃ f, Formula.parse spec.expression = .ok f) ∧
    ∀ more, (compile (specs ++ more)).1.channels = (compile specs).1.channels ++ (compile more).1.channels ∧
      (compile (specs ++ more)).2.skipped = (compile specs).2.skipped ++ (compile more).2.skipped := by
  obtain ⟨entries, hentries, hchannels, hskipped⟩ := exists_entries specs
  refine ⟨⟨entries, hentries, hchannels, hskipped⟩, rfl, ?_, List.isEmpty_iff, isClean_compile_iff specs, ?_⟩
  · have hcount : (compile specs).2.compiled = (compile specs).1.channels.length := rfl
    rw [hcount, hchannels, hskipped, length_lefts_add_rights, hentries.length_eq]
  · intro more
    simp only [channels_compile, skipped_compile]
    exact ⟨List.filterMap_append, List.filterMap_append⟩

end Panel
end Gauge
