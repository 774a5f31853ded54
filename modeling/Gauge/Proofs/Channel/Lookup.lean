import Mathlib.Data.List.Nodup
import Mathlib.Tactic.SplitIfs
import Gauge.Proofs.Channel.Compilation
import Gauge.Proofs.Text.AsciiCase
import Gauge.Settings.Basic

/-! # Channels by name

Valid settings have no two channels whose names share a lowercase form. A panel finds a channel under the
names that differ from its own in the case of ASCII letters; these have the lowercase form of its name, but
not all names with this form are among them.
-/
namespace Gauge

namespace Settings

theorem nodup_of_channelFault {seen : List String} {specs : List ChannelSpec}
    (h : channelFault seen specs = none) : (∀ spec ∈ specs, Text.lowercase spec.name ∉ seen) ∧
      (specs.map fun spec => Text.lowercase spec.name).Nodup := by
  induction specs generalizing seen with
  | nil => exact ⟨nofun, .nil⟩
  | cons spec rest ih =>
    simp only [channelFault] at h
    split_ifs at h with hblank hseen
    obtain ⟨hfresh, hnodup⟩ := ih h
    constructor
    · intro other hother
      rcases List.mem_cons.mp hother with rfl | hother
      · exact hseen
      · exact fun hmem => hfresh other hother (List.mem_cons_of_mem _ hmem)
    · refine List.nodup_cons.mpr ⟨fun hmem => ?_, hnodup⟩
      obtain ⟨other, hother, hname⟩ := List.mem_map.mp hmem
      exact hfresh other hother (hname ▸ List.mem_cons_self)

theorem nodup_lowercase_names {s : Settings} (h : s.fault? = none) :
    (s.channels.map fun spec => Text.lowercase spec.name).Nodup := by
  unfold fault? at h
  split_ifs at h
  exact (nodup_of_channelFault h).2

end Settings

namespace Panel

theorem channel?_eq_some {spec : ChannelSpec} {c : Channel} (h : channel? spec = some c) :
    spec.enabled = true ∧ c.name = spec.name ∧ Formula.parse spec.expression = .ok c.formula := by
  unfold channel? ChannelSpec.compile at h
  split_ifs at h with henabled
  cases hparse : Formula.parse spec.expression with
  | error e => simp [hparse, Except.map, Except.toOption] at h
  | ok f =>
    simp only [hparse, Except.map, Except.toOption, Option.some.injEq] at h
    subst h
    exact ⟨henabled, rfl, rfl⟩

/-- The names of the channels of a panel are some of those specified, in their order. -/
theorem sublist_names (specs : List ChannelSpec) :
    ((compile specs).1.channels.map Channel.name).Sublist (specs.map ChannelSpec.name) := by
  rw [channels_compile]
  induction specs with
  | nil => exact .slnil
  | cons spec rest ih =>
    rw [List.map_cons]
    cases hchannel : channel? spec with
    | none =>
      rw [List.filterMap_cons_none hchannel]
      exact ih.cons _
    | some c =>
      rw [List.filterMap_cons_some hchannel, List.map_cons, (channel?_eq_some hchannel).2.1]
      exact ih.cons_cons _

theorem sameUpToAsciiCase_iff {name other : String} :
    Text.sameUpToAsciiCase name other = true ↔ Text.asciiLower name = Text.asciiLower other := beq_iff_eq

theorem mem_of_get? {p : Panel} {name : String} {c : Channel} (h : p.get? name = some c) :
    c ∈ p.channels ∧ Text.asciiLower c.name = Text.asciiLower name := by
  unfold get? at h
  have hsame := List.find?_some h
  exact ⟨List.mem_of_find?_eq_some h, sameUpToAsciiCase_iff.mp hsame⟩

/-- A panel whose channels have different lowercase names finds the one with the name asked for, in some case
of its ASCII letters. -/
theorem get?_eq_some_iff {p : Panel} (h : (p.channels.map fun c => Text.lowercase c.name).Nodup)
    (name : String) (c : Channel) :
    p.get? name = some c ↔ c ∈ p.channels ∧ Text.asciiLower c.name = Text.asciiLower name := by
  refine ⟨mem_of_get?, ?_⟩
  rintro ⟨hmem, hname⟩
  have hfound : (p.get? name).isSome = true :=
    List.find?_isSome.mpr ⟨c, hmem, sameUpToAsciiCase_iff.mpr hname⟩
  obtain ⟨d, hd⟩ := Option.isSome_iff_exists.mp hfound
  obtain ⟨hdmem, hdname⟩ := mem_of_get? hd
  -- The channel found has the same lowercase name, so it is the one that is there.
  have hlower : Text.lowercase d.name = Text.lowercase c.name :=
    Text.lowercase_eq_of_asciiLower_eq (hdname.trans hname.symm)
  rw [hd, List.inj_on_of_nodup_map h hdmem hmem hlower]

end Panel

namespace Settings

theorem nodup_compiled_names {s : Settings} (h : s.fault? = none) :
    ((Panel.compile s.channels).1.channels.map fun c => Text.lowercase c.name).Nodup := by
  have hnames := (Panel.sublist_names s.channels).map Text.lowercase
  rw [List.map_map, List.map_map] at hnames
  exact (nodup_lowercase_names h).sublist hnames

/-- In the panel of valid settings a name finds the channel whose name has the same lowercase form, provided
that the two agree outside the ASCII letters; among ASCII names it always does. -/
theorem get?_compile_eq_some_iff {s : Settings} (h : s.fault? = none) (name : String) (c : Channel) :
    ((Panel.compile s.channels).1.get? name = some c ↔ c ∈ (Panel.compile s.channels).1.channels ∧
      Text.lowercase c.name = Text.lowercase name ∧ Text.asciiLower c.name = Text.asciiLower name) ∧
    (Text.isAscii c.name = true → Text.isAscii name = true →
      ((Panel.compile s.channels).1.get? name = some c ↔
        c ∈ (Panel.compile s.channels).1.channels ∧ Text.lowercase c.name = Text.lowercase name)) := by
  have hget := Panel.get?_eq_some_iff (nodup_compiled_names h) name c
  constructor
  · rw [hget]
    exact and_congr_right fun _ => (and_iff_right_of_imp Text.lowercase_eq_of_asciiLower_eq).symm
  · intro hc hname
    rw [hget, Text.lowercase_of_isAscii hc, Text.lowercase_of_isAscii hname]

theorem get?_compile_eq_some_iff_mixed :
    let s : Settings := { channels := [⟨"Ratio", "a / b", true, none⟩, ⟨"broken", "(a +", true, none⟩,
      ⟨"Débit", "a", true, none⟩, ⟨"off", "1", false, none⟩] }
    s.fault? = none ∧ ((Panel.compile s.channels).1.get? "rATIO").map Channel.name = some "Ratio" ∧
      ((Panel.compile s.channels).1.get? "déBIT").map Channel.name = some "Débit" := by
  intro s
  have hs : s.fault? = none := by decide
  let ratio : Channel :=
    ⟨"Ratio", none, ⟨[.identifier "a", .identifier "b", .operator (.binary .divide)], "a / b"⟩⟩
  let debit : Channel := ⟨"Débit", none, ⟨[.identifier "a"], "a"⟩⟩
  have hratio : ratio ∈ (Panel.compile s.channels).1.channels := List.mem_of_getElem? (i := 0) rfl
  have hdebit : debit ∈ (Panel.compile s.channels).1.channels := List.mem_of_getElem? (i := 1) rfl
  have hascii := (get?_compile_eq_some_iff hs "rATIO" ratio).2 (by decide) (by decide)
  have hmixed := (get?_compile_eq_some_iff hs "déBIT" debit).1
  have hcase : Text.asciiLower debit.name = Text.asciiLower "déBIT" :=
    Text.asciiLower_eq_iff.mpr (by decide)
  rw [hascii.mpr ⟨hratio, by decide⟩, hmixed.mpr ⟨hdebit, by decide, hcase⟩]
  exact ⟨hs, rfl, rfl⟩

/-- A capital outside ASCII has a lowercase form that valid settings compare and panels do not. -/
theorem get?_compile_capital :
    let s : Settings := { channels := [⟨"É", "1", true, none⟩] }
    s.fault? = none ∧ (∃ c ∈ (Panel.compile s.channels).1.channels,
      Text.lowercase c.name = Text.lowercase "é") ∧ (Panel.compile s.channels).1.get? "é" = none := by
  intro s
  let c : Channel := ⟨"É", none, ⟨[.number 1], "1"⟩⟩
  have hchannels : (Panel.compile s.channels).1.channels = [c] := rfl
  refine ⟨by decide, ⟨c, hchannels ▸ List.mem_singleton_self c, by decide⟩, ?_⟩
  refine Option.eq_none_iff_forall_ne_some.mpr fun d hd => ?_
  obtain ⟨hmem, hname⟩ := Panel.mem_of_get? hd
  rw [hchannels, List.mem_singleton] at hmem
  rw [hmem, Text.asciiLower_eq_iff] at hname
  exact absurd hname (by decide)

end Settings
end Gauge
