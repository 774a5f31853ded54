import Mathlib
import Gauge.Proofs.Channel.Lookup

/-! # No query means two channels

Valid settings compare the lowercase forms of all the names they hold, and a panel compares names with a
query up to the case of ASCII letters. The second comparison is the finer one: it never joins two names that
the first one keeps apart. So the order of the channels does not matter to a query.
-/
namespace Gauge

namespace Text

/-- One text is the other with some letters written as capitals and the others small, ASCII letters alone. -/
def Recased (s t : String) : Prop :=
  List.Forall₂ (fun c d => d = c.toLower ∨ d = c.toUpper) s.toList t.toList

theorem toLower_eq_toLower_iff {c d : Char} : c.toLower = d.toLower ↔ d = c.toLower ∨ d = c.toUpper := by
  constructor
  · intro h
    by_cases hd : d.isUpper = true
    · have hself := Char.toUpper_eq_of_not_isLower (Char.not_isLower_of_isUpper hd)
      right
      rw [← hself, ← Char.toUpper_toLower_eq_toUpper d, ← h, Char.toUpper_toLower_eq_toUpper]
    · left
      rw [h, Char.toLower_eq_of_not_isUpper hd]
  · rintro (rfl | rfl)
    · exact (Char.toLower_toLower_eq_toLower c).symm
    · exact (Char.toLower_toUpper_eq_toLower c).symm

theorem recased_iff {s t : String} : Recased s t ↔ asciiLower s = asciiLower t := by
  rw [asciiLower_eq_iff, ← List.forall₂_eq_eq_eq, List.forall₂_map_left_iff, List.forall₂_map_right_iff]
  simp only [toLower_eq_toLower_iff, Recased]

theorem lowercase_eq_of_recased {s t : String} (h : Recased s t) : lowercase s = lowercase t :=
  lowercase_eq_of_asciiLower_eq (recased_iff.mp h)

end Text

namespace Panel

/-- Two orders of channels with different lowercase names answer every query alike. -/
theorem get?_eq_of_perm {p q : Panel} (hperm : q.channels.Perm p.channels)
    (hp : (p.channels.map fun c => Text.lowercase c.name).Nodup) (query : String) :
    q.get? query = p.get? query := by
  have hq : (q.channels.map fun c => Text.lowercase c.name).Nodup := (hperm.map _).nodup_iff.mpr hp
  refine Option.ext fun c => ?_
  rw [get?_eq_some_iff hq, get?_eq_some_iff hp, hperm.mem_iff]

theorem perm_compile {specs others : List ChannelSpec} (h : specs.Perm others) :
    (compile specs).1.channels.Perm (compile others).1.channels := by
  rw [channels_compile, channels_compile]
  exact h.filterMap channel?

theorem index_unique {p : Panel} (h : (p.channels.map fun c => Text.lowercase c.name).Nodup) {query : String}
    {i j : Nat} {c d : Channel} (hi : p.channels[i]? = some c) (hj : p.channels[j]? = some d)
    (hc : Text.Recased c.name query) (hd : Text.Recased d.name query) : i = j := by
  have hlower : Text.lowercase c.name = Text.lowercase d.name :=
    (Text.lowercase_eq_of_recased hc).trans (Text.lowercase_eq_of_recased hd).symm
  have hbound : i < (p.channels.map fun c => Text.lowercase c.name).length := by
    rw [List.length_map]
    exact (List.getElem?_eq_some_iff.mp hi).1
  refine (List.getElem?_inj hbound h).mp ?_
  rw [List.getElem?_map, List.getElem?_map, hi, hj, Option.map_some, Option.map_some, hlower]

end Panel

namespace Settings

/-- Of all the specifications of valid settings, switched on or off, no two have names that differ in the case
of ASCII letters at most. A query matches one channel of their panel at most, whichever order the
specifications or the channels come in, and finds each channel under every casing of its name. -/
theorem get?_compile_unambiguous {s : Settings} (h : s.fault? = none) :
    s.channels.Pairwise (fun a b => ¬ Text.Recased a.name b.name) ∧
    (∀ (query : String) (i j : Nat) (c d : Channel), (Panel.compile s.channels).1.channels[i]? = some c →
      (Panel.compile s.channels).1.channels[j]? = some d →
      Text.Recased c.name query → Text.Recased d.name query → i = j) ∧
    (∀ specs query, specs.Perm s.channels →
      (Panel.compile specs).1.get? query = (Panel.compile s.channels).1.get? query) ∧
    (∀ (p : Panel) (query : String), p.channels.Perm (Panel.compile s.channels).1.channels →
      p.get? query = (Panel.compile s.channels).1.get? query) ∧
    ∀ query c, (Panel.compile s.channels).1.get? query = some c ↔
      c ∈ (Panel.compile s.channels).1.channels ∧ Text.Recased c.name query := by
  have hnames := nodup_compiled_names h
  refine ⟨?_, ?_, ?_, ?_, ?_⟩
  · refine (List.pairwise_map.mp (nodup_lowercase_names h)).imp fun hne hrecased => ?_
    exact hne (Text.lowercase_eq_of_recased hrecased)
  · exact fun query i j c d hi hj hc hd => Panel.index_unique hnames hi hj hc hd
  · exact fun specs query hperm => Panel.get?_eq_of_perm (Panel.perm_compile hperm) hnames query
  · exact fun p query hperm => Panel.get?_eq_of_perm hperm hnames query
  · intro query c
    rw [Panel.get?_eq_some_iff hnames, Text.recased_iff]

theorem get?_compile_unambiguous_mixed :
    let specs : List ChannelSpec := [⟨"Ratio", "a / b", true, none⟩, ⟨"broken", "(a +", true, none⟩,
      ⟨"ΔΣ rate", "a", true, none⟩, ⟨"off", "1", false, none⟩]
    ({ channels := specs } : Settings).fault? = none ∧ Text.Recased "ΔΣ rate" "ΔΣ RaTE" ∧
      ((Panel.compile specs.reverse).1.get? "ΔΣ RaTE").map Channel.name = some "ΔΣ rate" ∧
      ¬ Text.Recased "broken" "off" := by
  intro specs
  have hs : ({ channels := specs } : Settings).fault? = none := by decide
  obtain ⟨hpairs, -, hperm, -, hget⟩ := get?_compile_unambiguous hs
  let rate : Channel := ⟨"ΔΣ rate", none, ⟨[.identifier "a"], "a"⟩⟩
  have hrate : rate ∈ (Panel.compile specs).1.channels := List.mem_of_getElem? (i := 1) rfl
  have hrecased : Text.Recased "ΔΣ rate" "ΔΣ RaTE" :=
    Text.recased_iff.mpr (Text.asciiLower_eq_iff.mpr (by decide))
  refine ⟨hs, hrecased, ?_, List.pairwise_iff_getElem.mp hpairs 1 3 (by decide) (by decide) (by decide)⟩
  rw [hperm specs.reverse "ΔΣ RaTE" (List.reverse_perm specs), (hget "ΔΣ RaTE" rate).mpr ⟨hrate, hrecased⟩]
  rfl

end Settings
end Gauge
