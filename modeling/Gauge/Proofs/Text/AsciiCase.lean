import Gauge.Text.Case

/-! # The case of ASCII letters

The lowercase form of a text does not depend on the case of its ASCII letters, and in a text of ASCII
characters nothing else changes. Texts with the same lowercase form can differ in other letters as well.
-/
namespace Gauge.Text

/-- To lowercasing two characters are alike: it maps them to the same and sees no difference between them
around a sigma. -/
structure Alike (c d : Char) : Prop where
  sigma : c = capitalSigma ↔ d = capitalSigma
  lower : lowerChar c = lowerChar d
  cased : isCased c = isCased d
  ignorable : isCaseIgnorable c = isCaseIgnorable d

theorem alike_capital : ∀ n < 26, let c := Char.ofNat ('A'.toNat + n)
    (c.toLower ≠ capitalSigma ∧ c ≠ capitalSigma) ∧ lowerChar c.toLower = lowerChar c ∧
      isCased c.toLower = isCased c ∧ isCaseIgnorable c.toLower = isCaseIgnorable c := by
  decide

theorem toLower_eq_or_capital (c : Char) :
    c.toLower = c ∨ ∃ n < 26, Char.ofNat ('A'.toNat + n) = c := by
  by_cases hcapital : 'A'.val ≤ c.val ∧ c.val ≤ 'Z'.val
  · have hlow : 65 ≤ c.toNat := hcapital.1
    have hhigh : c.toNat ≤ 90 := hcapital.2
    refine .inr ⟨c.toNat - 65, by omega, ?_⟩
    rw [show 'A'.toNat + (c.toNat - 65) = c.toNat by change 65 + _ = _; omega, Char.ofNat_toNat]
  · exact .inl (dif_neg hcapital)

theorem alike_toLower (c : Char) : Alike c.toLower c := by
  rcases toLower_eq_or_capital c with hself | ⟨n, hn, rfl⟩
  · rw [hself]
    exact ⟨Iff.rfl, rfl, rfl, rfl⟩
  · obtain ⟨hsigma, hlower, hcased, hignorable⟩ := alike_capital n hn
    exact ⟨iff_of_false hsigma.1 hsigma.2, hlower, hcased, hignorable⟩

theorem meetsCased_map_toLower (cs : List Char) : meetsCased (cs.map Char.toLower) = meetsCased cs := by
  have hignorable : isCaseIgnorable ∘ Char.toLower = isCaseIgnorable := by
    funext c
    exact (alike_toLower c).ignorable
  rw [meetsCased, meetsCased, List.dropWhile_map, hignorable]
  cases cs.dropWhile isCaseIgnorable with
  | nil => rfl
  | cons c rest => exact (alike_toLower c).cased

theorem lowerFrom_map_toLower (before cs : List Char) :
    lowerFrom (before.map Char.toLower) (cs.map Char.toLower) = lowerFrom before cs := by
  induction cs generalizing before with
  | nil => rfl
  | cons c cs ih =>
    have hrest := ih (c :: before)
    rw [List.map_cons] at hrest
    rw [List.map_cons, lowerFrom, lowerFrom, hrest, (alike_toLower c).lower, meetsCased_map_toLower,
      meetsCased_map_toLower]
    simp only [(alike_toLower c).sigma]

theorem asciiLower_eq_iff {s t : String} :
    asciiLower s = asciiLower t ↔ s.toList.map Char.toLower = t.toList.map Char.toLower := by
  rw [asciiLower, asciiLower, ← String.toList_inj, String.toList_map, String.toList_map]

theorem asciiLower_ofList (cs : List Char) :
    asciiLower (String.ofList cs) = String.ofList (cs.map Char.toLower) := by
  rw [asciiLower, ← String.toList_inj, String.toList_map, String.toList_ofList, String.toList_ofList]

theorem lowercase_asciiLower (s : String) : lowercase (asciiLower s) = lowercase s := by
  have hlower := lowerFrom_map_toLower [] s.toList
  rw [List.map_nil] at hlower
  rw [lowercase, lowercase, asciiLower, String.toList_map, hlower]

/-- Texts that differ in the case of ASCII letters only have one lowercase form. -/
theorem lowercase_eq_of_asciiLower_eq {s t : String} (h : asciiLower s = asciiLower t) :
    lowercase s = lowercase t := by
  rw [← lowercase_asciiLower s, h, lowercase_asciiLower]

/-! ### ASCII texts -/

def isAscii (s : String) : Bool := s.toList.all fun c => c.toNat < 128

theorem lowerChar_of_ascii {c : Char} (h : c.toNat < 128) :
    c ≠ capitalSigma ∧ lowerChar c = [c.toLower] := by
  have hall : ∀ n < 128,
      Char.ofNat n ≠ capitalSigma ∧ lowerChar (Char.ofNat n) = [(Char.ofNat n).toLower] := by
    decide
  have hc := hall c.toNat h
  rwa [Char.ofNat_toNat] at hc

theorem lowerFrom_of_ascii {before cs : List Char} (h : ∀ c ∈ cs, c.toNat < 128) :
    lowerFrom before cs = cs.map Char.toLower := by
  induction cs generalizing before with
  | nil => rfl
  | cons c cs ih =>
    obtain ⟨hc, hcs⟩ := List.forall_mem_cons.mp h
    obtain ⟨hsigma, hchar⟩ := lowerChar_of_ascii hc
    rw [lowerFrom, if_neg hsigma, hchar, ih hcs]
    rfl

theorem lowercase_of_isAscii {s : String} (h : isAscii s = true) : lowercase s = asciiLower s := by
  have hchars : ∀ c ∈ s.toList, c.toNat < 128 := by simpa [isAscii] using h
  rw [lowercase, lowerFrom_of_ascii hchars, asciiLower, ← String.toList_map, String.ofList_toList]

end Gauge.Text
