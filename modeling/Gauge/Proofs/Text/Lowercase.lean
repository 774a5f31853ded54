import Mathlib.Tactic.SplitIfs
import Gauge.Text.Case

/-! # Lowercase texts

The lowercase form of a character has no other lowercase form, so a text is lowercased once and for all.
-/
namespace Gauge.Text

/-- None of the code points `first, first + step, …, last` is in the ascending spans: they stand before
or after a span, or between the code points of a span that holds every second one. -/
def avoids {α : Type} (first last step : Nat) : List (Stepped α) → Bool
  | [] => true
  | s :: rest =>
    if last < s.first then true
    else (decide (s.last < first) ||
      (s.step == 2 && (step == 2 || first == last) && (first + s.first) % 2 == 1)) &&
        avoids first last step rest

theorem lookup_eq_none_of_avoids {α : Type} {first last step n : Nat} {spans : List (Stepped α)}
    (h : avoids first last step spans = true) (hfirst : first ≤ n) (hlast : n ≤ last)
    (hstep : (n - first) % step = 0) : lookup n spans = none := by
  induction spans with
  | nil => rfl
  | cons s rest ih =>
    rw [avoids] at h
    rw [lookup]
    split_ifs at h with hbefore
    · exact if_pos (by omega)
    · simp only [Bool.and_eq_true, Bool.or_eq_true, decide_eq_true_eq, beq_iff_eq] at h
      obtain ⟨hapart, hrest⟩ := h
      have hmiss : ¬ n < s.first → n ≤ s.last → ¬ (n - s.first) % s.step = 0 := by
        intro hlow hin
        rcases hapart with hafter | ⟨⟨htwo, hsteps⟩, hodd⟩
        · omega
        · rw [htwo]
          rcases hsteps with rfl | rfl <;> omega
      split_ifs with hlow hin hhit
      · rfl
      · exact absurd hhit (hmiss hlow hin)
      · rfl
      · exact ih hrest

def image (s : Stepped Int) : Nat × Nat := ((s.first + s.payload).toNat, (s.last + s.payload).toNat)

/-- The lowercase forms of a span are characters that have none themselves. -/
theorem image_lowercaseSpans : ∀ s ∈ lowercaseSpans,
    0 ≤ s.first + s.payload ∧
    ((image s).2 < 0xD800 ∨ 0xDFFF < (image s).1 ∧ (image s).2 < 0x110000) ∧
    ((image s).2 < 'İ'.toNat ∨ 'İ'.toNat < (image s).1) ∧
    ((image s).2 < capitalSigma.toNat ∨ capitalSigma.toNat < (image s).1) ∧
    avoids (image s).1 (image s).2 s.step lowercaseSpans = true := by
  decide +kernel

theorem toNat_ofNat {n : Nat} (h : n.isValidChar) : (Char.ofNat n).toNat = n := by
  rw [Char.ofNat, dif_pos h]
  rfl

/-- The lowercase form of a character lies in the image of its span. -/
theorem image_of_lookup {c : Char} {distance : Int} (h : lookup c.toNat lowercaseSpans = some distance) :
    ∃ s ∈ lowercaseSpans, (image s).1 ≤ (Char.ofNat (c.toNat + distance).toNat).toNat ∧
      (Char.ofNat (c.toNat + distance).toNat).toNat ≤ (image s).2 ∧
      ((Char.ofNat (c.toNat + distance).toNat).toNat - (image s).1) % s.step = 0 := by
  obtain ⟨s, hs, hfirst, hlast, hstep, rfl⟩ := lookup_of_mem h
  obtain ⟨hpos, hvalid, -⟩ := image_lowercaseSpans s hs
  simp only [image] at hvalid ⊢
  have hnat : (Char.ofNat (c.toNat + s.payload).toNat).toNat = (c.toNat + s.payload).toNat := by
    refine toNat_ofNat ?_
    rcases hvalid with hlow | hhigh
    · exact .inl (by omega)
    · exact .inr (by omega)
  rw [hnat]
  refine ⟨s, hs, by omega, by omega, ?_⟩
  rwa [show (c.toNat + s.payload).toNat - (s.first + s.payload).toNat = c.toNat - s.first by omega]

def Settled (c : Char) : Prop := c ≠ capitalSigma ∧ lowerChar c = [c]

theorem settled_of_lookup_eq_none {c : Char} (hdot : c ≠ 'İ') (hsigma : c ≠ capitalSigma)
    (h : lookup c.toNat lowercaseSpans = none) : Settled c := by
  refine ⟨hsigma, ?_⟩
  rw [lowerChar, if_neg hdot, if_neg hsigma, h]

theorem settled_of_mem_lowerChar {c d : Char} (hc : c ≠ capitalSigma) (hd : d ∈ lowerChar c) :
    Settled d := by
  rw [lowerChar] at hd
  rw [if_neg hc] at hd
  split_ifs at hd with hdot
  · simp only [List.mem_cons, List.not_mem_nil, or_false] at hd
    rcases hd with rfl | rfl
    · exact ⟨by decide, by decide⟩
    · exact ⟨by decide, by decide⟩
  · cases hlookup : lookup c.toNat lowercaseSpans with
    | none =>
      rw [hlookup, List.mem_singleton] at hd
      exact hd ▸ settled_of_lookup_eq_none hdot hc hlookup
    | some distance =>
      rw [hlookup, List.mem_singleton] at hd
      obtain ⟨s, hs, hlow, hhigh, hstep⟩ := image_of_lookup hlookup
      rw [← hd] at hlow hhigh hstep
      -- The lowercase form lies in the image of the span, which avoids all spans.
      obtain ⟨-, -, hdot, hsigma, havoids⟩ := image_lowercaseSpans s hs
      refine settled_of_lookup_eq_none ?_ ?_ (lookup_eq_none_of_avoids havoids hlow hhigh hstep)
      · rintro rfl
        omega
      · rintro rfl
        omega

theorem settled_small_sigma : Settled 'σ' ∧ Settled 'ς' :=
  ⟨⟨by decide, by decide⟩, ⟨by decide, by decide⟩⟩

theorem settled_of_mem_lowerFrom {before cs : List Char} :
    ∀ d ∈ lowerFrom before cs, Settled d := by
  induction cs generalizing before with
  | nil => simp [lowerFrom]
  | cons c cs ih =>
    rw [lowerFrom]
    by_cases hsigma : c = capitalSigma
    · rw [if_pos hsigma]
      refine List.forall_mem_cons.mpr ⟨?_, ih⟩
      split
      · exact settled_small_sigma.2
      · exact settled_small_sigma.1
    · rw [if_neg hsigma]
      exact List.forall_mem_append.mpr ⟨fun d hd => settled_of_mem_lowerChar hsigma hd, ih⟩

theorem lowerFrom_of_settled {before cs : List Char} (h : ∀ c ∈ cs, Settled c) :
    lowerFrom before cs = cs := by
  induction cs generalizing before with
  | nil => rfl
  | cons c cs ih =>
    obtain ⟨hc, hcs⟩ := List.forall_mem_cons.mp h
    rw [lowerFrom, if_neg hc.1, hc.2, ih hcs]
    rfl

@[simp] theorem lowercase_lowercase (s : String) : lowercase (lowercase s) = lowercase s := by
  rw [lowercase, lowercase, String.toList_ofList, lowerFrom_of_settled settled_of_mem_lowerFrom]

end Gauge.Text
