import Gauge.Formula.Assembler
import Gauge.Proofs.Text.AsciiCase
import Gauge.Proofs.Token.Scanning

/-! # The case of letters in a formula

A name is the lowercase form of its run, and no other run has letters in it. So the scanner does not tell
apart two texts that differ in the case of ASCII letters only, and they compile to the same instructions or
have the same error.
-/
namespace Gauge

namespace CharKind

theorem of_capital : ∀ n < 26, let c := Char.ofNat ('A'.toNat + n)
    of c.toLower = .letter ∧ of c = .letter ∧ c.toLower.utf8Size = c.utf8Size := by
  decide

theorem of_toLower (c : Char) : of c.toLower = of c := by
  rcases Text.toLower_eq_or_capital c with hself | ⟨n, hn, rfl⟩
  · rw [hself]
  · obtain ⟨hlower, hcapital, -⟩ := of_capital n hn
    rw [hlower, hcapital]

theorem utf8Size_toLower (c : Char) : c.toLower.utf8Size = c.utf8Size := by
  rcases Text.toLower_eq_or_capital c with hself | ⟨n, hn, rfl⟩
  · rw [hself]
  · exact (of_capital n hn).2.2

theorem toLower_of_ne_letter {c : Char} (h : of c ≠ .letter) : c.toLower = c := by
  rcases Text.toLower_eq_or_capital c with hself | ⟨n, hn, rfl⟩
  · exact hself
  · exact absurd (of_capital n hn).2.1 h

end CharKind

namespace Scanner

def lowered (s : Scanner) : Scanner := { s with run := s.run.map Char.toLower }

theorem map_toLower_run {s : Scanner} (hs : s.Ready) (hname : s.shape ≠ .name) :
    s.run.map Char.toLower = s.run := by
  have hrun := hs.holds
  have hkind : ∀ c ∈ s.run, CharKind.of c ≠ .letter := by
    intro c hc
    have hc := List.mem_reverse.mpr hc
    cases hshape : s.shape with
    | name => exact absurd hshape hname
    | blank =>
      rw [hshape] at hrun
      rw [CharKind.isBlank_iff_of.mp (hrun c hc)]
      decide
    | numeral | pointed =>
      rw [hshape] at hrun
      have hnum := CharKind.isNumeralChar_iff_of.mp (hrun.2 c hc)
      intro hletter
      simp [hletter] at hnum
    | symbols =>
      rw [hshape] at hrun
      rw [CharKind.mem_symbolChars_iff_of.mp (hrun c hc)]
      decide
  have hself : s.run.map Char.toLower = s.run.map id :=
    List.map_congr_left fun c hc => CharKind.toLower_of_ne_letter (hkind c hc)
  rw [hself, List.map_id]

theorem runTokens_lowered {s : Scanner} (hs : s.Ready) : s.lowered.runTokens = s.runTokens := by
  by_cases hname : s.shape = .name
  · have hlower := Text.lowercase_asciiLower (String.ofList s.run.reverse)
    rw [Text.asciiLower_ofList, List.map_reverse] at hlower
    simp only [runTokens, lowered, hname, hlower]
  · rw [lowered, map_toLower_run hs hname]

theorem step_lowered {s : Scanner} (hs : s.Ready) (c : Char) :
    s.lowered.step c.toLower = (s.step c).map fun next => (next.1, next.2.lowered) := by
  have hshape : s.lowered.shape = s.shape := rfl
  rw [step, step, CharKind.of_toLower, CharKind.utf8Size_toLower, hshape]
  by_cases hkind : CharKind.of c = .other
  · have hself : c.toLower = c := CharKind.toLower_of_ne_letter (by simp [hkind])
    rw [if_pos hkind, if_pos hkind, hself]
    rfl
  · rw [if_neg hkind, if_neg hkind]
    cases hextend : s.shape.extend (CharKind.of c) with
    | some shape => rfl
    | none =>
      rw [runTokens_lowered hs]
      cases s.runTokens with
      | ok tokens => rfl
      | error e => rfl

theorem Ready.step {s next : Scanner} (hs : s.Ready) {c : Char} {tokens : List Located}
    (h : s.step c = .ok (tokens, next)) : next.Ready := by
  have hstep := s.steps_step c
  rw [h] at hstep
  cases hstep with
  | continues hextend => exact hs.extend hextend
  | divides hkind _ _ => exact ready_next hkind s.offset _

theorem scan_lowered {s : Scanner} (hs : s.Ready) (cs : List Char) :
    s.lowered.scan (cs.map Char.toLower) = s.scan cs := by
  -- The scanner has to stay ready: only then does a run that is no name have no letters.
  induction cs generalizing s with
  | nil => rw [List.map_nil, scan, scan, runTokens_lowered hs]
  | cons c cs ih =>
    rw [List.map_cons, scan, scan, step_lowered hs]
    cases hstep : s.step c with
    | error e => rfl
    | ok next =>
      have hnext := ih (hs.step hstep)
      simp only [Except.map, hnext]

end Scanner

theorem Scan.ofString_asciiLower (source : String) :
    Scan.ofString (Text.asciiLower source) = Scan.ofString source := by
  have hscan := Scanner.scan_lowered Scanner.ready_start source.toList
  rw [Scan.ofString, Scan.ofString, Text.asciiLower, String.toList_map]
  exact hscan

theorem Scan.ofString_eq_of_asciiLower_eq {s t : String} (h : Text.asciiLower s = Text.asciiLower t) :
    Scan.ofString s = Scan.ofString t := by
  rw [← Scan.ofString_asciiLower s, h, Scan.ofString_asciiLower]

namespace Formula

theorem instructions_parse_eq_of_scan_eq {s t : String} (h : Scan.ofString s = Scan.ofString t) :
    (parse s).map instructions = (parse t).map instructions := by
  simp only [parse, h]
  cases Assembler.pushAll {} (Scan.ofString t).tokens with
  | error refusal => rfl
  | ok a =>
    cases (Scan.ofString t).failure with
    | some e => rfl
    | none =>
      cases hfinish : a.finish with
      | error e => simp only [hfinish, Except.map]
      | ok f => simp only [hfinish, Except.map]

/-- Texts that differ in the case of ASCII letters only compile to the same instructions, or have the same
error at the same place. -/
theorem letter_case_insignificant {s t : String} (h : Text.asciiLower s = Text.asciiLower t) :
    (parse s).map instructions = (parse t).map instructions :=
  instructions_parse_eq_of_scan_eq (Scan.ofString_eq_of_asciiLower_eq h)

/-- Whether a sigma stands at the end of a word does not depend on the case of the letters around it, and `É`
is a letter that must be the same in both texts. -/
theorem letter_case_insignificant_sigma :
    Text.asciiLower "AΣ - Max(É, Σb)" = Text.asciiLower "aΣ - mAX(É, ΣB)" ∧
      (parse "AΣ - Max(É, Σb)").map instructions = (parse "aΣ - mAX(É, ΣB)").map instructions ∧
      (parse "aΣ - mAX(É, ΣB)").map instructions = .ok [.identifier "aς", .openParen, .identifier "é",
        .identifier "σb", .call "max", .operator (.binary .subtract)] := by
  have hcase : Text.asciiLower "AΣ - Max(É, Σb)" = Text.asciiLower "aΣ - mAX(É, ΣB)" :=
    Text.asciiLower_eq_iff.mpr (by decide)
  exact ⟨hcase, letter_case_insignificant hcase, rfl⟩

end Formula
end Gauge
