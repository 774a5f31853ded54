import Gauge.Proofs.Formula.Offsets
import Gauge.Proofs.Token.Stream

/-! # Blanks between lexemes

Lexemes that stand apart are what they were when they stood together: a blank ends every lexeme, and nothing
else depends on how many there are. So spacing a text anew moves its tokens, and changes nothing else that
is made of it.
-/
namespace Gauge

def spaced : List Lexeme → List (List Char) → List Char
  | l :: ls, gap :: gaps => l.text ++ (gap ++ spaced ls gaps)
  | _, _ => []

/-- The lexemes as they stand in the spaced text, which begins at byte `start`. -/
def respaced (start : Nat) : List Lexeme → List (List Char) → List Lexeme
  | l :: ls, gap :: gaps =>
    { l with offset := start } :: respaced (start + Text.byteSize l.text + Text.byteSize gap) ls gaps
  | _, _ => []

theorem LongestFront.before {P : List Char → Prop} {text rest after : List Char} (hP : Gradual P)
    (h : LongestFront P text rest) (hafter : ∀ c ∈ after.head?, ¬ P (text ++ [c])) :
    LongestFront P text after :=
  hP.longestFront_iff.mpr ⟨h.1, hafter⟩

/-- What is a lexeme is one also before a blank and at the end. -/
theorem Means.before_blank {operand : Bool} {text rest after : List Char} {t : Token}
    (h : Means operand text rest t) (hafter : ∀ c ∈ after.head?, Text.isBlank c = true) :
    Means operand text after t := by
  have hkind : ∀ c ∈ after.head?, CharKind.of c = .blank := fun c hc => CharKind.of_isBlank (hafter c hc)
  cases h with
  | number hfront hnumeral hv =>
    refine .number (hfront.before gradual_isDigitRun ?_) hnumeral hv
    intro c hc
    rw [isDigitRun_concat_iff hfront.1, CharKind.isNumeralChar_iff_of, hkind c hc]
    decide
  | name hfront =>
    refine .name (hfront.before gradual_isName ?_)
    intro c hc
    rw [isName_append_iff hfront.1, List.forall_mem_singleton, CharKind.isNameChar_iff_of, hkind c hc]
    decide
  | symbol hfront hsymbol hsuits =>
    refine .symbol (hfront.before gradual_isSymbol ?_) hsymbol hsuits
    intro c hc hlonger
    have hchar := (isSymbol_facts hlonger).2.2 c (by simp)
    rw [CharKind.mem_symbolChars_iff_of, hkind c hc] at hchar
    cases hchar

namespace Lexes

variable {operand : Bool} {offset : Nat} {cs : List Char} {ls : List Lexeme}

theorem blanks {gap : List Char} (hgap : ∀ c ∈ gap, Text.isBlank c = true)
    (h : Lexes operand (offset + Text.byteSize gap) cs ls) : Lexes operand offset (gap ++ cs) ls := by
  induction gap generalizing offset with
  | nil => exact h
  | cons c gap ih =>
    obtain ⟨hc, hgap⟩ := List.forall_mem_cons.mp hgap
    rw [Text.byteSize_cons, ← Nat.add_assoc] at h
    exact .blank hc (ih hgap h)

theorem respaced (h : Lexes operand offset cs ls) (start : Nat) {gaps : List (List Char)}
    (hlen : gaps.length = ls.length) (hblank : ∀ gap ∈ gaps, ∀ c ∈ gap, Text.isBlank c = true)
    (hapart : ∀ gap ∈ gaps.dropLast, gap ≠ []) :
    Lexes operand start (spaced ls gaps) (Gauge.respaced start ls gaps) := by
  induction h generalizing start gaps with
  | done => exact .done
  | blank _ _ ih => exact ih start hlen hblank hapart
  | @lexeme _ _ _ text rest t ls hmeans hends _ ih =>
    obtain ⟨gap, gaps, rfl⟩ := List.exists_cons_of_length_eq_add_one hlen
    obtain ⟨hgap, hblank⟩ := List.forall_mem_cons.mp hblank
    have hrest : gaps.length = ls.length := Nat.succ.inj hlen
    have hafter : ∀ c ∈ (gap ++ spaced ls gaps).head?, Text.isBlank c = true := by
      intro c hc
      cases gap with
      | cons _ _ =>
        cases hc
        exact hgap c List.mem_cons_self
      | nil =>
        -- Only behind the last lexeme there need not be a blank.
        have hnil : gaps = [] := by
          by_contra hne
          rw [List.dropLast_cons_of_ne_nil hne] at hapart
          exact hapart [] List.mem_cons_self rfl
        rw [hnil] at hrest hc
        rw [List.length_eq_zero_iff.mp hrest.symm] at hc
        cases hc
    have hapart' : ∀ gap ∈ gaps.dropLast, gap ≠ [] := by
      intro other hother
      refine hapart other ?_
      have hne : gaps ≠ [] := by
        rintro rfl
        cases hother
      rw [List.dropLast_cons_of_ne_nil hne]
      exact List.mem_cons_of_mem gap hother
    have hmore := ih (start + Text.byteSize text + Text.byteSize gap) hrest hblank hapart'
    exact .lexeme (hmeans.before_blank hafter) hends (.blanks hgap hmore)

end Lexes

def Corresponds (ls ms : List Lexeme) (offset offset' : Nat) : Prop :=
  ∃ l m, (l, m) ∈ ls.zip ms ∧ l.offset = offset ∧ m.offset = offset'

theorem token_respaced (start : Nat) {ls : List Lexeme} {gaps : List (List Char)}
    (hlen : gaps.length = ls.length) :
    List.Forall₂ (fun l m => l.token = m.token) ls (respaced start ls gaps) := by
  induction ls generalizing start gaps with
  | nil => exact .nil
  | cons l ls ih =>
    obtain ⟨gap, gaps, rfl⟩ := List.exists_cons_of_length_eq_add_one hlen
    exact .cons rfl (ih _ (Nat.succ.inj hlen))

theorem located_moved {ls ms : List Lexeme} (h : List.Forall₂ (fun l m => l.token = m.token) ls ms) :
    List.Forall₂ (Located.Moved (Corresponds ls ms)) (ls.map Lexeme.located) (ms.map Lexeme.located) := by
  rw [List.forall₂_map_left_iff, List.forall₂_map_right_iff]
  obtain ⟨hlen, htokens⟩ := List.forall₂_iff_zip.mp h
  refine List.forall₂_iff_zip.mpr ⟨hlen, ?_⟩
  intro l m hmem
  exact ⟨htokens hmem, l, m, hmem, rfl, rfl⟩

namespace Formula

theorem parse_of_scan {source : String} {ts : List Located} (h : Scan.ofString source = ⟨ts, none⟩) :
    parse source = (ofTokens ts).map fun f => { f with source } := by
  unfold parse ofTokens
  simp only [h]
  cases Assembler.pushAll {} ts with
  | ok a => rfl
  | error refusal => rfl

theorem parse_moved {R : Nat → Nat → Prop} {source text : String} {ts us : List Located}
    (hsource : Scan.ofString source = ⟨ts, none⟩) (htext : Scan.ofString text = ⟨us, none⟩)
    (h : List.Forall₂ (Located.Moved R) ts us) :
    Both (SyntaxError.Moved R) (fun f g => f.instructions = g.instructions)
      (parse source) (parse text) := by
  have htokens := ofTokens_moved h
  rw [parse_of_scan hsource, parse_of_scan htext]
  generalize ofTokens ts = left at htokens ⊢
  generalize ofTokens us = right at htokens ⊢
  cases htokens with
  | ok hinstructions => exact .ok hinstructions
  | error herror => exact .error herror

/-- A text that has only lexemes and blanks may be spaced anew, with blanks before and after and at least one
between two lexemes. Its stream then hands out the same tokens, each at its new place, and the text compiles
to the same instructions or has the same error, at the new place of the lexeme where it was. -/
theorem blanks_insignificant {source : String} {ts : List Located}
    (h : (TokenStream.ofString source).HandsOut ts) :
    ∃ ls, Lexes false 0 source.toList ls ∧ ls.map Lexeme.located = ts ∧
      ∀ (first : List Char) (gaps : List (List Char)), gaps.length = ls.length →
        (∀ gap ∈ first :: gaps, ∀ c ∈ gap, Text.isBlank c = true) →
        (∀ gap ∈ gaps.dropLast, gap ≠ []) →
        let text := String.ofList (first ++ spaced ls gaps)
        let ms := respaced (Text.byteSize first) ls gaps
        (TokenStream.ofString text).HandsOut (ms.map Lexeme.located) ∧
          Both (SyntaxError.Moved (Corresponds ls ms)) (fun f g => f.instructions = g.instructions)
            (parse source) (parse text) := by
  have hscan := TokenStream.handsOut_ofString_iff.mp h
  obtain ⟨ls, hls, rfl⟩ := Scan.ofString_eq_iff.mp hscan
  refine ⟨ls, hls, rfl, ?_⟩
  intro first gaps hlen hblank hapart text ms
  obtain ⟨hfirst, hgaps⟩ := List.forall_mem_cons.mp hblank
  have hspaced : Lexes false 0 (first ++ spaced ls gaps) ms := by
    apply Lexes.blanks hfirst
    rw [Nat.zero_add]
    exact hls.respaced _ hlen hgaps hapart
  have htext : Scan.ofString text = ⟨ms.map Lexeme.located, none⟩ := by
    rw [Scan.ofString_eq_iff, String.toList_ofList]
    exact ⟨ms, hspaced, rfl⟩
  have hmoved := located_moved (token_respaced (Text.byteSize first) hlen)
  exact ⟨TokenStream.handsOut_ofString_iff.mpr htext, parse_moved hscan htext hmoved⟩

/-- The parenthesis that `a>=-1)` has too many is so wherever it stands, and the two symbols stay two. -/
theorem blanks_insignificant_paren : parse "a>=-1)" = .error (.unbalancedParen 5) ∧
    ∃ ls, Lexes false 0 "a>=-1)".toList ls ∧
      ls.map Lexeme.located = [⟨.identifier "a", 0⟩, ⟨.operator (.binary .greaterEqual), 1⟩,
        ⟨.operator (.unary .minus), 3⟩, ⟨.number 1, 4⟩, ⟨.closeParen, 5⟩] ∧
      let text := String.ofList ([' '] ++ spaced ls [[' '], ['\n'], [' ', '\t'], [' '], []])
      let ms := respaced 1 ls [[' '], ['\n'], [' ', '\t'], [' '], []]
      (TokenStream.ofString text).HandsOut (ms.map Lexeme.located) ∧
        Both (SyntaxError.Moved (Corresponds ls ms)) (fun f g => f.instructions = g.instructions)
          (parse "a>=-1)") (parse text) := by
  have hhands : (TokenStream.ofString "a>=-1)").HandsOut [⟨.identifier "a", 0⟩,
      ⟨.operator (.binary .greaterEqual), 1⟩, ⟨.operator (.unary .minus), 3⟩, ⟨.number 1, 4⟩,
      ⟨.closeParen, 5⟩] := TokenStream.handsOut_ofString_iff.mpr rfl
  obtain ⟨ls, hls, hmap, hspaced⟩ := blanks_insignificant hhands
  refine ⟨rfl, ls, hls, hmap, hspaced [' '] _ ?_ ?_ (by decide)⟩
  · rw [← List.length_map Lexeme.located, hmap]
    rfl
  · have hblank : ([[' '], [' '], ['\n'], [' ', '\t'], [' '], []] : List (List Char)).all
        (fun gap => gap.all Text.isBlank) = true := by decide
    intro gap hgap
    exact List.all_eq_true.mp (List.all_eq_true.mp hblank gap hgap)

end Formula
end Gauge
