import Gauge.Proofs.Token.Runs
import Mathlib.Data.List.Nodup

/-! # Scans that fail

A scan that fails has lexed the text before the run in which it does, and its error shows a piece of what
comes from there on. So every token stands in the text where its offset says, also when an error follows.
-/
namespace Gauge

/-- In the text `cs`, which begins at byte `start`, the characters `text` stand at byte `offset`. -/
def StandsAt (start : Nat) (cs text : List Char) (offset : Nat) : Prop :=
  ∃ before after, cs = before ++ text ++ after ∧ start + Text.byteSize before = offset

namespace StandsAt

variable {start offset : Nat} {cs text : List Char}

theorem front (start : Nat) (text after : List Char) : StandsAt start (text ++ after) text start :=
  ⟨[], after, rfl, rfl⟩

theorem append_left (before : List Char)
    (h : StandsAt (start + Text.byteSize before) cs text offset) :
    StandsAt start (before ++ cs) text offset := by
  obtain ⟨ahead, after, rfl, rfl⟩ := h
  exact ⟨before ++ ahead, after, by simp, by rw [Text.byteSize_append, Nat.add_assoc]⟩

theorem append_right (after : List Char) (h : StandsAt start cs text offset) :
    StandsAt start (cs ++ after) text offset := by
  obtain ⟨before, behind, rfl, hoffset⟩ := h
  exact ⟨before, behind ++ after, by simp, hoffset⟩

end StandsAt

def SyntaxError.Shows (start : Nat) (cs : List Char) : SyntaxError → Prop
  | .strayCharacter character offset => StandsAt start cs [character] offset
  | .unknownOperator symbol offset => symbol ≠ "" ∧ StandsAt start cs symbol.toList offset
  | .malformedNumber text offset => text ≠ "" ∧ StandsAt start cs text.toList offset
  | _ => False

namespace SyntaxError.Shows

variable {start : Nat} {cs : List Char} {e : SyntaxError}

theorem append_left (before : List Char) (h : e.Shows (start + Text.byteSize before) cs) :
    e.Shows start (before ++ cs) := by
  cases e with
  | strayCharacter _ _ => exact StandsAt.append_left before h
  | unknownOperator _ _ | malformedNumber _ _ => exact ⟨h.1, h.2.append_left before⟩
  | _ => exact h

end SyntaxError.Shows

theorem ofList_ne_empty {cs : List Char} (h : cs ≠ []) : String.ofList cs ≠ "" := by
  intro hempty
  have htoList := congrArg String.toList hempty
  rw [String.toList_ofList] at htoList
  exact h htoList

theorem standsAt_ofList (start : Nat) (cs : List Char) :
    StandsAt start cs (String.ofList cs).toList start := by
  have h := StandsAt.front start cs []
  rw [List.append_nil] at h
  rwa [String.toList_ofList]

/-- Where a text is wrong, its error shows what is wrong there. -/
theorem Breaks.shows {start : Nat} {front run rest : List Char} {e : SyntaxError}
    (h : Breaks start front run rest e) : e.Shows (start + Text.byteSize front) (run ++ rest) := by
  cases h with
  | malformed hrun _ => exact ⟨ofList_ne_empty hrun.1.1, (standsAt_ofList _ run).append_right rest⟩
  | unknown known symbol _ hrun hne _ =>
    have hstands := (standsAt_ofList (start + Text.byteSize (front ++ known)) symbol).append_right rest
    rw [Text.byteSize_append, ← Nat.add_assoc] at hstands ⊢
    rw [hrun, List.append_assoc]
    exact ⟨ofList_ne_empty hne, hstands.append_left known⟩
  | stray c after _ hrest _ =>
    have hstands : StandsAt (start + Text.byteSize (front ++ run)) ([c] ++ after) [c] _ := .front _ [c] after
    rw [Text.byteSize_append, ← Nat.add_assoc] at hstands ⊢
    rw [hrest]
    exact hstands.append_left run
  | first c after hfront hrun hrest _ =>
    rw [hfront, hrun, hrest]
    exact .front start [c] after

/-- The tokens of a scan are the lexemes of the text `cs` up to some place, and the error, if there is one,
shows a piece of what comes from there on. -/
def Scan.Cuts (scan : Scan) (operand : Bool) (start : Nat) (cs : List Char) : Prop :=
  ∃ front tail, cs = front ++ tail ∧ LexesTo operand start front scan.tokens ∧
    ∀ e ∈ scan.failure, e.Shows (start + Text.byteSize front) tail

theorem Scan.cuts_ofString (source : String) : (ofString source).Cuts false 0 source.toList := by
  cases hfailure : (ofString source).failure with
  | none =>
    have hscan : ofString source = ⟨(ofString source).tokens, none⟩ := by rw [← hfailure]
    refine ⟨source.toList, [], (List.append_nil _).symm, ofString_eq_iff.mp hscan, ?_⟩
    simp [hfailure]
  | some e =>
    obtain ⟨front, run, rest, heq, -, hbreaks, hlexes⟩ := exists_breaks hfailure
    refine ⟨front, run ++ rest, by rw [heq, List.append_assoc], hlexes, ?_⟩
    intro d hd
    rw [hfailure] at hd
    cases hd
    exact hbreaks.shows

/-! ### Tokens in their text -/

namespace Means

variable {operand : Bool} {text rest : List Char} {t : Token}

theorem toList_symbol (h : Means operand text rest t) {symbol : String}
    (hsymbol : t.symbol? = some symbol) : symbol.toList = text := by
  cases h with
  | number _ _ _ => cases hsymbol
  | name _ => cases hsymbol
  | symbol _ hwritten _ =>
    rw [hwritten] at hsymbol
    cases hsymbol
    exact String.toList_ofList

theorem isName {name : String} (h : Means operand text rest (.identifier name)) :
    IsName text ∧ Text.lowercase (String.ofList text) = name := by
  cases h with
  | name hfront => exact ⟨hfront.1, rfl⟩
  | symbol _ hwritten _ => cases hwritten

theorem suits (h : Means operand text rest t) : t.Suits operand := by
  cases h with
  | number _ _ _ => trivial
  | name _ => trivial
  | symbol _ _ hsuits => exact hsuits

end Means

namespace Lexes

variable {operand : Bool} {offset : Nat} {cs : List Char} {ls : List Lexeme}

theorem exists_means (h : Lexes operand offset cs ls) :
    ∀ l ∈ ls, ∃ operand rest, Means operand l.text rest l.token := by
  induction h with
  | done => simp
  | blank _ _ ih => exact ih
  | lexeme hmeans _ _ ih => exact List.forall_mem_cons.mpr ⟨⟨_, _, hmeans⟩, ih⟩

theorem suits (h : Lexes operand offset cs ls) {before after : List Lexeme} {l : Lexeme}
    (hls : ls = before ++ l :: after) :
    l.token.Suits (operandPast operand (before.map Lexeme.located)) := by
  induction h generalizing before with
  | done => simp at hls
  | blank _ _ ih => exact ih hls
  | lexeme hmeans hends _ ih =>
    cases before with
    | nil =>
      obtain ⟨rfl, -⟩ := List.cons.inj hls
      exact hmeans.suits
    | cons first before =>
      obtain ⟨rfl, htail⟩ := List.cons.inj hls
      obtain rfl := Token.eq_endsOperand hends
      exact ih htail

end Lexes

namespace Scan

variable {source : String}

theorem shows_of_failure {e : SyntaxError} (he : (ofString source).failure = some e) :
    e.Shows 0 source.toList := by
  obtain ⟨front, tail, heq, -, hfailure⟩ := cuts_ofString source
  rw [heq]
  exact (hfailure e he).append_left front

/-- Each token of a text is a lexeme there. -/
theorem exists_lexeme {t : Located} (ht : t ∈ (ofString source).tokens) :
    ∃ text operand rest, Means operand text rest t.token ∧
      StandsAt 0 source.toList text t.offset := by
  obtain ⟨front, tail, heq, ⟨ls, hls, hmap⟩, -⟩ := cuts_ofString source
  rw [← hmap] at ht
  obtain ⟨l, hl, rfl⟩ := List.mem_map.mp ht
  obtain ⟨operand, rest, hmeans⟩ := hls.exists_means l hl
  have hstands : StandsAt 0 front l.text l.offset := hls.exists_before l hl
  refine ⟨l.text, operand, rest, hmeans, ?_⟩
  rw [heq]
  exact hstands.append_right tail

theorem standsAt_symbol {t : Located} (ht : t ∈ (ofString source).tokens) {symbol : String}
    (hsymbol : t.token.symbol? = some symbol) :
    StandsAt 0 source.toList symbol.toList t.offset := by
  obtain ⟨text, _, _, hmeans, hstands⟩ := exists_lexeme ht
  rwa [hmeans.toList_symbol hsymbol]

theorem pairwise_offset (source : String) :
    (ofString source).tokens.Pairwise fun t u => t.offset < u.offset := by
  obtain ⟨front, tail, -, ⟨ls, hls, hmap⟩, -⟩ := cuts_ofString source
  rw [← hmap]
  exact List.pairwise_map.mpr hls.pairwise_offset

/-- Two tokens of a text at the same byte are one. -/
theorem eq_of_offset_eq {t u : Located} (ht : t ∈ (ofString source).tokens)
    (hu : u ∈ (ofString source).tokens) (h : t.offset = u.offset) : t = u := by
  have hnodup : ((ofString source).tokens.map Located.offset).Nodup := by
    apply List.pairwise_map.mpr
    exact (pairwise_offset source).imp fun hlt => Nat.ne_of_lt hlt
  exact List.inj_on_of_nodup_map hnodup ht hu h

/-- The scanner reads a sign by the tokens before it. -/
theorem suits {before after : List Located} {t : Located}
    (h : (ofString source).tokens = before ++ t :: after) :
    t.token.Suits (operandPast false before) := by
  obtain ⟨front, tail, -, ⟨ls, hls, hmap⟩, -⟩ := cuts_ofString source
  rw [h] at hmap
  obtain ⟨ms, ns, rfl, rfl, hns⟩ := List.map_eq_append_iff.mp hmap
  obtain ⟨l, ks, rfl, rfl, -⟩ := List.map_eq_cons_iff.mp hns
  exact hls.suits rfl

end Scan
end Gauge
