import Gauge.Command.Report
import Gauge.Proofs.Formula.Alternation

/-! # Errors and their causes

The offset of an error is the first byte of a character of the text, and the text shows there what the error
is about: the piece that is no token, the parenthesis or name that is left open, or the token that was
refused. So a caret can always stand below it.
-/
namespace Gauge

/-! ### Places in a text -/

theorem Report.characters?_append (before after : List Char) :
    characters? (before ++ after) (Text.byteSize before) = some before.length := by
  induction before with
  | nil => unfold characters?; rfl
  | cons c before ih =>
    have hpos := c.utf8Size_pos
    rw [List.cons_append, Text.byteSize_cons, characters?]
    · rw [if_pos (Nat.le_add_right ..), Nat.add_sub_cancel_left, ih]
      rfl
    · omega

structure PointsInto (source : String) (offset : Nat) : Prop where
  isValid : String.Pos.Raw.IsValid source ⟨offset⟩
  lt_size : offset < source.utf8ByteSize
  column : ∃ before, before <+: source.toList ∧ Text.byteSize before = offset ∧
    Report.characters? source.toList offset = some before.length

theorem StandsAt.pointsInto {source : String} {text : List Char} {offset : Nat}
    (h : StandsAt 0 source.toList text offset) (htext : text ≠ []) : PointsInto source offset := by
  obtain ⟨before, after, heq, hoffset⟩ := h
  obtain ⟨c, rest, rfl⟩ := List.exists_cons_of_ne_nil htext
  rw [Nat.zero_add] at hoffset
  have hsource : source = String.ofList before ++ String.ofList (c :: rest ++ after) := by
    rw [← String.ofList_append, ← List.append_assoc, ← heq, String.ofList_toList]
  have hsize : source.utf8ByteSize = offset + Text.byteSize (c :: rest ++ after) := by
    rw [hsource, String.utf8ByteSize_append, Text.utf8ByteSize_ofList, Text.utf8ByteSize_ofList, hoffset]
  have hpos := c.utf8Size_pos
  refine ⟨?_, ?_, before, ⟨c :: rest ++ after, by rw [heq, List.append_assoc]⟩, hoffset, ?_⟩
  · have hend : (⟨offset⟩ : String.Pos.Raw) = (String.ofList before).rawEndPos := by
      rw [← hoffset, ← Text.utf8ByteSize_ofList]
      rfl
    exact String.Pos.Raw.isValid_iff_exists_append.mpr ⟨_, _, hsource, hend⟩
  · rw [hsize, List.cons_append, Text.byteSize_cons]
    omega
  · rw [heq, List.append_assoc, ← hoffset]
    exact Report.characters?_append before _

/-! ### Causes -/

def CallAt (source : String) (offset : Nat) : Prop :=
  ∃ word, IsName word ∧ StandsAt 0 source.toList word offset ∧
    ∃ ts paren, (TokenStream.ofString source).Begins
      (ts ++ [⟨.identifier (Text.lowercase (String.ofList word)), offset⟩, ⟨.openParen, paren⟩])

def SyntaxError.CausedIn (source : String) : SyntaxError → Prop
  | .empty => ∀ c ∈ source.toList, Text.isBlank c = true
  | .strayCharacter character offset => StandsAt 0 source.toList [character] offset
  | .unknownOperator symbol offset => symbol ≠ "" ∧ StandsAt 0 source.toList symbol.toList offset
  | .malformedNumber text offset => text ≠ "" ∧ StandsAt 0 source.toList text.toList offset
  | .unbalancedParen offset =>
    (∃ c ∈ ['(', ')', ','], StandsAt 0 source.toList [c] offset) ∨ CallAt source offset
  | .chooseAlone offset => StandsAt 0 source.toList ['?'] offset
  | .otherwiseAlone offset => StandsAt 0 source.toList [':'] offset
  | .misplaced text offset => ∃ ts a t r, Formula.Reaches source ts a ∧
    (TokenStream.ofString source).Begins (ts ++ [t]) ∧ a.push t = .error r ∧
    t.token.display = text ∧ t.offset = offset
  | .incomplete => ∃ ts a, (TokenStream.ofString source).HandsOut ts ∧
    Assembler.pushAll {} ts = .ok a ∧ a.wantsOperator = false ∧
    ∃ t ∈ ts.getLast?, t.token.endsOperand = false

theorem SyntaxError.Shows.causedIn {source : String} {e : SyntaxError}
    (h : e.Shows 0 source.toList) : e.CausedIn source := by
  cases e with
  | strayCharacter _ _ | unknownOperator _ _ | malformedNumber _ _ => exact h
  | _ => exact h.elim

/-- Where an error points, a piece of the text stands. -/
theorem SyntaxError.CausedIn.exists_standsAt {source : String} {e : SyntaxError} {offset : Nat}
    (h : e.CausedIn source) (hoffset : e.offset? = some offset) :
    ∃ text, text ≠ [] ∧ StandsAt 0 source.toList text offset := by
  cases e with
  | empty | incomplete => cases hoffset
  | strayCharacter c offset | chooseAlone offset | otherwiseAlone offset =>
    cases hoffset
    exact ⟨_, List.cons_ne_nil _ _, h⟩
  | unknownOperator symbol offset | malformedNumber symbol offset =>
    cases hoffset
    have hsymbol : symbol.toList ≠ [] := by
      intro hnil
      exact h.1 (String.toList_eq_nil_iff.mp hnil)
    exact ⟨_, hsymbol, h.2⟩
  | unbalancedParen offset =>
    cases hoffset
    rcases h with ⟨c, -, hc⟩ | ⟨word, hname, hword, -⟩
    · exact ⟨[c], List.cons_ne_nil c [], hc⟩
    · refine ⟨word, ?_, hword⟩
      rintro rfl
      exact hname
  | misplaced text offset =>
    cases hoffset
    obtain ⟨ts, a, t, r, -, hnext, -, -, rfl⟩ := h
    have hmem : t ∈ (Scan.ofString source).tokens :=
      (TokenStream.begins_ofString_iff.mp hnext).subset (by simp)
    obtain ⟨text, operand, rest, hmeans, hstands⟩ := Scan.exists_lexeme hmem
    exact ⟨text, hmeans.text_ne_nil, hstands⟩

/-! ### The cause of each error -/

namespace Assembler

variable {source : String} {a : Assembler}

theorem causedIn_of_push {before after : List Located} {t : Located} {r : Refusal}
    (htokens : (Scan.ofString source).tokens = before ++ t :: after)
    (ha : pushAll {} before = .ok a) (ht : a.push t = .error r) : r.error.CausedIn source := by
  have hmem : t ∈ (Scan.ofString source).tokens := by rw [htokens]; simp
  have hsymbol : ∀ symbol, t.token.symbol? = some symbol →
      StandsAt 0 source.toList symbol.toList t.offset := fun _ => Scan.standsAt_symbol hmem
  have hblames := blames_of_push ht
  generalize r.error = e at hblames
  cases hblames with
  | misplaced =>
    have hbefore : (TokenStream.ofString source).Begins before := by
      rw [TokenStream.begins_ofString_iff, htokens]
      exact List.prefix_append before _
    have hnext : (TokenStream.ofString source).Begins (before ++ [t]) := by
      rw [TokenStream.begins_ofString_iff, htokens]
      exact ⟨after, by simp⟩
    exact ⟨before, a, t, r, ⟨hbefore, ha⟩, hnext, ht, rfl, rfl⟩
  | unbalancedParen hparen =>
    left
    rcases hparen with hparen | hparen
    · exact ⟨')', by simp, hsymbol ")" (by rw [hparen]; rfl)⟩
    · exact ⟨',', by simp, hsymbol "," (by rw [hparen]; rfl)⟩
  | otherwiseAlone hcolon => exact hsymbol ":" (by rw [hcolon]; rfl)

theorem causedIn_of_finish {e : SyntaxError} (hfailure : (Scan.ofString source).failure = none)
    (ha : pushAll {} (Scan.ofString source).tokens = .ok a) (he : a.finish = .error e) :
    e.CausedIn source := by
  have htraces := traces_pushAll traces_start ha
  rw [List.nil_append] at htraces
  have hhands : (TokenStream.ofString source).HandsOut (Scan.ofString source).tokens := by
    rw [TokenStream.handsOut_ofString_iff, ← hfailure]
  cases endBlames_of_finish he with
  | empty hseen =>
    have hnil : (Scan.ofString source).tokens = [] := by
      by_contra hne
      rw [(seenAny_pushAll ha).mpr hne] at hseen
      cases hseen
    rw [TokenStream.handsOut_ofString_iff, hnil, Scan.ofString_eq_iff] at hhands
    exact LexesTo.nil_right_iff.mp hhands
  | incomplete hseen hwants =>
    refine ⟨_, a, hhands, ha, hwants, ?_⟩
    have hlast := List.getLast?_eq_some_getLast ((seenAny_pushAll ha).mp hseen)
    refine ⟨_, hlast, ?_⟩
    rw [← Bool.not_eq_true]
    intro hends
    rw [wantsOperator_pushAll ha, operandPast_false_iff.mpr ⟨_, hlast, hends⟩] at hwants
    cases hwants
  | group offset hw => exact .inl ⟨'(', by simp, Scan.standsAt_symbol (htraces.stack _ hw) rfl⟩
  | call name start hw =>
    -- The name was held back until the parenthesis came, so the two are neighbours in the text.
    obtain ⟨paren, before, after, htokens⟩ := htraces.stack _ hw
    have hmem : ⟨.identifier name, start⟩ ∈ (Scan.ofString source).tokens := by
      rw [← htokens]
      simp
    obtain ⟨word, operand, rest, hmeans, hstands⟩ := Scan.exists_lexeme hmem
    obtain ⟨hname, rfl⟩ := hmeans.isName
    refine .inr ⟨word, hname, hstands, before, paren, ?_⟩
    rw [TokenStream.begins_ofString_iff, ← htokens]
    exact ⟨after, by simp⟩
  | choose offset hw =>
    have hmem : ⟨.operator .choose, offset⟩ ∈ (Scan.ofString source).tokens := htraces.stack _ hw
    exact Scan.standsAt_symbol hmem rfl

end Assembler

namespace Formula

variable {source : String} {e : SyntaxError}

theorem causedIn_of_parse (h : parse source = .error e) : e.CausedIn source := by
  cases fails_of_parse h with
  | token htokens ha ht => exact Assembler.causedIn_of_push htokens ha ht
  | scan hfailure => exact (Scan.shows_of_failure hfailure).causedIn
  | finish hfailure ha hfinish => exact Assembler.causedIn_of_finish hfailure ha hfinish

theorem parse_of_isBlank (h : ∀ c ∈ source.toList, Text.isBlank c = true) :
    parse source = .error .empty := by
  have hscan : Scan.ofString source = ⟨[], none⟩ := by
    rw [Scan.ofString_eq_iff]
    exact LexesTo.nil_right_iff.mpr h
  unfold parse
  rw [hscan]
  rfl

/-- Whatever the text, its error says what is the matter there, and the offset, if it has one, is where a
character begins. The two errors without an offset are that of the blank texts, which no other text has, and
that of a text that ends where an operand is wanted. -/
theorem errors_point_at_cause (source : String) :
    (∀ e, parse source = .error e →
      e.CausedIn source ∧ (∀ offset, e.offset? = some offset → PointsInto source offset) ∧
      (e.offset? = none → e = .empty ∨ e = .incomplete)) ∧
    (parse source = .error .empty ↔ ∀ c ∈ source.toList, Text.isBlank c = true) := by
  refine ⟨?_, causedIn_of_parse, parse_of_isBlank⟩
  intro e he
  have hcaused := causedIn_of_parse he
  refine ⟨hcaused, ?_, ?_⟩
  · intro offset hoffset
    obtain ⟨text, htext, hstands⟩ := hcaused.exists_standsAt hoffset
    exact hstands.pointsInto htext
  · intro hnone
    cases e with
    | empty => exact .inl rfl
    | incomplete => exact .inr rfl
    | _ => cases hnone

/-- The call that `é + né(1` leaves open is found at its name, which begins at the sixth byte. -/
theorem errors_point_at_cause_call :
    parse "é + né(1" = .error (.unbalancedParen 5) ∧ PointsInto "é + né(1" 5 ∧
      ((∃ c ∈ ['(', ')', ','], StandsAt 0 "é + né(1".toList [c] 5) ∨ CallAt "é + né(1" 5) := by
  have hparse : parse "é + né(1" = .error (.unbalancedParen 5) := rfl
  obtain ⟨hcaused, hpoints, -⟩ := (errors_point_at_cause "é + né(1").1 _ hparse
  exact ⟨hparse, hpoints 5 rfl, hcaused⟩

end Formula
end Gauge
