import Gauge.Proofs.Token.Lexing

/-! # Scanning is lexing

A scanner collects runs of characters and divides them when they end. Between two characters the run and
the text that is not read together are lexed as the scanner goes on to read them.
-/
namespace Gauge

namespace Shape

def Holds : Shape → List Char → Prop
  | .blank, run => ∀ c ∈ run, Text.isBlank c = true
  | .numeral, run | .pointed, run => IsDigitRun run
  | .name, run => IsName run
  | .symbols, run => ∀ c ∈ run, c ∈ symbolChars

def Admits : Shape → Char → Prop
  | .blank, _ => False
  | .numeral, c | .pointed, c => isNumeralChar c = true
  | .name, c => isNameChar c = true
  | .symbols, c => c ∈ symbolChars

theorem isSome_extend_iff {shape : Shape} {c : Char} :
    (shape.extend (CharKind.of c)).isSome = true ↔ shape.Admits c := by
  cases shape with
  | blank => simp [extend, Admits]
  | numeral | pointed =>
    rw [Admits, CharKind.isNumeralChar_iff_of]
    cases CharKind.of c <;> simp [extend]
  | name =>
    rw [Admits, CharKind.isNameChar_iff_of]
    cases CharKind.of c <;> simp [extend]
  | symbols =>
    rw [Admits, CharKind.mem_symbolChars_iff_of]
    cases CharKind.of c <;> simp [extend]

theorem holds_of_extend {shape next : Shape} {kind : CharKind} (h : shape.extend kind = some next) :
    next.Holds = shape.Holds := by
  cases shape <;> cases kind <;> cases h <;> rfl

theorem holds_concat {shape : Shape} {run : List Char} {c : Char} (hrun : shape.Holds run)
    (hc : shape.Admits c) : shape.Holds (run ++ [c]) := by
  cases shape with
  | blank => exact hc.elim
  | numeral | pointed => exact (isDigitRun_concat_iff hrun).mpr hc
  | name => exact (isName_append_iff hrun).mpr (List.forall_mem_singleton.mpr hc)
  | symbols => exact List.forall_mem_append.mpr ⟨hrun, List.forall_mem_singleton.mpr hc⟩

theorem holds_start {c : Char} (h : CharKind.of c ≠ .other) :
    (start (CharKind.of c)).Holds [c] := by
  have hc := CharKind.holds_of c
  cases hk : CharKind.of c with
  | other => exact absurd hk h
  | digit | dot =>
    have hnum : isNumeralChar c = true := by simp [CharKind.isNumeralChar_iff_of, hk]
    exact ⟨by simp, List.forall_mem_singleton.mpr hnum⟩
  | letter => exact ⟨CharKind.isNameStart_iff_of.mpr hk, by simp⟩
  | blank => exact List.forall_mem_singleton.mpr (CharKind.isBlank_iff_of.mpr hk)
  | symbol => exact List.forall_mem_singleton.mpr (CharKind.mem_symbolChars_iff_of.mpr hk)

end Shape

def operandPast (operand : Bool) : List Located → Bool
  | [] => operand
  | t :: ts => operandPast t.token.endsOperand ts

theorem Scanner.operandAfter_eq (s : Scanner) (ts : List Located) :
    s.operandAfter ts = operandPast s.operand ts := by
  have hcons : ∀ (t : Located) (ts : List Located) (operand : Bool),
      operandPast operand (t :: ts) = (ts.getLast?.getD t).token.endsOperand := by
    intro t ts
    induction ts generalizing t with
    | nil => intro _; rfl
    | cons u us ih =>
      intro operand
      rw [operandPast, ih u, List.getLast?_cons, Option.getD_some]
  cases ts with
  | nil => rfl
  | cons t ts => rw [hcons, Scanner.operandAfter, List.getLast?_cons]

theorem operandPast_false_iff {ts : List Located} :
    operandPast false ts = true ↔ ∃ t ∈ ts.getLast?, t.token.endsOperand = true := by
  rw [← Scanner.operandAfter_eq {} ts, Scanner.operandAfter]
  cases ts.getLast? <;> simp

def LexesTo (operand : Bool) (offset : Nat) (cs : List Char) (ts : List Located) : Prop :=
  ∃ ls, Lexes operand offset cs ls ∧ ls.map Lexeme.located = ts

namespace LexesTo

variable {operand : Bool} {offset : Nat} {ts : List Located}

theorem nil_iff : LexesTo operand offset [] ts ↔ ts = [] := by
  constructor
  · rintro ⟨ls, hls, rfl⟩
    rw [Lexes.nil_iff.mp hls]
    rfl
  · rintro rfl
    exact ⟨[], .done, rfl⟩

theorem blanks_iff {run : List Char} (hrun : ∀ c ∈ run, Text.isBlank c = true) {rest : List Char} :
    LexesTo operand offset (run ++ rest) ts ↔
      LexesTo operand (offset + Text.byteSize run) rest ts := by
  induction run generalizing offset with
  | nil => rfl
  | cons c run ih =>
    obtain ⟨hc, hrun⟩ := List.forall_mem_cons.mp hrun
    rw [Text.byteSize_cons, ← Nat.add_assoc, ← ih hrun]
    exact exists_congr fun ls => and_congr_left' (Lexes.blank_iff hc)

theorem nil_right_iff {cs : List Char} :
    LexesTo operand offset cs [] ↔ ∀ c ∈ cs, Text.isBlank c = true := by
  constructor
  · rintro ⟨ls, hls, hmap⟩
    induction hls with
    | done => simp
    | blank hc _ ih => exact List.forall_mem_cons.mpr ⟨hc, ih hmap⟩
    | lexeme _ _ _ => cases hmap
  · intro hblank
    rw [← List.append_nil cs, blanks_iff hblank]
    exact nil_iff.mpr rfl

theorem lexeme_iff {text rest : List Char} {t : Token} (hmeans : Means operand text rest t) :
    LexesTo operand offset (text ++ rest) ts ↔
      ∃ us, ts = ⟨t, offset⟩ :: us ∧
        LexesTo t.endsOperand (offset + Text.byteSize text) rest us := by
  constructor
  · rintro ⟨ls, hls, rfl⟩
    obtain ⟨ms, rfl, hms⟩ := (Lexes.lexeme_iff hmeans).mp hls
    exact ⟨ms.map Lexeme.located, rfl, ms, hms, rfl⟩
  · rintro ⟨-, rfl, ms, hms, rfl⟩
    exact ⟨⟨text, t, offset⟩ :: ms, .lexeme hmeans Token.endsOperand_iff hms, rfl⟩

def AfterRun (operand : Bool) (offset : Nat) (tokens : Except SyntaxError (List Located))
    (rest : List Char) (ts : List Located) : Prop :=
  ∃ us vs, tokens = .ok us ∧ ts = us ++ vs ∧ LexesTo (operandPast operand us) offset rest vs

theorem not_afterRun_error {e : SyntaxError} {rest : List Char} :
    ¬ AfterRun operand offset (.error e) rest ts := by
  rintro ⟨us, vs, htokens, -⟩
  cases htokens

theorem afterRun_ok_iff {us : List Located} {rest : List Char} :
    AfterRun operand offset (.ok us) rest ts ↔
      ∃ vs, ts = us ++ vs ∧ LexesTo (operandPast operand us) offset rest vs := by
  constructor
  · rintro ⟨us, vs, hus, rfl, hvs⟩
    cases hus
    exact ⟨vs, rfl, hvs⟩
  · rintro ⟨vs, rfl, hvs⟩
    exact ⟨us, vs, rfl, rfl, hvs⟩

theorem afterRun_map_cons_iff {t : Located} {tokens : Except SyntaxError (List Located)}
    {rest : List Char} :
    AfterRun operand offset (tokens.map (t :: ·)) rest ts ↔
      ∃ us, ts = t :: us ∧ AfterRun t.token.endsOperand offset tokens rest us := by
  cases tokens with
  | error e =>
    constructor
    · intro h
      exact absurd h not_afterRun_error
    · rintro ⟨us, -, h⟩
      exact absurd h not_afterRun_error
  | ok us =>
    simp only [Except.map, afterRun_ok_iff, operandPast]
    constructor
    · rintro ⟨vs, rfl, hvs⟩
      exact ⟨us ++ vs, rfl, vs, rfl, hvs⟩
    · rintro ⟨-, rfl, vs, rfl, hvs⟩
      exact ⟨vs, rfl, hvs⟩

/-! ### Rows of symbols -/

theorem utf8Size_of_mem_symbolChars : ∀ c ∈ symbolChars, c.utf8Size = 1 := by
  have hall : symbolChars.all (·.utf8Size == 1) = true := by decide
  simpa only [List.all_eq_true, beq_iff_eq] using hall

theorem not_isSymbol_of_ofSymbol? {text : List Char} {leading : Bool}
    (h : Token.ofSymbol? (String.ofList text) leading = none) : ¬ IsSymbol text := by
  rw [← isSome_ofSymbol?_iff, h]
  exact Bool.false_ne_true

theorem eq_singleton_or_pair_of_isSymbol {text cs : List Char} {a : Char} (h : IsSymbol text)
    (hfront : text <+: a :: cs) : text = [a] ∨ ∃ b ∈ cs.head?, text = [a, b] := by
  obtain ⟨hne, hlen, -⟩ := isSymbol_facts h
  match text, hne, hlen with
  | [c], _, _ =>
    rw [(List.cons_prefix_cons.mp hfront).1]
    exact .inl rfl
  | [c, d], _, _ =>
    obtain ⟨rfl, hd⟩ := List.cons_prefix_cons.mp hfront
    obtain ⟨tail, rfl⟩ := hd
    exact .inr ⟨d, rfl, rfl⟩

/-- What starts with a symbol character and with no symbol is not lexed. -/
theorem not_lexesTo_of_not_isSymbol {a : Char} {cs : List Char} (ha : a ∈ symbolChars)
    (hone : ¬ IsSymbol [a]) (htwo : ∀ b ∈ cs.head?, ¬ IsSymbol [a, b]) :
    ¬ LexesTo operand offset (a :: cs) ts := by
  rintro ⟨ls, hls, -⟩
  have hkind := CharKind.of_mem_symbolChars a ha
  obtain ⟨text, rest, t, ms, heq, hmeans, -⟩ := Lexes.exists_lexeme (by rw [hkind]; decide) hls
  have hfirst : firstKind? (text ++ rest) = some .symbol := by rw [← heq]; exact congrArg some hkind
  have hsymbol := hmeans.isSymbol_of_firstKind? hfirst
  rcases eq_singleton_or_pair_of_isSymbol hsymbol (heq ▸ List.prefix_append text rest) with rfl | ⟨b, hb, rfl⟩
  · exact hone hsymbol
  · exact htwo b hb hsymbol

/-- A symbol at the front of a row, and the rest of the row. -/
theorem symbol_run_iff {text run rest : List Char} {t : Token}
    {tokens : Except SyntaxError (List Located)} (hmeans : Means operand text (run ++ rest) t)
    (hrun : ∀ us, LexesTo t.endsOperand (offset + Text.byteSize text) (run ++ rest) us ↔
      AfterRun t.endsOperand (offset + Text.byteSize text + Text.byteSize run) tokens rest us) :
    LexesTo operand offset (text ++ run ++ rest) ts ↔
      AfterRun operand (offset + Text.byteSize (text ++ run)) (tokens.map (⟨t, offset⟩ :: ·)) rest ts := by
  rw [List.append_assoc, lexeme_iff hmeans, afterRun_map_cons_iff, Text.byteSize_append, ← Nat.add_assoc]
  exact exists_congr fun us => and_congr_right' (hrun us)

theorem symbols_iff {run rest : List Char} (hrun : ∀ c ∈ run, c ∈ symbolChars)
    (hstop : ∀ c ∈ rest.head?, c ∉ symbolChars) :
    LexesTo operand offset (run ++ rest) ts ↔
      AfterRun operand (offset + Text.byteSize run) (divideSymbols operand offset run) rest ts := by
  -- What comes after the row has no part in a symbol.
  have hapart : ∀ a, ∀ c ∈ rest.head?, ¬ IsSymbol [a, c] := by
    intro a c hc hsymbol
    exact hstop c hc ((isSymbol_facts hsymbol).2.2 c (by simp))
  fun_induction divideSymbols operand offset run generalizing ts with
  | case1 operand offset =>
    rw [afterRun_ok_iff]
    simp only [List.nil_append, operandPast, Text.byteSize_nil, Nat.add_zero, exists_eq_left']
  | case2 operand offset a token htoken =>
    have hmeans : Means operand [a] rest token := Means.of_ofSymbol? htoken (hapart a)
    rw [lexeme_iff hmeans, afterRun_ok_iff]
    rfl
  | case3 operand offset a hnone =>
    have hone := not_isSymbol_of_ofSymbol? hnone
    exact iff_of_false (not_lexesTo_of_not_isSymbol (hrun a List.mem_cons_self) hone (hapart a))
      not_afterRun_error
  | case4 operand offset a b more token htoken ih =>
    -- Two characters that are a symbol: there is none of three.
    have hmeans : Means operand [a, b] (more ++ rest) token := by
      refine Means.of_ofSymbol? htoken fun c _ hsymbol => ?_
      have hlen := (isSymbol_facts hsymbol).2.1
      contradiction
    obtain ⟨ha, hrun⟩ := List.forall_mem_cons.mp hrun
    obtain ⟨hb, hrun⟩ := List.forall_mem_cons.mp hrun
    have hsize : Text.byteSize [a, b] = 2 := by
      simp [utf8Size_of_mem_symbolChars a ha, utf8Size_of_mem_symbolChars b hb]
    refine symbol_run_iff hmeans fun us => ?_
    rw [hsize]
    exact ih hrun
  | case5 operand offset a b more hnone token htoken ih =>
    -- One character that is a symbol, but not together with the next one.
    have hmeans : Means operand [a] (b :: more ++ rest) token := by
      refine Means.of_ofSymbol? htoken fun c hc => ?_
      cases hc
      exact not_isSymbol_of_ofSymbol? hnone
    obtain ⟨ha, hrun⟩ := List.forall_mem_cons.mp hrun
    have hsize : Text.byteSize [a] = 1 := by simp [utf8Size_of_mem_symbolChars a ha]
    refine symbol_run_iff hmeans fun us => ?_
    rw [hsize]
    exact ih hrun
  | case6 operand offset a b more hnone hnone' =>
    -- Neither is a symbol, and a symbol at the front would have to be one of them.
    refine iff_of_false ?_ not_afterRun_error
    refine not_lexesTo_of_not_isSymbol (hrun a List.mem_cons_self) (not_isSymbol_of_ofSymbol? hnone') ?_
    rintro c hc
    cases hc
    exact not_isSymbol_of_ofSymbol? hnone

/-- A run of digits and points is a number or is not lexed. -/
theorem digits_iff {text rest : List Char} (hfront : LongestFront IsDigitRun text rest) :
    LexesTo operand offset (text ++ rest) ts ↔
      ∃ v, Decimal.numeral? text = some v ∧
        ∃ us, ts = ⟨.number v, offset⟩ :: us ∧
          LexesTo true (offset + Text.byteSize text) rest us := by
  have hmeans : ∀ {v}, Decimal.numeral? text = some v → Means operand text rest (.number v) := by
    intro v hv
    exact .number hfront ((isSome_numeral?_iff hfront.1).mp (Option.isSome_of_eq_some hv)) hv
  constructor
  · intro h
    have hnumeral : IsNumeral text := h.elim fun ls hls => hls.1.isNumeral hfront
    obtain ⟨v, hv⟩ := Option.isSome_iff_exists.mp ((isSome_numeral?_iff hfront.1).mpr hnumeral)
    exact ⟨v, hv, (lexeme_iff (hmeans hv)).mp h⟩
  · rintro ⟨v, hv, h⟩
    exact (lexeme_iff (hmeans hv)).mpr h

end LexesTo

namespace Scanner

structure Ready (s : Scanner) : Prop where
  holds : s.shape.Holds s.run.reverse
  offset_eq : s.offset = s.start + Text.byteSize s.run.reverse

theorem ready_start : Ready {} := ⟨by simp [Shape.Holds], rfl⟩

/-- The text from the start of a run on that ends before `rest`. -/
theorem lexesTo_run_iff {s : Scanner} (hs : s.Ready) {rest : List Char} {ts : List Located}
    (hstop : ∀ c ∈ rest.head?, ¬ s.shape.Admits c) :
    LexesTo s.operand s.start (s.run.reverse ++ rest) ts ↔
      LexesTo.AfterRun s.operand s.offset s.runTokens rest ts := by
  have hrun := hs.holds
  rw [hs.offset_eq, runTokens]
  cases hshape : s.shape with
  | blank =>
    rw [hshape] at hrun
    simp [LexesTo.blanks_iff hrun, LexesTo.afterRun_ok_iff, operandPast]
  | numeral | pointed =>
    rw [hshape] at hrun hstop
    have hfront : LongestFront IsDigitRun s.run.reverse rest := by
      refine gradual_isDigitRun.longestFront_iff.mpr ⟨hrun, fun c hc hnext => hstop c hc ?_⟩
      exact (isDigitRun_concat_iff hrun).mp hnext
    rw [LexesTo.digits_iff hfront]
    cases Decimal.numeral? s.run.reverse with
    | none => simp [LexesTo.not_afterRun_error]
    | some v => simp [LexesTo.afterRun_ok_iff, operandPast, Token.endsOperand]
  | name =>
    rw [hshape] at hrun hstop
    have hfront : LongestFront IsName s.run.reverse rest := by
      refine gradual_isName.longestFront_iff.mpr ⟨hrun, fun c hc hnext => hstop c hc ?_⟩
      exact (isName_append_iff hrun).mp hnext c List.mem_cons_self
    rw [LexesTo.lexeme_iff (.name hfront)]
    simp [LexesTo.afterRun_ok_iff, operandPast]
  | symbols =>
    rw [hshape] at hrun hstop
    exact LexesTo.symbols_iff hrun hstop

theorem Ready.extend {s : Scanner} (hs : s.Ready) {c : Char} {shape : Shape}
    (h : s.shape.extend (CharKind.of c) = some shape) :
    Ready { s with shape, run := c :: s.run, offset := s.offset + c.utf8Size } where
  holds := by
    have hadmits := Shape.isSome_extend_iff.mp (Option.isSome_of_eq_some h)
    rw [Shape.holds_of_extend h, List.reverse_cons]
    exact Shape.holds_concat hs.holds hadmits
  offset_eq := by simp [hs.offset_eq, Nat.add_assoc]

theorem ready_next {c : Char} (hc : CharKind.of c ≠ .other) (start : Nat) (operand : Bool) :
    Ready { shape := .start (CharKind.of c), run := [c], start, offset := start + c.utf8Size, operand } :=
  ⟨Shape.holds_start hc, rfl⟩

/-- What reading a character can do: it may be no part of any run, it may continue the run, or else the run
ends before it and is divided, if it can be. -/
inductive Steps (s : Scanner) (c : Char) : Except SyntaxError (List Located × Scanner) → Prop where
  | stray : CharKind.of c = .other → Steps s c (.error (.strayCharacter c s.offset))
  | continues {shape : Shape} : s.shape.extend (CharKind.of c) = some shape →
      Steps s c (.ok ([], { s with shape, run := c :: s.run, offset := s.offset + c.utf8Size }))
  | divides {us : List Located} : CharKind.of c ≠ .other → ¬ s.shape.Admits c → s.runTokens = .ok us →
      Steps s c (.ok (us, { shape := .start (CharKind.of c), run := [c], start := s.offset,
                            offset := s.offset + c.utf8Size, operand := s.operandAfter us }))
  | fails {e : SyntaxError} : ¬ s.shape.Admits c → s.runTokens = .error e → Steps s c (.error e)

theorem steps_step (s : Scanner) (c : Char) : Steps s c (s.step c) := by
  rw [step]
  by_cases hkind : CharKind.of c = .other
  · rw [if_pos hkind]
    exact .stray hkind
  · rw [if_neg hkind]
    cases hextend : s.shape.extend (CharKind.of c) with
    | some shape => exact .continues hextend
    | none =>
      have hstop : ¬ s.shape.Admits c := by
        rw [← Shape.isSome_extend_iff, hextend]
        exact Bool.false_ne_true
      cases htokens : s.runTokens with
      | error e => exact .fails hstop htokens
      | ok us => exact .divides hkind hstop htokens

theorem after_eq_iff {scan : Scan} {us ts : List Located} :
    scan.after us = ⟨ts, none⟩ ↔ ∃ vs, ts = us ++ vs ∧ scan = ⟨vs, none⟩ := by
  obtain ⟨vs, failure⟩ := scan
  simp only [Scan.after, Scan.mk.injEq]
  constructor
  · rintro ⟨rfl, rfl⟩
    exact ⟨vs, rfl, rfl, rfl⟩
  · rintro ⟨-, rfl, rfl, rfl⟩
    exact ⟨rfl, rfl⟩

/-- A scanner reads the rest of a text without an error exactly if the run and the rest are lexed. -/
theorem scan_eq_iff {s : Scanner} (hs : s.Ready) (rest : List Char) (ts : List Located) :
    s.scan rest = ⟨ts, none⟩ ↔ LexesTo s.operand s.start (s.run.reverse ++ rest) ts := by
  -- Every step keeps the scanner ready: it adds the character to the run, or divides the run and begins a
  -- new one with the character.
  induction rest generalizing s ts with
  | nil =>
    rw [lexesTo_run_iff hs (by simp), scan]
    cases htokens : s.runTokens with
    | error e => simp [LexesTo.not_afterRun_error]
    | ok us => simp [LexesTo.afterRun_ok_iff, LexesTo.nil_iff, eq_comm]
  | cons c rest ih =>
    have hstep := s.steps_step c
    rw [scan]
    generalize s.step c = result at hstep ⊢
    cases hstep with
    | stray hkind =>
      refine iff_of_false (by simp) ?_
      rintro ⟨ls, hls, -⟩
      exact hls.kind_ne_other c (by simp) hkind
    | continues hextend =>
      have hscan := ih (hs.extend hextend) ts
      simp only [List.reverse_cons, List.append_assoc, List.singleton_append] at hscan
      rw [← hscan, after_eq_iff]
      simp only [List.nil_append, exists_eq_left']
    | fails hstop htokens =>
      rw [lexesTo_run_iff hs (by simpa using hstop), htokens]
      simp [LexesTo.not_afterRun_error]
    | divides hkind hstop htokens =>
      rw [lexesTo_run_iff hs (by simpa using hstop), htokens, LexesTo.afterRun_ok_iff, after_eq_iff,
        ← operandAfter_eq]
      exact exists_congr fun vs => and_congr_right' (ih (ready_next hkind _ _) vs)

end Scanner

theorem Scan.ofString_eq_iff {source : String} {ts : List Located} :
    ofString source = ⟨ts, none⟩ ↔ LexesTo false 0 source.toList ts :=
  Scanner.scan_eq_iff Scanner.ready_start source.toList ts

end Gauge
