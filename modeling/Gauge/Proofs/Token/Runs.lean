import Gauge.Proofs.Token.Scanning

/-! # Runs

A text is read run by run: a blank, a run of digits and points, a name, or a row of symbols, each but the
blank as long as the text allows. If the reading fails, it fails in one run, and the runs before it have
become tokens by then.
-/
namespace Gauge

def IsSymbolRow (cs : List Char) : Prop := cs ≠ [] ∧ ∀ c ∈ cs, c ∈ symbolChars

theorem isSymbolRow_concat_iff {cs : List Char} (h : IsSymbolRow cs) {c : Char} :
    IsSymbolRow (cs ++ [c]) ↔ c ∈ symbolChars := by
  simp only [IsSymbolRow, List.forall_mem_append, List.forall_mem_singleton]
  exact ⟨fun hc => hc.2.2, fun hc => ⟨by simp, h.2, hc⟩⟩

theorem gradual_isSymbolRow : Gradual IsSymbolRow := by
  intro front c rest hfront hlonger
  rw [isSymbolRow_concat_iff hfront]
  exact hlonger.2 c (by simp)

inductive RunSort where
  | blank
  | digits
  | name
  | symbols

def RunSort.Holds : RunSort → List Char → Prop
  | .blank, cs => ∃ c, cs = [c] ∧ Text.isBlank c = true
  | .digits, cs => IsDigitRun cs
  | .name, cs => IsName cs
  | .symbols, cs => IsSymbolRow cs

def IsRun (text rest : List Char) : Prop := ∃ sort : RunSort, LongestFront sort.Holds text rest

inductive Runs : List Char → List Char → Prop where
  | nil (rest : List Char) : Runs [] rest
  | cons {text front rest : List Char} :
      IsRun text (front ++ rest) → Runs front rest → Runs (text ++ front) rest

/-- The text `front ++ run ++ rest` from byte `start` on is wrong in `run`: this is no numeral, or a row of
symbols from some place of which no symbol begins, or what directly precedes a character that is part of no
run. -/
inductive Breaks (start : Nat) (front run rest : List Char) : SyntaxError → Prop where
  | malformed : LongestFront IsDigitRun run rest → ¬ IsNumeral run →
      Breaks start front run rest
        (.malformedNumber (String.ofList run) (start + Text.byteSize front))
  | unknown (known symbol : List Char) : LongestFront IsSymbolRow run rest → run = known ++ symbol →
      symbol ≠ [] → (∀ text, text <+: symbol → ¬ IsSymbol text) →
      Breaks start front run rest
        (.unknownOperator (String.ofList symbol) (start + Text.byteSize (front ++ known)))
  | stray (c : Char) (after : List Char) : IsRun run rest → rest = c :: after → CharKind.other.Holds c →
      Breaks start front run rest (.strayCharacter c (start + Text.byteSize (front ++ run)))
  | first (c : Char) (after : List Char) : front = [] → run = [] → rest = c :: after →
      CharKind.other.Holds c → Breaks start front run rest (.strayCharacter c start)

theorem Breaks.append_left {start : Nat} {front run rest : List Char} {e : SyntaxError}
    (before : List Char) (hrun : run ≠ [])
    (h : Breaks (start + Text.byteSize before) front run rest e) :
    Breaks start (before ++ front) run rest e := by
  have hsize : ∀ cs, start + Text.byteSize before + Text.byteSize cs =
      start + Text.byteSize (before ++ cs) := by
    intro cs
    rw [Text.byteSize_append, Nat.add_assoc]
  cases h with
  | malformed hfront hnumeral =>
    rw [hsize]
    exact .malformed hfront hnumeral
  | unknown known symbol hfront hrun hne hnone =>
    rw [hsize, ← List.append_assoc]
    exact .unknown known symbol hfront hrun hne hnone
  | stray c after hrun hrest hc =>
    rw [hsize, ← List.append_assoc]
    exact .stray c after hrun hrest hc
  | first c after _ hnil _ _ => exact absurd hnil hrun

/-! ### Runs are unique -/

def RunSort.of? : CharKind → Option RunSort
  | .blank => some .blank
  | .digit | .dot => some .digits
  | .letter => some .name
  | .symbol => some .symbols
  | .other => none

theorem RunSort.of?_firstKind? {sort : RunSort} {text : List Char} (h : sort.Holds text)
    (rest : List Char) : (firstKind? (text ++ rest)).bind RunSort.of? = some sort := by
  cases sort with
  | blank =>
    obtain ⟨c, rfl, hc⟩ := h
    have hkind : firstKind? ([c] ++ rest) = some .blank := congrArg some (CharKind.of_isBlank hc)
    rw [hkind]
    rfl
  | digits =>
    rcases firstKind?_of_isDigitRun h rest with hkind | hkind
    · rw [hkind]
      rfl
    · rw [hkind]
      rfl
  | name =>
    rw [firstKind?_of_isName h rest]
    rfl
  | symbols =>
    obtain ⟨hne, hchars⟩ := h
    obtain ⟨c, cs, rfl⟩ := List.exists_cons_of_ne_nil hne
    have hkind : firstKind? (c :: cs ++ rest) = some .symbol :=
      congrArg some (CharKind.of_mem_symbolChars c (hchars c List.mem_cons_self))
    rw [hkind]
    rfl

theorem RunSort.ne_nil {sort : RunSort} {text : List Char} (h : sort.Holds text) : text ≠ [] := by
  rintro rfl
  have hkind := of?_firstKind? h []
  cases hkind

theorem IsRun.ne_nil {text rest : List Char} (h : IsRun text rest) : text ≠ [] := by
  obtain ⟨sort, hsort⟩ := h
  exact RunSort.ne_nil hsort.1

theorem IsRun.unique {text rest text' rest' : List Char} (h : IsRun text rest) (h' : IsRun text' rest')
    (heq : text ++ rest = text' ++ rest') : text = text' ∧ rest = rest' := by
  obtain ⟨sort, hsort⟩ := h
  obtain ⟨sort', hsort'⟩ := h'
  have hkind := RunSort.of?_firstKind? hsort.1 rest
  rw [heq, RunSort.of?_firstKind? hsort'.1 rest'] at hkind
  obtain rfl := Option.some.inj hkind
  exact hsort.unique hsort' heq

/-- Where a division into runs goes on with `run`, another one of the same text stops before or goes on with
it as well. -/
theorem Runs.prefix_or {front run rest front' rest' : List Char} (h : Runs front (run ++ rest))
    (hrun : IsRun run rest) (h' : Runs front' rest')
    (heq : front ++ (run ++ rest) = front' ++ rest') : front' <+: front ∨ front ++ run <+: front' := by
  generalize hmore : run ++ rest = more at h heq
  induction h generalizing front' with
  | nil more =>
    cases h' with
    | nil _ => exact .inl List.nil_prefix
    | @cons text front' _ htext _ =>
      rw [← hmore, List.append_assoc] at heq
      obtain ⟨rfl, -⟩ := hrun.unique htext heq
      exact .inr (List.prefix_append run front')
  | @cons text front more htext _ ih =>
    cases h' with
    | nil _ => exact .inl List.nil_prefix
    | @cons text' front' _ htext' hfront' =>
      rw [List.append_assoc, List.append_assoc] at heq
      obtain ⟨rfl, hrest⟩ := htext.unique htext' heq
      rcases ih hfront' hmore hrest with hshort | hlong
      · exact .inl ((List.prefix_append_right_inj text).mpr hshort)
      · rw [List.append_assoc]
        exact .inr ((List.prefix_append_right_inj text).mpr hlong)

def SyntaxError.reach : SyntaxError → Nat
  | .strayCharacter _ offset => offset
  | e => e.offset?.getD 0 + 1

theorem Text.byteSize_pos {cs : List Char} (h : cs ≠ []) : 0 < Text.byteSize cs := by
  obtain ⟨c, cs, rfl⟩ := List.exists_cons_of_ne_nil h
  have hpos := c.utf8Size_pos
  rw [Text.byteSize_cons]
  omega

theorem Breaks.reach {front run rest : List Char} {e : SyntaxError} (h : Breaks 0 front run rest e) :
    (front = [] ∧ e.reach = 0) ∨ (IsRun run rest ∧ Text.byteSize front < e.reach ∧
      e.reach ≤ Text.byteSize front + Text.byteSize run) := by
  cases h with
  | malformed hfront _ =>
    have hpos := Text.byteSize_pos hfront.1.1
    refine .inr ⟨⟨.digits, hfront⟩, ?_⟩
    simp only [SyntaxError.reach, SyntaxError.offset?, Option.getD_some]
    omega
  | unknown known symbol hfront hrun hne _ =>
    have hpos := Text.byteSize_pos hne
    refine .inr ⟨⟨.symbols, hfront⟩, ?_⟩
    simp only [SyntaxError.reach, SyntaxError.offset?, Option.getD_some, hrun, Text.byteSize_append]
    omega
  | stray c after hrun _ _ =>
    have hpos := Text.byteSize_pos hrun.ne_nil
    refine .inr ⟨hrun, ?_⟩
    simp only [SyntaxError.reach, Text.byteSize_append]
    omega
  | first c after hfront _ _ _ => exact .inl ⟨hfront, rfl⟩

/-- The error tells which run is wrong. -/
theorem Breaks.front_prefix {front run rest front' run' rest' : List Char} {e : SyntaxError}
    (h : Breaks 0 front run rest e) (hruns : Runs front (run ++ rest))
    (h' : Breaks 0 front' run' rest' e) (hruns' : Runs front' (run' ++ rest'))
    (heq : front ++ run ++ rest = front' ++ run' ++ rest') : front' <+: front := by
  rw [List.append_assoc, List.append_assoc] at heq
  rcases h.reach with ⟨hnil, hzero⟩ | ⟨hrun, -, hreach⟩
  · rcases h'.reach with ⟨hnil', -⟩ | ⟨-, hlt, -⟩
    · rw [hnil']
      exact List.nil_prefix
    · omega
  · rcases hruns.prefix_or hrun hruns' heq with hshort | hlong
    · exact hshort
    · -- Then the text has been read beyond the run that is wrong.
      obtain ⟨more, rfl⟩ := hlong
      rw [← Text.byteSize_append] at hreach
      rcases h'.reach with ⟨hnil', -⟩ | ⟨-, hlt, -⟩
      · exact absurd (List.append_eq_nil_iff.mp (List.append_eq_nil_iff.mp hnil').1).2 hrun.ne_nil
      · rw [Text.byteSize_append (front ++ run)] at hlt
        omega

/-! ### Runs that become no tokens -/

theorem eq_error_of_map {α β : Type} {x : Except SyntaxError α} {f : α → β} {e : SyntaxError}
    (h : x.map f = .error e) : x = .error e := by
  cases x with
  | error d => cases h; rfl
  | ok a => cases h

theorem not_isSymbol_of_prefix {a : Char} {cs text : List Char} (hone : ¬ IsSymbol [a])
    (htwo : ∀ b ∈ cs.head?, ¬ IsSymbol [a, b]) (htext : text <+: a :: cs) : ¬ IsSymbol text := by
  intro hsymbol
  rcases LexesTo.eq_singleton_or_pair_of_isSymbol hsymbol htext with rfl | ⟨b, hb, rfl⟩
  · exact hone hsymbol
  · exact htwo b hb hsymbol

/-- A row of symbols is divided up to a place where no symbol begins. -/
theorem exists_unknown_of_divideSymbols {operand : Bool} {offset : Nat} {run : List Char}
    {e : SyntaxError} (hrun : ∀ c ∈ run, c ∈ symbolChars)
    (h : divideSymbols operand offset run = .error e) :
    ∃ known symbol, run = known ++ symbol ∧ symbol ≠ [] ∧ (∀ text, text <+: symbol → ¬ IsSymbol text) ∧
      e = .unknownOperator (String.ofList symbol) (offset + Text.byteSize known) := by
  have hsize : ∀ c ∈ run, c.utf8Size = 1 := fun c hc => LexesTo.utf8Size_of_mem_symbolChars c (hrun c hc)
  fun_induction divideSymbols operand offset run with
  | case1 => cases h
  | case2 => cases h
  | case3 operand offset a hnone =>
    cases h
    have hone := LexesTo.not_isSymbol_of_ofSymbol? hnone
    refine ⟨[], [a], rfl, by simp, ?_, rfl⟩
    intro text htext
    exact not_isSymbol_of_prefix hone (by simp) htext
  | case4 operand offset a b rest token _ ih =>
    obtain ⟨ha, hmore⟩ := List.forall_mem_cons.mp hsize
    obtain ⟨hb, hmore⟩ := List.forall_mem_cons.mp hmore
    have hrest : ∀ c ∈ rest, c ∈ symbolChars := fun c hc => hrun c (by simp [hc])
    obtain ⟨known, symbol, rfl, hne, hnone, rfl⟩ := ih hrest (eq_error_of_map h) hmore
    refine ⟨a :: b :: known, symbol, rfl, hne, hnone, ?_⟩
    simp only [Text.byteSize_cons, ha, hb, ← Nat.add_assoc]
  | case5 operand offset a b rest _ token _ ih =>
    obtain ⟨ha, hmore⟩ := List.forall_mem_cons.mp hsize
    have hrest : ∀ c ∈ b :: rest, c ∈ symbolChars := fun c hc => hrun c (List.mem_cons_of_mem a hc)
    obtain ⟨known, symbol, heq, hne, hnone, rfl⟩ := ih hrest (eq_error_of_map h) hmore
    refine ⟨a :: known, symbol, congrArg (a :: ·) heq, hne, hnone, ?_⟩
    simp only [Text.byteSize_cons, ha, ← Nat.add_assoc]
  | case6 operand offset a b rest hpair hnone =>
    cases h
    have hone := LexesTo.not_isSymbol_of_ofSymbol? hnone
    have htwo := LexesTo.not_isSymbol_of_ofSymbol? hpair
    refine ⟨[], a :: b :: rest, rfl, by simp, ?_, rfl⟩
    intro text htext
    exact not_isSymbol_of_prefix hone (by simpa using htwo) htext

namespace Scanner

structure Running (s : Scanner) : Prop where
  ready : s.Ready
  run_ne_nil : s.run ≠ []
  blank : s.shape = .blank → ∃ c, s.run = [c]

theorem Running.extend {s : Scanner} (hs : s.Running) {c : Char} {shape : Shape}
    (h : s.shape.extend (CharKind.of c) = some shape) :
    Running { s with shape, run := c :: s.run, offset := s.offset + c.utf8Size } := by
  refine ⟨hs.ready.extend h, by simp, ?_⟩
  intro hblank
  obtain rfl : shape = .blank := hblank
  have hnone : s.shape.extend (CharKind.of c) ≠ some .blank := by
    cases s.shape <;> cases CharKind.of c <;> simp [Shape.extend]
  exact absurd h hnone

theorem running_next {c : Char} (hc : CharKind.of c ≠ .other) (start : Nat) (operand : Bool) :
    Running { shape := .start (CharKind.of c), run := [c], start, offset := start + c.utf8Size, operand } :=
  ⟨ready_next hc start operand, by simp, fun _ => ⟨c, rfl⟩⟩

variable {s : Scanner} {rest : List Char}

theorem Ready.longestFront_digits (hs : s.Ready) (hshape : s.shape = .numeral ∨ s.shape = .pointed)
    (hstop : ∀ c ∈ rest.head?, ¬ s.shape.Admits c) : LongestFront IsDigitRun s.run.reverse rest := by
  have hrun := hs.holds
  rcases hshape with hshape | hshape
  all_goals
    rw [hshape] at hrun hstop
    refine gradual_isDigitRun.longestFront_iff.mpr ⟨hrun, ?_⟩
    intro c hc hnext
    exact hstop c hc ((isDigitRun_concat_iff hrun).mp hnext)

theorem Running.longestFront_symbols (hs : s.Running) (hshape : s.shape = .symbols)
    (hstop : ∀ c ∈ rest.head?, ¬ s.shape.Admits c) : LongestFront IsSymbolRow s.run.reverse rest := by
  have hrun := hs.ready.holds
  rw [hshape] at hrun hstop
  have hrow : IsSymbolRow s.run.reverse := ⟨by simpa using hs.run_ne_nil, hrun⟩
  refine gradual_isSymbolRow.longestFront_iff.mpr ⟨hrow, ?_⟩
  intro c hc hnext
  exact hstop c hc ((isSymbolRow_concat_iff hrow).mp hnext)

theorem Running.isRun (hs : s.Running) (hstop : ∀ c ∈ rest.head?, ¬ s.shape.Admits c) :
    IsRun s.run.reverse rest := by
  have hrun := hs.ready.holds
  cases hshape : s.shape with
  | blank =>
    obtain ⟨c, hc⟩ := hs.blank hshape
    rw [hshape, hc] at hrun
    refine ⟨.blank, ⟨c, by simp [hc], hrun c (by simp)⟩, ?_⟩
    rintro longer - ⟨d, rfl, -⟩
    simp [hc]
  | numeral => exact ⟨.digits, hs.ready.longestFront_digits (.inl hshape) hstop⟩
  | pointed => exact ⟨.digits, hs.ready.longestFront_digits (.inr hshape) hstop⟩
  | name =>
    rw [hshape] at hrun hstop
    refine ⟨.name, gradual_isName.longestFront_iff.mpr ⟨hrun, ?_⟩⟩
    intro c hc hnext
    exact hstop c hc ((isName_append_iff hrun).mp hnext c List.mem_cons_self)
  | symbols => exact ⟨.symbols, hs.longestFront_symbols hshape hstop⟩

theorem Ready.breaks_of_digits (hs : s.Ready) (hshape : s.shape = .numeral ∨ s.shape = .pointed)
    (hstop : ∀ c ∈ rest.head?, ¬ s.shape.Admits c)
    (hv : Decimal.numeral? s.run.reverse = none) :
    Breaks s.start [] s.run.reverse rest (.malformedNumber (String.ofList s.run.reverse) s.start) := by
  have hfront := hs.longestFront_digits hshape hstop
  have hnumeral : ¬ IsNumeral s.run.reverse := by
    rw [← isSome_numeral?_iff hfront.1, hv]
    exact Bool.false_ne_true
  exact .malformed hfront hnumeral

theorem Running.breaks_of_stray (hs : s.Running) {c : Char} (hkind : CharKind.of c = .other)
    (rest : List Char) : Breaks s.start [] s.run.reverse (c :: rest) (.strayCharacter c s.offset) := by
  have hstop : ∀ d ∈ (c :: rest).head?, ¬ s.shape.Admits d := by
    intro d hd
    cases hd
    rw [← Shape.isSome_extend_iff, hkind]
    cases s.shape <;> simp [Shape.extend]
  rw [hs.ready.offset_eq]
  have hc := CharKind.holds_of c
  rw [hkind] at hc
  exact .stray c rest (hs.isRun hstop) rfl hc

theorem Running.breaks (hs : s.Running) (hstop : ∀ c ∈ rest.head?, ¬ s.shape.Admits c)
    {e : SyntaxError} (h : s.runTokens = .error e) : Breaks s.start [] s.run.reverse rest e := by
  unfold runTokens at h
  cases hshape : s.shape with
  | blank => rw [hshape] at h; cases h
  | name => rw [hshape] at h; cases h
  | numeral | pointed =>
    rw [hshape] at h
    cases hv : Decimal.numeral? s.run.reverse with
    | some v => rw [hv] at h; cases h
    | none =>
      rw [hv] at h
      cases h
      exact hs.ready.breaks_of_digits (by simp [hshape]) hstop hv
  | symbols =>
    rw [hshape] at h
    have hfront := hs.longestFront_symbols hshape hstop
    obtain ⟨known, symbol, heq, hne, hnone, rfl⟩ := exists_unknown_of_divideSymbols hfront.1.2 h
    exact .unknown known symbol hfront heq hne hnone

end Scanner

/-- The text `cs` is wrong in some run, and the tokens of the scan are those of the runs before this one. -/
def Scan.BreaksOff (scan : Scan) (operand : Bool) (start : Nat) (cs : List Char) (e : SyntaxError) : Prop :=
  ∃ front run rest, run ≠ [] ∧ cs = front ++ run ++ rest ∧ Runs front (run ++ rest) ∧
    Breaks start front run rest e ∧ LexesTo operand start front scan.tokens

namespace Scanner

variable {s : Scanner} {rest : List Char} {e : SyntaxError}

theorem Running.breaksOff_here (hs : s.Running) (h : Breaks s.start [] s.run.reverse rest e)
    (failure : Option SyntaxError) :
    Scan.BreaksOff ⟨[], failure⟩ s.operand s.start (s.run.reverse ++ rest) e := by
  have hne : s.run.reverse ≠ [] := by simpa using hs.run_ne_nil
  exact ⟨[], s.run.reverse, rest, hne, rfl, .nil _, h, LexesTo.nil_iff.mpr rfl⟩

/-- A run that ends and becomes tokens is the first of those before the one that is wrong. -/
theorem Running.breaksOff_after (hs : s.Running) (hstop : ∀ c ∈ rest.head?, ¬ s.shape.Admits c)
    {us : List Located} (htokens : s.runTokens = .ok us) {scan : Scan}
    (h : scan.BreaksOff (s.operandAfter us) s.offset rest e) :
    (scan.after us).BreaksOff s.operand s.start (s.run.reverse ++ rest) e := by
  obtain ⟨front, run, tail, hne, rfl, hruns, hbreaks, hlexes⟩ := h
  rw [List.append_assoc] at hstop ⊢
  have hfirst : IsRun s.run.reverse (front ++ (run ++ tail)) := hs.isRun hstop
  have hstop' : ∀ c ∈ front.head?, ¬ s.shape.Admits c := by
    intro c hc
    obtain ⟨more, rfl⟩ := List.head?_eq_some_iff.mp hc
    exact hstop c rfl
  refine ⟨s.run.reverse ++ front, run, tail, hne, by simp, .cons hfirst hruns, ?_, ?_⟩
  · rw [hs.ready.offset_eq] at hbreaks
    exact hbreaks.append_left _ hne
  · rw [operandAfter_eq] at hlexes
    rw [lexesTo_run_iff hs.ready hstop', htokens, LexesTo.afterRun_ok_iff]
    exact ⟨scan.tokens, rfl, hlexes⟩

theorem Running.breaksOff (hs : s.Running) (he : (s.scan rest).failure = some e) :
    (s.scan rest).BreaksOff s.operand s.start (s.run.reverse ++ rest) e := by
  -- What a running scanner has in hand is a run from its first character to here, so what goes wrong at the
  -- next character or at the end goes wrong in this run.
  induction rest generalizing s with
  | nil =>
    rw [scan] at he ⊢
    cases htokens : s.runTokens with
    | ok us => rw [htokens] at he; cases he
    | error d =>
      rw [htokens] at he
      cases he
      exact hs.breaksOff_here (hs.breaks (by simp) htokens) _
  | cons c rest ih =>
    have hstep := s.steps_step c
    rw [scan] at he ⊢
    generalize s.step c = result at hstep he ⊢
    cases hstep with
    | stray hkind =>
      cases he
      exact hs.breaksOff_here (hs.breaks_of_stray hkind rest) _
    | continues hextend =>
      have hbreaks := ih (hs.extend hextend) he
      rwa [List.reverse_cons, List.append_assoc] at hbreaks
    | fails hstop htokens =>
      cases he
      exact hs.breaksOff_here (hs.breaks (by simpa using hstop) htokens) _
    | divides hkind hstop htokens =>
      exact hs.breaksOff_after (by simpa using hstop) htokens (ih (running_next hkind s.offset _) he)

end Scanner

/-- A text whose scan fails is wrong in some run, or its first character is part of no run. -/
theorem Scan.exists_breaks {source : String} {e : SyntaxError}
    (he : (ofString source).failure = some e) :
    ∃ front run rest, source.toList = front ++ run ++ rest ∧ Runs front (run ++ rest) ∧
      Breaks 0 front run rest e ∧ LexesTo false 0 front (ofString source).tokens := by
  rw [ofString] at he ⊢
  generalize source.toList = cs at he ⊢
  cases cs with
  | nil => cases he
  | cons c rest =>
    rw [Scanner.scan, Scanner.step] at he ⊢
    by_cases hkind : CharKind.of c = .other
    · rw [if_pos hkind] at he ⊢
      cases he
      have hc := CharKind.holds_of c
      rw [hkind] at hc
      have hbreaks : Breaks 0 [] [] (c :: rest) (.strayCharacter c 0) := .first c rest rfl rfl rfl hc
      exact ⟨[], [], c :: rest, rfl, .nil _, hbreaks, LexesTo.nil_iff.mpr rfl⟩
    · rw [if_neg hkind] at he ⊢
      obtain ⟨front, run, tail, -, hbreaks⟩ := (Scanner.running_next hkind 0 false).breaksOff he
      exact ⟨front, run, tail, hbreaks⟩

end Gauge
