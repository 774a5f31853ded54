import Gauge.Proofs.Formula.Recognition
import Gauge.Proofs.Token.Scanning

/-! # Composition of texts

Texts of formulas in parentheses are put together to texts of larger formulas. Parentheses and commas are
part of no longer symbol, so the lexemes on both sides of them stay what they were, and the instructions of
the parts stand unchanged in those of the whole.
-/
namespace Gauge

/-- The text is lexed into the tokens, wherever it starts. -/
def Spells (operand : Bool) (cs : List Char) (ts : List Token) : Prop :=
  ∃ offset ls, Lexes operand offset cs ls ∧ ls.map Lexeme.token = ts

/-- Where a text starts has no part in its lexemes but for their offsets. -/
theorem Lexes.shift {operand : Bool} {offset : Nat} {cs : List Char} {ls : List Lexeme}
    (h : Lexes operand offset cs ls) (start : Nat) :
    ∃ ms, Lexes operand start cs ms ∧ ms.map Lexeme.token = ls.map Lexeme.token := by
  induction h generalizing start with
  | done => exact ⟨[], .done, rfl⟩
  | @blank _ _ c _ _ hc _ ih =>
    obtain ⟨ms, hms, hmap⟩ := ih (start + c.utf8Size)
    exact ⟨ms, .blank hc hms, hmap⟩
  | @lexeme _ _ _ text _ t _ hmeans hends _ ih =>
    obtain ⟨ms, hms, hmap⟩ := ih (start + Text.byteSize text)
    exact ⟨⟨text, t, start⟩ :: ms, .lexeme hmeans hends hms, congrArg (t :: ·) hmap⟩

theorem Spells.lexes {operand : Bool} {cs : List Char} {ts : List Token} (h : Spells operand cs ts)
    (start : Nat) : ∃ ls, Lexes operand start cs ls ∧ ls.map Lexeme.token = ts := by
  obtain ⟨offset, ls, hls, rfl⟩ := h
  exact hls.shift start

/-! ### Delimiters -/

def delimiters : List Char := ['(', ')', ',']

theorem eq_singleton_of_isSymbol {cs : List Char} {d : Char} (h : IsSymbol cs) (hd : d ∈ delimiters)
    (hmem : d ∈ cs) : cs = [d] := by
  have hall : ∀ cs ∈ symbolTable.map String.toList,
      cs.all (fun c => c ∈ delimiters → cs = [c]) = true := by
    rw [map_toList_symbolTable]
    decide
  have hcs := List.all_eq_true.mp (hall cs (isSymbol_iff.mp h)) d hmem
  exact of_decide_eq_true hcs hd

theorem kind_of_mem_delimiters {d : Char} (hd : d ∈ delimiters) : CharKind.of d = .symbol := by
  have hsub : delimiters ⊆ symbolChars := by decide
  exact CharKind.of_mem_symbolChars d (hsub hd)

theorem LongestFront.append {P : List Char → Prop} {text rest : List Char} {d : Char}
    (hP : Gradual P) (h : LongestFront P text rest) (hd : ¬ P (text ++ [d])) (more : List Char) :
    LongestFront P text (rest ++ d :: more) := by
  rw [hP.longestFront_iff] at h ⊢
  refine ⟨h.1, fun c hc => ?_⟩
  cases rest with
  | nil => cases hc; exact hd
  | cons a rest => exact h.2 c hc

namespace Means

variable {operand : Bool} {text rest : List Char} {t : Token} {d : Char}

theorem name_alone (operand : Bool) {name : String} (h : IsName name.toList) :
    Means operand name.toList [] (.identifier (Text.lowercase name)) := by
  have hmeans : Means operand name.toList [] (.identifier (Text.lowercase (String.ofList name.toList))) :=
    .name (gradual_isName.longestFront_iff.mpr ⟨h, by simp⟩)
  rwa [String.ofList_toList] at hmeans

theorem delimiter (hd : d ∈ delimiters) (ht : Token.ofSymbol? (String.ofList [d]) (!operand) = some t)
    (rest : List Char) : Means operand [d] rest t := by
  refine of_ofSymbol? ht fun c _ hsymbol => ?_
  have hone := eq_singleton_of_isSymbol hsymbol hd List.mem_cons_self
  simp at hone

/-- A delimiter ends the lexeme before it. -/
theorem append (h : Means operand text rest t) (hd : d ∈ delimiters) (more : List Char) :
    Means operand text (rest ++ d :: more) t := by
  have hkind := kind_of_mem_delimiters hd
  cases h with
  | number hfront hnumeral hv =>
    refine .number (hfront.append gradual_isDigitRun ?_ more) hnumeral hv
    rw [isDigitRun_concat_iff hfront.1, CharKind.isNumeralChar_iff_of, hkind]
    decide
  | name hfront =>
    refine .name (hfront.append gradual_isName ?_ more)
    rw [isName_append_iff hfront.1, List.forall_mem_singleton, CharKind.isNameChar_iff_of, hkind]
    decide
  | symbol hfront hsymbol hsuits =>
    refine .symbol (hfront.append gradual_isSymbol ?_ more) hsymbol hsuits
    intro hlonger
    have hone := eq_singleton_of_isSymbol hlonger hd (by simp)
    have hnil : text = [] := by simpa using hone
    exact (isSymbol_facts hfront.1).1 hnil

end Means

namespace Spells

variable {operand : Bool} {cs rest text : List Char} {ts us : List Token} {t : Token}

theorem nil : Spells operand [] [] := ⟨0, [], .done, rfl⟩

theorem lexeme (hmeans : Means operand text rest t) (h : Spells t.endsOperand rest ts) :
    Spells operand (text ++ rest) (t :: ts) := by
  obtain ⟨ls, hls, rfl⟩ := h.lexes (Text.byteSize text)
  exact ⟨0, ⟨text, t, 0⟩ :: ls, .lexeme hmeans Token.endsOperand_iff (by rwa [Nat.zero_add]), rfl⟩

theorem openParen (h : Spells false cs ts) : Spells operand ('(' :: cs) (.openParen :: ts) :=
  lexeme (.delimiter (by decide) (by cases operand <;> rfl) cs) h

theorem closeParen (h : Spells true cs ts) : Spells operand (')' :: cs) (.closeParen :: ts) :=
  lexeme (.delimiter (by decide) (by cases operand <;> rfl) cs) h

theorem comma (h : Spells false cs ts) : Spells operand (',' :: cs) (.comma :: ts) :=
  lexeme (.delimiter (by decide) (by cases operand <;> rfl) cs) h

/-- A text before a delimiter keeps its tokens. -/
theorem append {d : Char} (h : Spells operand cs ts) (hd : d ∈ delimiters)
    (hrest : ∀ operand, Spells operand (d :: rest) us) :
    Spells operand (cs ++ d :: rest) (ts ++ us) := by
  obtain ⟨offset, ls, hls, rfl⟩ := h
  -- Behind the last lexeme the delimiter stands alone, and the flag is the one that lexeme left.
  induction hls with
  | done => exact hrest _
  | blank hc _ ih =>
    obtain ⟨ms, hms, hmap⟩ := ih.lexes (0 + Char.utf8Size _)
    exact ⟨0, ms, .blank hc hms, hmap⟩
  | lexeme hmeans hends _ ih =>
    obtain rfl := Token.eq_endsOperand hends
    rw [List.append_assoc]
    exact lexeme (hmeans.append hd rest) ih

theorem group (h : Spells false cs ts) (hrest : Spells true rest us) :
    Spells operand ('(' :: (cs ++ ')' :: rest)) (.openParen :: (ts ++ .closeParen :: us)) :=
  openParen (h.append (by decide) fun _ => closeParen hrest)

theorem operator (op : Operator) (hsuits : (Token.operator op).Suits operand)
    (h : Spells false ('(' :: cs) ts) :
    Spells operand (op.symbol.toList ++ '(' :: cs) (.operator op :: ts) := by
  have hop : Means operand op.symbol.toList [] (.operator op) := by
    refine .of_ofSymbol? ?_ (by simp)
    rw [String.ofList_toList]
    exact Token.ofSymbol?_eq_some_iff.mpr ⟨rfl, hsuits⟩
  exact lexeme (hop.append (by decide) cs) h

theorem call {name : String} (hname : IsName name.toList) (h : Spells true ('(' :: cs) ts) :
    Spells operand (name.toList ++ '(' :: cs) (.identifier (Text.lowercase name) :: ts) := by
  have hmeans := Means.name_alone operand hname
  exact lexeme (hmeans.append (by decide) cs) h

theorem arguments {parts : List (List Char × List Token)} (hparts : ∀ p ∈ parts, Spells false p.1 p.2)
    (hrest : Spells true rest us) :
    Spells false ([','].intercalate (parts.map Prod.fst) ++ ')' :: rest)
      ([Token.comma].intercalate (parts.map Prod.snd) ++ .closeParen :: us) := by
  induction parts with
  | nil => exact closeParen hrest
  | cons p parts ih =>
    obtain ⟨hp, hparts⟩ := List.forall_mem_cons.mp hparts
    cases parts with
    | nil =>
      simp only [List.map_cons, List.map_nil, List.intercalate_singleton]
      exact hp.append (by decide) fun _ => closeParen hrest
    | cons q parts =>
      have htail := hp.append (by decide) fun _ => comma (ih hparts)
      simpa only [List.map_cons, List.intercalate_cons_cons, List.append_assoc, List.cons_append,
        List.nil_append] using htail

end Spells

namespace Formula

def Compiles (text : String) (p : List Token) : Prop :=
  ∃ f, Formula.parse text = .ok f ∧ f.instructions = p

/-- A text compiles to the listing of an expression that its tokens spell. -/
theorem compiles_iff {text : String} {p : List Token} :
    Compiles text p ↔ ∃ ts e, Spells false text.toList ts ∧ Derives 12 ts e ∧ p = e.instructions := by
  have hscan := Scanner.scan_eq_iff Scanner.ready_start text.toList
  constructor
  · rintro ⟨f, hf, rfl⟩
    obtain ⟨e, he, hinstructions⟩ := derives_of_parse hf
    obtain ⟨-, -, -, hfailure, -⟩ := exists_finish_of_parse hf
    have hnone : Scan.ofString text = ⟨(Scan.ofString text).tokens, none⟩ := by
      rw [← hfailure]
    obtain ⟨ls, hls, hmap⟩ := (hscan _).mp hnone
    rw [← hmap, List.map_map] at he
    exact ⟨_, e, ⟨0, ls, hls, rfl⟩, he, hinstructions⟩
  · rintro ⟨ts, e, hts, he, rfl⟩
    obtain ⟨ls, hls, rfl⟩ := hts.lexes 0
    have hscan := (hscan (ls.map Lexeme.located)).mpr ⟨ls, hls, rfl⟩
    have hderives : Derives 12 ((ls.map Lexeme.located).map Located.token) e := by
      rwa [List.map_map]
    obtain ⟨a, f, ha, hf, hinstructions⟩ := Assembler.pushAll_finish_of_derives hderives
    refine ⟨{ f with source := text }, ?_, hinstructions⟩
    rw [parse, Scan.ofString, hscan]
    simp only [ha, hf]
    rfl

namespace Compiles

variable {a b c name : String} {p q r : List Token}

theorem group (ha : Compiles a p) : Compiles ("(" ++ a ++ ")") p := by
  obtain ⟨ts, e, hts, he, rfl⟩ := compiles_iff.mp ha
  refine compiles_iff.mpr ⟨_, e, ?_, .mono (.group he) (by decide) (by decide), rfl⟩
  simpa using hts.group .nil

theorem unary (u : UnaryOp) (ha : Compiles a p) :
    Compiles (u.symbol ++ "(" ++ a ++ ")") (p ++ [.operator (.unary u)]) := by
  obtain ⟨ts, e, hts, he, rfl⟩ := compiles_iff.mp ha
  have hoperand := Derives.unary u (.mono (.group he) (by decide) (by decide))
  have hsuits : (Token.operator (.unary u)).Suits false := by cases u <;> trivial
  refine compiles_iff.mpr ⟨_, .unary u e, ?_, hoperand.mono (by decide) (by decide), rfl⟩
  simpa [Operator.symbol] using (hts.group .nil).operator _ hsuits

theorem binary (op : BinaryOp) (ha : Compiles a p) (hb : Compiles b q) :
    Compiles ("(" ++ a ++ ")" ++ op.symbol ++ "(" ++ b ++ ")")
      (p ++ q ++ [.operator (.binary op)]) := by
  obtain ⟨ts, e, hts, he, rfl⟩ := compiles_iff.mp ha
  obtain ⟨us, f, hus, hf, rfl⟩ := compiles_iff.mp hb
  have hlow := op.two_le_rank
  have hhigh := op.rank_le
  have hleft : Derives op.rank _ e := .mono (.group he) (by omega) (by omega)
  have hright : Derives (op.rank - 1) _ f := .mono (.group hf) (by omega) (by omega)
  have hsuits : (Token.operator (.binary op)).Suits true := by cases op <;> trivial
  refine compiles_iff.mpr ⟨_, .binary op e f, ?_,
    (Derives.binary op hleft hright).mono (by omega) (by decide), by simp [Expr.instructions]⟩
  simpa [Operator.symbol] using hts.group ((hus.group .nil).operator _ hsuits)

theorem choice (ha : Compiles a p) (hb : Compiles b q) (hc : Compiles c r) :
    Compiles ("(" ++ a ++ ")?(" ++ b ++ "):(" ++ c ++ ")")
      (p ++ q ++ [.operator .choose] ++ r ++ [.operator .otherwise]) := by
  obtain ⟨ts, e, hts, he, rfl⟩ := compiles_iff.mp ha
  obtain ⟨us, f, hus, hf, rfl⟩ := compiles_iff.mp hb
  obtain ⟨vs, g, hvs, hg, rfl⟩ := compiles_iff.mp hc
  have hcondition : Derives 11 _ e := .mono (.group he) (by decide) (by decide)
  have hmiddle : Derives 12 _ f := .mono (.group hf) (by decide) (by decide)
  have hlast : Derives 12 _ g := .mono (.group hg) (by decide) (by decide)
  refine compiles_iff.mpr ⟨_, .choice e f g, ?_, .choice hcondition hmiddle hlast,
    by simp [Expr.instructions]⟩
  have hend : Spells true _ _ := .operator .otherwise trivial (hvs.group .nil)
  have hmore : Spells true _ _ := .operator .choose trivial (hus.group hend)
  simpa [Operator.symbol] using hts.group hmore

/-- The parts of a call, each with its tokens and its expression. -/
theorem exists_parts {arguments : List (String × List Token)}
    (h : ∀ x ∈ arguments, Compiles x.1 x.2) :
    ∃ parts : List (String × List Token × Expr),
      parts.map Prod.fst = arguments.map Prod.fst ∧
      (∀ x ∈ parts, Spells false x.1.toList x.2.1 ∧ Derives 12 x.2.1 x.2.2) ∧
      (arguments.map Prod.snd).flatten = Expr.instructionsOf (parts.map fun x => x.2.2) := by
  induction arguments with
  | nil => exact ⟨[], rfl, by simp, rfl⟩
  | cons x arguments ih =>
    obtain ⟨hx, harguments⟩ := List.forall_mem_cons.mp h
    obtain ⟨ts, e, hts, he, hinstructions⟩ := compiles_iff.mp hx
    obtain ⟨parts, htexts, hparts, hlisting⟩ := ih harguments
    refine ⟨(x.1, ts, e) :: parts, congrArg (x.1 :: ·) htexts,
      List.forall_mem_cons.mpr ⟨⟨hts, he⟩, hparts⟩, ?_⟩
    rw [List.map_cons, List.flatten_cons, hlisting, hinstructions]
    rfl

theorem call {arguments : List (String × List Token)} (hname : IsName name.toList)
    (harguments : ∀ x ∈ arguments, Compiles x.1 x.2) :
    Compiles (name ++ "(" ++ ",".intercalate (arguments.map Prod.fst) ++ ")")
      (.openParen :: (arguments.map Prod.snd).flatten ++ [.call (Text.lowercase name)]) := by
  obtain ⟨parts, htexts, hparts, hlisting⟩ := exists_parts harguments
  have hderived : ∀ x ∈ parts.map Prod.snd, Derives 12 x.1 x.2 := by
    intro x hx
    obtain ⟨part, hpart, rfl⟩ := List.mem_map.mp hx
    exact (hparts part hpart).2
  have hderives := Derives.call (Text.lowercase name) (parts.map Prod.snd) hderived
  refine compiles_iff.mpr ⟨_, _, ?_, hderives.mono (by decide) (by decide), ?_⟩
  · have hspelled : ∀ y ∈ parts.map (fun x => (x.1.toList, x.2.1)), Spells false y.1 y.2 := by
      intro y hy
      obtain ⟨part, hpart, rfl⟩ := List.mem_map.mp hy
      exact (hparts part hpart).1
    have hcall : Spells false _ _ := .call hname (Spells.arguments hspelled .nil).openParen
    simpa [String.toList_intercalate, ← htexts, Function.comp_def] using hcall
  · rw [hlisting, Expr.instructions, List.map_map]
    rfl

end Compiles

/-- Parentheses around accepted texts, and operators, a conditional or a call between them, make texts that
are accepted, in whose instructions those of the parts stand unchanged. -/
theorem compiles_composite {a b c name : String} {p q r : List Token}
    {arguments : List (String × List Token)} (u : UnaryOp) (op : BinaryOp) (ha : Compiles a p)
    (hb : Compiles b q) (hc : Compiles c r) (harguments : ∀ x ∈ arguments, Compiles x.1 x.2)
    (hname : IsName name.toList) :
    Compiles ("(" ++ a ++ ")") p ∧
    Compiles (u.symbol ++ "(" ++ a ++ ")") (p ++ [.operator (.unary u)]) ∧
    Compiles ("(" ++ a ++ ")" ++ op.symbol ++ "(" ++ b ++ ")") (p ++ q ++ [.operator (.binary op)]) ∧
    Compiles ("(" ++ a ++ ")?(" ++ b ++ "):(" ++ c ++ ")")
      (p ++ q ++ [.operator .choose] ++ r ++ [.operator .otherwise]) ∧
    Compiles (name ++ "(" ++ ",".intercalate (arguments.map Prod.fst) ++ ")")
      (.openParen :: (arguments.map Prod.snd).flatten ++ [.call (Text.lowercase name)]) :=
  ⟨ha.group, ha.unary u, ha.binary op hb, ha.choice hb hc, .call hname harguments⟩

/-- Signs at the seams, a conditional in an argument, and a name with a capital. -/
theorem compiles_composite_signs :
    Compiles "-(-x)" [.identifier "x", .operator (.unary .minus), .operator (.unary .minus)] ∧
    Compiles "Max(-x,y?1:2)" [.openParen, .identifier "x", .operator (.unary .minus), .identifier "y",
      .number 1, .operator .choose, .number 2, .operator .otherwise, .call "max"] := by
  let p : List Token := [.identifier "x", .operator (.unary .minus)]
  let q : List Token :=
    [.identifier "y", .number 1, .operator .choose, .number 2, .operator .otherwise]
  have ha : Compiles "-x" p := ⟨_, rfl, rfl⟩
  have hb : Compiles "y?1:2" q := ⟨_, rfl, rfl⟩
  have harguments : ∀ x ∈ [("-x", p), ("y?1:2", q)], Compiles x.1 x.2 := by
    simp only [List.forall_mem_cons]
    exact ⟨ha, hb, by simp⟩
  have hname : IsName "Max".toList := by decide
  have h := compiles_composite .minus .add ha hb ha harguments hname
  exact ⟨h.2.1, h.2.2.2.2⟩

end Formula
end Gauge
