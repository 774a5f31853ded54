import Gauge.Proofs.Token.Lexeme

/-! # Lexing

A text is divided into lexemes and the blanks between them. The division is unique, since the kind of its
first character tells what a lexeme is, and no character gets lost in it.
-/
namespace Gauge

def Text.byteSize : List Char → Nat
  | [] => 0
  | c :: cs => c.utf8Size + byteSize cs

@[simp] theorem Text.byteSize_nil : Text.byteSize [] = 0 := rfl

@[simp] theorem Text.byteSize_cons (c : Char) (cs : List Char) :
    Text.byteSize (c :: cs) = c.utf8Size + Text.byteSize cs := rfl

@[simp] theorem Text.byteSize_append (cs ds : List Char) :
    Text.byteSize (cs ++ ds) = Text.byteSize cs + Text.byteSize ds := by
  induction cs with
  | nil => rw [List.nil_append, byteSize_nil, Nat.zero_add]
  | cons c cs ih => rw [List.cons_append, byteSize_cons, byteSize_cons, ih, Nat.add_assoc]

theorem Text.utf8ByteSize_ofList (cs : List Char) : (String.ofList cs).utf8ByteSize = byteSize cs := by
  induction cs with
  | nil => rfl
  | cons c cs ih =>
    have hcons : String.ofList (c :: cs) = String.singleton c ++ String.ofList cs := by
      rw [String.singleton_eq_ofList, ← String.ofList_append, List.singleton_append]
    rw [hcons, String.utf8ByteSize_append, String.utf8ByteSize_singleton, ih, byteSize_cons]

/-- An operand ends with a number, a name or a closing parenthesis. A sign after it is binary. -/
inductive Token.EndsOperand : Token → Prop
  | number (v : Float) : EndsOperand (.number v)
  | identifier (name : String) : EndsOperand (.identifier name)
  | closeParen : EndsOperand .closeParen

theorem Token.endsOperand_iff {t : Token} : t.endsOperand = true ↔ t.EndsOperand := by
  constructor
  · intro h
    cases t with
    | number v => exact .number v
    | identifier name => exact .identifier name
    | closeParen => exact .closeParen
    | call _ | operator _ | openParen | comma => cases h
  · intro h
    cases h <;> rfl

theorem Token.eq_endsOperand {t : Token} {operand : Bool} (h : operand = true ↔ t.EndsOperand) :
    operand = t.endsOperand := Bool.eq_iff_iff.mpr (h.trans endsOperand_iff.symm)

/-- A piece of text, the token that it is, and the byte at which it starts. -/
structure Lexeme where
  text : List Char
  token : Token
  offset : Nat

def Lexeme.located (l : Lexeme) : Located := ⟨l.token, l.offset⟩

/-- `text`, which `rest` follows, is a lexeme and means the token. `operand` tells whether an operand ends
before it. -/
inductive Means (operand : Bool) : List Char → List Char → Token → Prop
  | number {text rest : List Char} {v : Float} :
      LongestFront IsDigitRun text rest → IsNumeral text → Decimal.numeral? text = some v →
      Means operand text rest (.number v)
  | name {text rest : List Char} :
      LongestFront IsName text rest →
      Means operand text rest (.identifier (Text.lowercase (String.ofList text)))
  | symbol {text rest : List Char} {t : Token} :
      LongestFront IsSymbol text rest → t.symbol? = some (String.ofList text) → t.Suits operand →
      Means operand text rest t

/-- `Lexes operand offset cs ls`: from byte `offset` on the text `cs` consists of the lexemes `ls` and of
blanks around them. -/
inductive Lexes : Bool → Nat → List Char → List Lexeme → Prop
  | done {operand : Bool} {offset : Nat} : Lexes operand offset [] []
  | blank {operand : Bool} {offset : Nat} {c : Char} {cs : List Char} {ls : List Lexeme} :
      Text.isBlank c = true → Lexes operand (offset + c.utf8Size) cs ls →
      Lexes operand offset (c :: cs) ls
  | lexeme {operand operand' : Bool} {offset : Nat} {text rest : List Char} {t : Token} {ls : List Lexeme} :
      Means operand text rest t → (operand' = true ↔ t.EndsOperand) →
      Lexes operand' (offset + Text.byteSize text) rest ls →
      Lexes operand offset (text ++ rest) (⟨text, t, offset⟩ :: ls)

/-! ### Lexemes are unique -/

def firstKind? (cs : List Char) : Option CharKind := cs.head?.map CharKind.of

theorem firstKind?_of_isDigitRun {text : List Char} (h : IsDigitRun text) (rest : List Char) :
    firstKind? (text ++ rest) = some .digit ∨ firstKind? (text ++ rest) = some .dot := by
  match text, h with
  | c :: cs, h =>
    have hc := CharKind.isNumeralChar_iff_of.mp (h.2 c List.mem_cons_self)
    exact hc.imp (congrArg some) (congrArg some)

theorem firstKind?_of_isName {text : List Char} (h : IsName text) (rest : List Char) :
    firstKind? (text ++ rest) = some .letter := by
  match text, h with
  | c :: cs, h => exact congrArg some (CharKind.of_isNameStart h.1)

theorem firstKind?_of_isSymbol {text : List Char} (h : IsSymbol text) (rest : List Char) :
    firstKind? (text ++ rest) = some .symbol := by
  obtain ⟨hne, -, hchars⟩ := isSymbol_facts h
  match text, hne with
  | c :: cs, _ => exact congrArg some (CharKind.of_mem_symbolChars c (hchars c List.mem_cons_self))

namespace Means

variable {operand : Bool} {text rest text' rest' : List Char} {t t' : Token}

/-- A symbol is a lexeme where the next character makes no longer symbol of it. -/
theorem of_ofSymbol? (ht : Token.ofSymbol? (String.ofList text) (!operand) = some t)
    (hstop : ∀ c ∈ rest.head?, ¬ IsSymbol (text ++ [c])) : Means operand text rest t := by
  have hsymbol : IsSymbol text := isSome_ofSymbol?_iff.mp (Option.isSome_of_eq_some ht)
  obtain ⟨hwritten, hsuits⟩ := Token.ofSymbol?_eq_some_iff.mp ht
  exact .symbol (gradual_isSymbol.longestFront_iff.mpr ⟨hsymbol, hstop⟩) hwritten hsuits

theorem firstKind? (h : Means operand text rest t) :
    ∃ k, Gauge.firstKind? (text ++ rest) = some k ∧ k ≠ .blank ∧ k ≠ .other := by
  cases h with
  | number hfront _ _ =>
    rcases firstKind?_of_isDigitRun hfront.1 rest with hk | hk
    · exact ⟨_, hk, by decide, by decide⟩
    · exact ⟨_, hk, by decide, by decide⟩
  | name hfront => exact ⟨_, firstKind?_of_isName hfront.1 rest, by decide, by decide⟩
  | symbol hfront _ _ => exact ⟨_, firstKind?_of_isSymbol hfront.1 rest, by decide, by decide⟩

theorem isSymbol_of_firstKind? (h : Means operand text rest t)
    (hkind : Gauge.firstKind? (text ++ rest) = some .symbol) : IsSymbol text := by
  cases h with
  | number hfront _ _ =>
    have hk := firstKind?_of_isDigitRun hfront.1 rest
    simp [hkind] at hk
  | name hfront =>
    rw [firstKind?_of_isName hfront.1] at hkind
    contradiction
  | symbol hfront _ _ => exact hfront.1

/-- A lexeme that starts where a run of digits and points does is this run, and a numeral. -/
theorem isNumeral_of_isDigitRun (h : Means operand text rest t)
    (hfront : LongestFront IsDigitRun text' rest') (heq : text' ++ rest' = text ++ rest) :
    IsNumeral text' := by
  have hk := firstKind?_of_isDigitRun hfront.1 rest'
  rw [heq] at hk
  cases h with
  | number hfront' hnumeral _ => exact (hfront.unique hfront' heq).1 ▸ hnumeral
  | name hname => simp [firstKind?_of_isName hname.1] at hk
  | symbol hsymbol _ _ => simp [firstKind?_of_isSymbol hsymbol.1] at hk

theorem text_ne_nil (h : Means operand text rest t) : text ≠ [] := by
  cases h with
  | number hfront _ _ => exact hfront.1.1
  | name hfront => rintro rfl; exact hfront.1
  | symbol hfront _ _ => exact (isSymbol_facts hfront.1).1

theorem unique (h : Means operand text rest t) (h' : Means operand text' rest' t')
    (heq : text ++ rest = text' ++ rest') : text = text' ∧ rest = rest' ∧ t = t' := by
  -- The first characters agree, so both lexemes are of one sort, and each is the longest of its sort.
  have hkind := congrArg Gauge.firstKind? heq
  cases h with
  | number hfront _ hv =>
    have hk := firstKind?_of_isDigitRun hfront.1 rest
    cases h' with
    | number hfront' _ hv' =>
      obtain ⟨rfl, rfl⟩ := hfront.unique hfront' heq
      exact ⟨rfl, rfl, congrArg Token.number (Option.some.inj (hv.symm.trans hv'))⟩
    | name hfront' => simp [hkind, firstKind?_of_isName hfront'.1] at hk
    | symbol hfront' _ _ => simp [hkind, firstKind?_of_isSymbol hfront'.1] at hk
  | name hfront =>
    rw [firstKind?_of_isName hfront.1] at hkind
    cases h' with
    | number hfront' _ _ =>
      have hk := firstKind?_of_isDigitRun hfront'.1 rest'
      simp [← hkind] at hk
    | name hfront' =>
      obtain ⟨rfl, rfl⟩ := hfront.unique hfront' heq
      exact ⟨rfl, rfl, rfl⟩
    | symbol hfront' _ _ => simp [firstKind?_of_isSymbol hfront'.1] at hkind
  | symbol hfront hsymbol hsuits =>
    rw [firstKind?_of_isSymbol hfront.1] at hkind
    cases h' with
    | number hfront' _ _ =>
      have hk := firstKind?_of_isDigitRun hfront'.1 rest'
      simp [← hkind] at hk
    | name hfront' => simp [firstKind?_of_isName hfront'.1] at hkind
    | symbol hfront' hsymbol' hsuits' =>
      obtain ⟨rfl, rfl⟩ := hfront.unique hfront' heq
      have ht := Token.ofSymbol?_eq_some_iff.mpr ⟨hsymbol, hsuits⟩
      have ht' := Token.ofSymbol?_eq_some_iff.mpr ⟨hsymbol', hsuits'⟩
      exact ⟨rfl, rfl, Option.some.inj (ht.symm.trans ht')⟩

end Means

namespace Lexes

variable {operand : Bool} {offset : Nat} {ls : List Lexeme}

theorem nil_iff : Lexes operand offset [] ls ↔ ls = [] := by
  constructor
  · intro h
    generalize hcs : ([] : List Char) = cs at h
    cases h with
    | done => rfl
    | blank _ _ => cases hcs
    | lexeme hmeans _ _ => exact absurd (List.append_eq_nil_iff.mp hcs.symm).1 hmeans.text_ne_nil
  · rintro rfl
    exact .done

theorem blank_iff {c : Char} (hc : Text.isBlank c = true) {cs : List Char} :
    Lexes operand offset (c :: cs) ls ↔ Lexes operand (offset + c.utf8Size) cs ls := by
  constructor
  · intro h
    generalize hds : c :: cs = ds at h
    cases h with
    | done => cases hds
    | blank _ hrest => cases hds; exact hrest
    | lexeme hmeans _ _ =>
      obtain ⟨k, hk, hblank, -⟩ := hmeans.firstKind?
      rw [← hds] at hk
      have hkind : CharKind.of c = k := Option.some.inj hk
      exact absurd (hkind.symm.trans (CharKind.of_isBlank hc)) hblank
  · exact .blank hc

theorem exists_lexeme {c : Char} (hc : CharKind.of c ≠ .blank) {cs : List Char}
    (h : Lexes operand offset (c :: cs) ls) :
    ∃ text rest t ms, c :: cs = text ++ rest ∧ Means operand text rest t ∧
      ls = ⟨text, t, offset⟩ :: ms ∧
      Lexes t.endsOperand (offset + Text.byteSize text) rest ms := by
  generalize hds : c :: cs = ds at h
  cases h with
  | done => cases hds
  | blank hblank _ => cases hds; exact absurd (CharKind.of_isBlank hblank) hc
  | lexeme hmeans hends hrest => exact ⟨_, _, _, _, rfl, hmeans, rfl, Token.eq_endsOperand hends ▸ hrest⟩

/-- A run of digits and points at the front of a text that is lexed is a numeral. -/
theorem isNumeral {text rest : List Char} (hfront : LongestFront IsDigitRun text rest)
    (h : Lexes operand offset (text ++ rest) ls) : IsNumeral text := by
  match text, hfront.1.1 with
  | c :: text, _ =>
    have hk := CharKind.isNumeralChar_iff_of.mp (hfront.1.2 c List.mem_cons_self)
    have hc : CharKind.of c ≠ .blank := by rcases hk with hk | hk <;> rw [hk] <;> decide
    obtain ⟨text', rest', t, ms, heq, hmeans, -⟩ := exists_lexeme hc h
    exact hmeans.isNumeral_of_isDigitRun hfront heq

theorem lexeme_iff {text rest : List Char} {t : Token} (hmeans : Means operand text rest t) :
    Lexes operand offset (text ++ rest) ls ↔
      ∃ ms, ls = ⟨text, t, offset⟩ :: ms ∧
        Lexes t.endsOperand (offset + Text.byteSize text) rest ms := by
  constructor
  · intro h
    obtain ⟨k, hk, hblank, -⟩ := hmeans.firstKind?
    match text, hmeans.text_ne_nil with
    | c :: text, _ =>
      have hc : CharKind.of c ≠ .blank := Option.some.inj hk ▸ hblank
      obtain ⟨text', rest', t', ms, heq, hmeans', hls, hms⟩ := exists_lexeme hc h
      obtain ⟨rfl, rfl, rfl⟩ := hmeans.unique hmeans' heq
      exact ⟨ms, hls, hms⟩
  · rintro ⟨ms, rfl, hms⟩
    exact .lexeme hmeans Token.endsOperand_iff hms

theorem kind_ne_other {cs : List Char} (h : Lexes operand offset cs ls) :
    ∀ c ∈ cs, CharKind.of c ≠ .other := by
  induction h with
  | done => simp
  | blank hblank _ ih =>
    refine List.forall_mem_cons.mpr ⟨?_, ih⟩
    rw [CharKind.of_isBlank hblank]
    decide
  | lexeme hmeans _ _ ih =>
    refine List.forall_mem_append.mpr ⟨?_, ih⟩
    intro c hc
    cases hmeans with
    | number hfront _ _ =>
      have hk := CharKind.isNumeralChar_iff_of.mp (hfront.1.2 c hc)
      rcases hk with hk | hk <;> rw [hk] <;> decide
    | name hfront =>
      have hk := CharKind.isNameChar_iff_of.mp (isNameChar_of_isName hfront.1 c hc)
      rcases hk with hk | hk | hk <;> rw [hk] <;> decide
    | symbol hfront _ _ =>
      rw [CharKind.of_mem_symbolChars c ((isSymbol_facts hfront.1).2.2 c hc)]
      decide

/-! ### Lexemes in their text -/

theorem le_offset {cs : List Char} (h : Lexes operand offset cs ls) : ∀ l ∈ ls, offset ≤ l.offset := by
  induction h with
  | done => simp
  | blank _ _ ih => exact fun l hl => Nat.le_trans (Nat.le_add_right ..) (ih l hl)
  | lexeme _ _ _ ih =>
    refine List.forall_mem_cons.mpr ⟨Nat.le_refl _, fun l hl => ?_⟩
    exact Nat.le_trans (Nat.le_add_right ..) (ih l hl)

theorem pairwise_offset {cs : List Char} (h : Lexes operand offset cs ls) :
    ls.Pairwise fun l m => l.offset < m.offset := by
  induction h with
  | done => exact .nil
  | blank _ _ ih => exact ih
  | @lexeme _ _ offset text _ _ _ hmeans _ hrest ih =>
    refine .cons (fun m hm => ?_) ih
    have hpos : 0 < Text.byteSize text := by
      match text, hmeans.text_ne_nil with
      | c :: text, _ => exact Nat.add_pos_left c.utf8Size_pos _
    have hle := hrest.le_offset m hm
    exact Nat.lt_of_lt_of_le (Nat.lt_add_of_pos_right hpos) hle

theorem exists_before {cs : List Char} (h : Lexes operand offset cs ls) :
    ∀ l ∈ ls, ∃ before after, cs = before ++ l.text ++ after ∧
      offset + Text.byteSize before = l.offset := by
  induction h with
  | done => simp
  | @blank _ _ c _ _ _ _ ih =>
    intro l hl
    obtain ⟨before, after, rfl, hoffset⟩ := ih l hl
    exact ⟨c :: before, after, rfl, by rw [Text.byteSize_cons, ← hoffset, Nat.add_assoc]⟩
  | @lexeme _ _ _ text rest _ _ _ _ _ ih =>
    refine List.forall_mem_cons.mpr ⟨⟨[], rest, rfl, rfl⟩, fun l hl => ?_⟩
    obtain ⟨before, after, rfl, hoffset⟩ := ih l hl
    exact ⟨text ++ before, after, by simp, by rw [Text.byteSize_append, ← hoffset, Nat.add_assoc]⟩

/-- The text is its lexemes in order with gaps of blanks before, between and after them. -/
theorem exists_gaps {cs : List Char} (h : Lexes operand offset cs ls) :
    ∃ gaps tail, gaps.length = ls.length ∧ (∀ gap ∈ gaps, ∀ c ∈ gap, Text.isBlank c = true) ∧
      (∀ c ∈ tail, Text.isBlank c = true) ∧
      cs = (List.zipWith (fun gap l => gap ++ l.text) gaps ls).flatten ++ tail := by
  induction h with
  | done => exact ⟨[], [], rfl, by simp, by simp, rfl⟩
  | @blank _ _ c _ ls hc _ ih =>
    obtain ⟨gaps, tail, hlen, hgaps, htail, rfl⟩ := ih
    -- The blank belongs to the first gap, or to the tail if there is no lexeme any more.
    cases gaps with
    | nil => exact ⟨[], c :: tail, hlen, by simp, List.forall_mem_cons.mpr ⟨hc, htail⟩, by simp⟩
    | cons gap gaps =>
      cases ls with
      | nil => cases hlen
      | cons l ls =>
        obtain ⟨hgap, hgaps⟩ := List.forall_mem_cons.mp hgaps
        refine ⟨(c :: gap) :: gaps, tail, hlen, ?_, htail, rfl⟩
        exact List.forall_mem_cons.mpr ⟨List.forall_mem_cons.mpr ⟨hc, hgap⟩, hgaps⟩
  | lexeme _ _ _ ih =>
    obtain ⟨gaps, tail, hlen, hgaps, htail, rfl⟩ := ih
    refine ⟨[] :: gaps, tail, congrArg (· + 1) hlen, ?_, htail, by simp⟩
    exact List.forall_mem_cons.mpr ⟨by simp, hgaps⟩

end Lexes
end Gauge
