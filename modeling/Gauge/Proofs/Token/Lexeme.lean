import Mathlib.Data.List.TakeWhile
import Gauge.Token.Scan

/-! # Lexemes

The units of a formula's text, said without a scanner. A lexeme is a run of digits and points, a name or
a symbol of the table, each as long as the text allows.
-/
namespace Gauge

/-- `front` has the property `P`, and no longer front of `front ++ rest` has it. -/
def LongestFront (P : List Char → Prop) (front rest : List Char) : Prop :=
  P front ∧ ∀ longer, longer <+: front ++ rest → P longer → longer.length ≤ front.length

theorem LongestFront.unique {P : List Char → Prop} {front front' rest rest' : List Char}
    (h : LongestFront P front rest) (h' : LongestFront P front' rest')
    (heq : front ++ rest = front' ++ rest') : front = front' ∧ rest = rest' := by
  have hle : front'.length ≤ front.length := h.2 front' (heq ▸ List.prefix_append front' rest') h'.1
  have hge : front.length ≤ front'.length := h'.2 front (heq ▸ List.prefix_append front rest) h.1
  exact List.append_inj heq (Nat.le_antisymm hge hle)

/-- What a longer text with the property needs, the next character already gives. -/
def Gradual (P : List Char → Prop) : Prop :=
  ∀ front c rest, P front → P (front ++ c :: rest) → P (front ++ [c])

theorem Gradual.longestFront_iff {P : List Char → Prop} (hP : Gradual P) {front rest : List Char} :
    LongestFront P front rest ↔ P front ∧ ∀ c ∈ rest.head?, ¬ P (front ++ [c]) := by
  constructor
  · rintro ⟨hfront, hlongest⟩
    refine ⟨hfront, fun c hc hnext => ?_⟩
    obtain ⟨tail, rfl⟩ := List.head?_eq_some_iff.mp hc
    have hle := hlongest (front ++ [c]) ⟨tail, by simp⟩ hnext
    rw [List.length_append] at hle
    exact absurd hle (by simp)
  · rintro ⟨hfront, hstop⟩
    refine ⟨hfront, fun longer hextends hlonger => ?_⟩
    by_contra hlt
    obtain ⟨more, rfl⟩ : front <+: longer :=
      List.prefix_of_prefix_length_le (List.prefix_append front rest) hextends (by omega)
    cases more with
    | nil => simp at hlt
    | cons c more =>
      -- A longer front begins with the next character, and already this one has `P`.
      have hc : c :: more <+: rest := (List.prefix_append_right_inj front).mp hextends
      obtain ⟨tail, rfl⟩ := hc
      exact hstop c rfl (hP front c more hfront hlonger)

/-! ### Digits and points -/

def isNumeralChar (c : Char) : Bool := c.isDigit || c == '.'

theorem isNumeralChar_iff {c : Char} : isNumeralChar c = true ↔ c.isDigit = true ∨ c = '.' := by
  simp [isNumeralChar]

def IsDigitRun (cs : List Char) : Prop := cs ≠ [] ∧ ∀ c ∈ cs, isNumeralChar c = true

def IsNumeral (cs : List Char) : Prop := (∃ c ∈ cs, c.isDigit = true) ∧ cs.count '.' ≤ 1

theorem isDigitRun_concat_iff {cs : List Char} (h : IsDigitRun cs) {c : Char} :
    IsDigitRun (cs ++ [c]) ↔ isNumeralChar c = true := by
  simp only [IsDigitRun, List.forall_mem_append, List.forall_mem_singleton]
  exact ⟨fun hc => hc.2.2, fun hc => ⟨by simp, h.2, hc⟩⟩

theorem gradual_isDigitRun : Gradual IsDigitRun := by
  intro front c rest hfront hlonger
  rw [isDigitRun_concat_iff hfront]
  exact hlonger.2 c (by simp)

theorem count_point_eq_zero_iff {cs : List Char} (h : ∀ c ∈ cs, isNumeralChar c = true) :
    cs.count '.' = 0 ↔ ∀ c ∈ cs, c.isDigit = true := by
  rw [List.count_eq_zero]
  constructor
  · intro hpoint c hc
    rcases isNumeralChar_iff.mp (h c hc) with hdigit | rfl
    · exact hdigit
    · exact absurd hc hpoint
  · intro hdigits hpoint
    have hdigit := hdigits '.' hpoint
    contradiction

theorem split_cons_digit {c : Char} (hc : c.isDigit = true) (cs : List Char) :
    Decimal.split (c :: cs) =
      ⟨c :: (Decimal.split cs).whole, (Decimal.split cs).fraction, (Decimal.split cs).rest⟩ := by
  simp only [Decimal.split, List.takeWhile_cons_of_pos hc, List.dropWhile_cons_of_pos hc]
  split <;> rfl

theorem split_cons_point (cs : List Char) :
    Decimal.split ('.' :: cs) = ⟨[], cs.takeWhile Char.isDigit, cs.dropWhile Char.isDigit⟩ := rfl

theorem isEmpty_rest_split_iff {cs : List Char} (h : ∀ c ∈ cs, isNumeralChar c = true) :
    (Decimal.split cs).rest.isEmpty = true ↔ cs.count '.' ≤ 1 := by
  induction cs with
  | nil => simp [Decimal.split]
  | cons c cs ih =>
    have htail : ∀ d ∈ cs, isNumeralChar d = true := fun d hd => h d (List.mem_cons_of_mem c hd)
    rcases isNumeralChar_iff.mp (h c List.mem_cons_self) with hdigit | rfl
    · have hne : c ≠ '.' := by rintro rfl; contradiction
      rw [split_cons_digit hdigit, List.count_cons_of_ne hne, ih htail]
    · rw [split_cons_point, List.count_cons_self, List.isEmpty_iff, List.dropWhile_eq_nil_iff,
        ← count_point_eq_zero_iff htail]
      omega

theorem hasDigit_split_iff {cs : List Char} (h : ∀ c ∈ cs, isNumeralChar c = true)
    (hpoints : cs.count '.' ≤ 1) :
    (Decimal.split cs).hasDigit = true ↔ ∃ c ∈ cs, c.isDigit = true := by
  cases cs with
  | nil => simp [Decimal.split, Decimal.Split.hasDigit]
  | cons c cs =>
    rcases isNumeralChar_iff.mp (h c List.mem_cons_self) with hdigit | rfl
    · simp [split_cons_digit hdigit, Decimal.Split.hasDigit, hdigit]
    · have htail : ∀ d ∈ cs, isNumeralChar d = true := fun d hd => h d (List.mem_cons_of_mem _ hd)
      rw [List.count_cons_self] at hpoints
      have hdigits := (count_point_eq_zero_iff htail).mp (by omega)
      rw [split_cons_point, List.takeWhile_eq_self_iff.mpr hdigits]
      cases cs with
      | nil => simp [Decimal.Split.hasDigit]
      | cons d cs => simp [Decimal.Split.hasDigit, hdigits d]

/-- A run of digits and points reads as a number exactly if it is a numeral. -/
theorem isSome_numeral?_iff {cs : List Char} (h : IsDigitRun cs) :
    (Decimal.numeral? cs).isSome = true ↔ IsNumeral cs := by
  have hrest := isEmpty_rest_split_iff h.2
  rw [Decimal.numeral?, Option.isSome_ite, Bool.and_eq_true, hrest]
  constructor
  · rintro ⟨hdigit, hpoints⟩
    exact ⟨(hasDigit_split_iff h.2 hpoints).mp hdigit, hpoints⟩
  · rintro ⟨hdigit, hpoints⟩
    exact ⟨(hasDigit_split_iff h.2 hpoints).mpr hdigit, hpoints⟩

/-! ### Names -/

def isNameStart (c : Char) : Bool := Text.isAlphabetic c || c == '_'

def isNameChar (c : Char) : Bool := isNameStart c || isNumeralChar c

def IsName : List Char → Prop
  | [] => False
  | c :: cs => isNameStart c = true ∧ ∀ d ∈ cs, isNameChar d = true

instance : (cs : List Char) → Decidable (IsName cs)
  | [] => isFalse id
  | _ :: cs => @instDecidableAnd _ _ _ (List.decidableBAll _ cs)

theorem isName_append_iff {cs ds : List Char} (h : IsName cs) :
    IsName (cs ++ ds) ↔ ∀ d ∈ ds, isNameChar d = true := by
  cases cs with
  | nil => exact h.elim
  | cons c cs =>
    rw [List.cons_append, IsName, List.forall_mem_append]
    exact ⟨fun hds => hds.2.2, fun hds => ⟨h.1, h.2, hds⟩⟩

theorem isNameChar_of_isName {cs : List Char} (h : IsName cs) : ∀ c ∈ cs, isNameChar c = true := by
  match cs, h with
  | c :: cs, h => exact List.forall_mem_cons.mpr ⟨by simp [isNameChar, h.1], h.2⟩

theorem gradual_isName : Gradual IsName := by
  intro front c rest hfront hlonger
  rw [isName_append_iff hfront] at hlonger ⊢
  intro d hd
  exact hlonger d (by simp_all)

/-! ### Symbols -/

def symbolTable : List String := ["(", ")", ","] ++ Operator.all.map Operator.symbol

def IsSymbol (cs : List Char) : Prop := String.ofList cs ∈ symbolTable

theorem isSymbol_iff {cs : List Char} : IsSymbol cs ↔ cs ∈ symbolTable.map String.toList := by
  rw [IsSymbol, List.mem_map]
  constructor
  · intro h
    exact ⟨_, h, String.toList_ofList⟩
  · rintro ⟨s, hs, rfl⟩
    rwa [String.ofList_toList]

theorem map_toList_symbolTable : symbolTable.map String.toList = [['('], [')'], [','], ['+'], ['-'],
    ['!'], ['~'], ['+'], ['-'], ['*'], ['/'], ['%'], ['&', '&'], ['|', '|'], ['&'], ['|'], ['^'],
    ['<', '<'], ['>', '>'], ['>'], ['>', '='], ['<'], ['<', '='], ['=', '='], ['!', '='], ['?'],
    [':']] := by
  decide

theorem isSymbol_facts {cs : List Char} (h : IsSymbol cs) :
    cs ≠ [] ∧ cs.length ≤ 2 ∧ ∀ c ∈ cs, c ∈ symbolChars := by
  have hall : ∀ cs ∈ symbolTable.map String.toList,
      cs ≠ [] ∧ cs.length ≤ 2 ∧ cs.all (· ∈ symbolChars) = true := by
    rw [map_toList_symbolTable]
    decide
  simpa only [List.all_eq_true, decide_eq_true_eq] using hall cs (isSymbol_iff.mp h)

theorem gradual_isSymbol : Gradual IsSymbol := by
  intro front c rest hfront hlonger
  -- A symbol has at most two characters, so nothing comes after the one that was added.
  have hpos := List.length_pos_iff.mpr (isSymbol_facts hfront).1
  have hlen := (isSymbol_facts hlonger).2.1
  simp only [List.length_append, List.length_cons] at hlen
  obtain rfl : rest = [] := List.length_eq_zero_iff.mp (by omega)
  exact hlonger

def Token.symbol? : Token → Option String
  | .openParen => some "("
  | .closeParen => some ")"
  | .comma => some ","
  | .operator op => some op.symbol
  | .number _ | .identifier _ | .call _ => none

/-- A sign is the unary operator exactly where no operand ends before it. -/
def Token.Suits (operand : Bool) : Token → Prop
  | .operator (.unary .plus) | .operator (.unary .minus) => operand = false
  | .operator (.binary .add) | .operator (.binary .subtract) => operand = true
  | _ => True

theorem Operator.ofSymbol?_symbol (op : Operator) {operand : Bool}
    (h : (Token.operator op).Suits operand) : Operator.ofSymbol? op.symbol (!operand) = some op := by
  cases op with
  | unary op => cases op <;> cases operand <;> first | decide | cases h
  | binary op => cases op <;> cases operand <;> first | decide | cases h
  | choose | otherwise => cases operand <;> decide

theorem Operator.symbol_of_ofSymbol? {s : String} {operand : Bool} {op : Operator}
    (h : Operator.ofSymbol? s (!operand) = some op) :
    op.symbol = s ∧ (Token.operator op).Suits operand := by
  unfold Operator.ofSymbol? at h
  split_ifs at h with hplus hminus hnot hcomplement hchoose hotherwise
  · cases h
    simp only [Bool.and_eq_true, decide_eq_true_eq, Bool.not_eq_true'] at hplus
    exact ⟨hplus.1.symm, hplus.2⟩
  · cases h
    simp only [Bool.and_eq_true, decide_eq_true_eq, Bool.not_eq_true'] at hminus
    exact ⟨hminus.1.symm, hminus.2⟩
  · cases h
    exact ⟨hnot.symm, trivial⟩
  · cases h
    exact ⟨hcomplement.symm, trivial⟩
  · cases h
    exact ⟨hchoose.symm, trivial⟩
  · cases h
    exact ⟨hotherwise.symm, trivial⟩
  · obtain ⟨op, hfind, rfl⟩ := Option.map_eq_some_iff.mp h
    obtain rfl : op.symbol = s := by simpa using List.find?_some hfind
    refine ⟨rfl, ?_⟩
    cases op with
    | add => cases operand with | false => exact absurd rfl hplus | true => rfl
    | subtract => cases operand with | false => exact absurd rfl hminus | true => rfl
    | _ => trivial

/-- A symbol is read as the token that is written so, and a sign by what stands before it. -/
theorem Token.ofSymbol?_eq_some_iff {s : String} {operand : Bool} {t : Token} :
    Token.ofSymbol? s (!operand) = some t ↔ t.symbol? = some s ∧ t.Suits operand := by
  constructor
  · intro h
    rw [Token.ofSymbol?, Option.or_eq_some_iff] at h
    rcases h with h | ⟨-, h⟩
    · unfold Token.punctuation? at h
      split_ifs at h with hopen hclose hcomma
      · cases h
        exact ⟨congrArg some hopen.symm, trivial⟩
      · cases h
        exact ⟨congrArg some hclose.symm, trivial⟩
      · cases h
        exact ⟨congrArg some hcomma.symm, trivial⟩
    · obtain ⟨op, hop, rfl⟩ := Option.map_eq_some_iff.mp h
      obtain ⟨hsymbol, hsuits⟩ := Operator.symbol_of_ofSymbol? hop
      exact ⟨congrArg some hsymbol, hsuits⟩
  · rintro ⟨hsymbol, hsuits⟩
    cases t with
    | openParen | closeParen | comma =>
      obtain rfl := Option.some.inj hsymbol
      rfl
    | operator op =>
      obtain rfl := Option.some.inj hsymbol
      rw [Token.ofSymbol?, Operator.ofSymbol?_symbol op hsuits]
      have hnone : Token.punctuation? op.symbol = none := by
        cases op with
        | unary op => cases op <;> rfl
        | binary op => cases op <;> rfl
        | choose | otherwise => rfl
      rw [hnone]
      rfl
    | number | identifier | call => cases hsymbol

theorem isSome_ofSymbol?_iff {cs : List Char} {leading : Bool} :
    (Token.ofSymbol? (String.ofList cs) leading).isSome = true ↔ IsSymbol cs := by
  constructor
  · intro h
    obtain ⟨t, ht⟩ := Option.isSome_iff_exists.mp h
    rw [← Bool.not_not leading, Token.ofSymbol?_eq_some_iff] at ht
    cases t with
    | openParen | closeParen | comma => rw [IsSymbol, ← Option.some.inj ht.1]; decide
    | operator op =>
      rw [IsSymbol, ← Option.some.inj ht.1]
      have hmem : op ∈ Operator.all := by
        cases op with
        | unary op => cases op <;> decide
        | binary op => cases op <;> decide
        | choose | otherwise => decide
      exact List.mem_append_right _ (List.mem_map_of_mem hmem)
    | number | identifier | call => cases ht.1
  · intro h
    have hall : ∀ s ∈ symbolTable, ∀ leading, (Token.ofSymbol? s leading).isSome = true := by decide
    exact hall _ h leading

/-! ### Kinds of characters -/

namespace CharKind

theorem isNameStart_of_isDigit {c : Char} (h : c.isDigit = true) : isNameStart c = false := by
  have hle : c.toNat ≤ 57 := by
    simp only [Char.isDigit, Bool.and_eq_true, decide_eq_true_eq] at h
    exact h.2
  have halpha : Text.isAlphabetic c = false := if_pos (by omega)
  have hne : c ≠ '_' := by rintro rfl; contradiction
  simp [isNameStart, halpha, hne]

theorem of_isDigit {c : Char} (h : c.isDigit = true) : of c = .digit := if_pos h

theorem of_isNameStart {c : Char} (h : isNameStart c = true) : of c = .letter := by
  have hdigit : ¬ c.isDigit = true := by
    intro hdigit
    rw [isNameStart_of_isDigit hdigit] at h
    contradiction
  exact (if_neg hdigit).trans (if_pos h)

theorem of_point : of '.' = .dot := by decide

theorem of_mem_symbolChars : ∀ c ∈ symbolChars, of c = .symbol := by
  have hall : symbolChars.all (of · == .symbol) = true := by decide
  simpa only [List.all_eq_true, beq_iff_eq] using hall

theorem of_members_blankSpans :
    ∀ n ∈ Text.members Text.blankSpans, of (Char.ofNat n) = .blank := by
  decide +kernel

theorem of_isBlank {c : Char} (h : Text.isBlank c = true) : of c = .blank := by
  have hkind := of_members_blankSpans c.toNat (Text.mem_members_of_covers h)
  rwa [Char.ofNat_toNat] at hkind

def Holds : CharKind → Char → Prop
  | .digit, c => c.isDigit = true
  | .letter, c => isNameStart c = true
  | .dot, c => c = '.'
  | .blank, c => Text.isBlank c = true
  | .symbol, c => c ∈ symbolChars
  | .other, c => isNameChar c = false ∧ Text.isBlank c = false ∧ c ∉ symbolChars

theorem holds_of (c : Char) : (of c).Holds c := by
  unfold of
  split_ifs with hdigit hletter hdot hblank hsymbol
  · exact hdigit
  · exact hletter
  · exact hdot
  · exact hblank
  · exact hsymbol
  · refine ⟨?_, by simpa using hblank, hsymbol⟩
    have hstart : isNameStart c = false := by simpa [isNameStart] using hletter
    simp [isNameChar, isNumeralChar, hstart, hdigit, hdot]

theorem isNumeralChar_iff_of {c : Char} :
    isNumeralChar c = true ↔ of c = .digit ∨ of c = .dot := by
  rw [isNumeralChar_iff]
  constructor
  · rintro (hdigit | rfl)
    · exact .inl (of_isDigit hdigit)
    · exact .inr of_point
  · have hc := holds_of c
    rintro (hkind | hkind) <;> rw [hkind] at hc
    · exact .inl hc
    · exact .inr hc

theorem isNameStart_iff_of {c : Char} : isNameStart c = true ↔ of c = .letter :=
  ⟨of_isNameStart, fun hkind => by have hc := holds_of c; rwa [hkind] at hc⟩

theorem isNameChar_iff_of {c : Char} :
    isNameChar c = true ↔ of c = .letter ∨ of c = .digit ∨ of c = .dot := by
  rw [isNameChar, Bool.or_eq_true, isNameStart_iff_of, isNumeralChar_iff_of]

theorem isBlank_iff_of {c : Char} : Text.isBlank c = true ↔ of c = .blank :=
  ⟨of_isBlank, fun hkind => by have hc := holds_of c; rwa [hkind] at hc⟩

theorem mem_symbolChars_iff_of {c : Char} : c ∈ symbolChars ↔ of c = .symbol :=
  ⟨of_mem_symbolChars c, fun hkind => by have hc := holds_of c; rwa [hkind] at hc⟩

end CharKind
end Gauge
